import Mathlib.Algebra.Group.Int.Defs
import Mathlib.Data.String.Basic

namespace Ipsc2Mmdvm.Data

structure UDPAddr where
  ip : String
  port : Nat
  zone : String := ""
deriving DecidableEq

def joinHostPort (host port : String) : String :=
  if host.toList.contains ':' then "[" ++ host ++ "]:" ++ port else host ++ ":" ++ port

def UDPAddr.string (addr : UDPAddr) : String :=
  joinHostPort (if addr.zone = "" then addr.ip else addr.ip ++ "%" ++ addr.zone) (toString addr.port)

theorem joinHostPort_ne_empty (host port : String) : joinHostPort host port ≠ "" := by
  simp only [joinHostPort]
  split <;> simp

theorem UDPAddr.string_ne_empty (addr : UDPAddr) : addr.string ≠ "" := joinHostPort_ne_empty _ _

def splitHostPort (hostport : String) : Option (String × String) :=
  let text := hostport.toList
  let port := (text.reverse.takeWhile (· != ':')).reverse
  let colon := text.length - port.length - 1
  if !text.contains ':' then none
  else if text.head? = some '[' then
    let close := text.idxOf ']'
    if close + 1 = colon ∧ !(text.drop 1).contains '[' ∧ !(text.drop (close + 1)).contains ']' then
      some (String.ofList ((text.take close).drop 1), String.ofList port)
    else none
  else
    let host := text.take colon
    if host.contains ':' || text.contains '[' || text.contains ']' then none
    else some (String.ofList host, String.ofList port)

example : splitHostPort "[2001:db8::1]:62031" = some ("2001:db8::1", "62031") := by decide

def atoi (text : String) : Option Int :=
  let (negative, digits) :=
    match text.toList with
    | '-' :: digits => (true, digits)
    | '+' :: digits => (false, digits)
    | digits => (false, digits)
  let magnitude : Nat := digits.foldl (fun n digit => 10 * n + (digit.toNat - '0'.toNat)) 0
  let value : Int := if negative then -magnitude else magnitude
  if digits.isEmpty || digits.any (fun digit => !digit.isDigit) then none
  else if -2 ^ 63 ≤ value ∧ value < 2 ^ 63 then some value
  else none

end Ipsc2Mmdvm.Data
