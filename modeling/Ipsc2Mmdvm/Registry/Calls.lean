import Ipsc2Mmdvm.Data.GoMap
import Ipsc2Mmdvm.Data.Transitions
import Ipsc2Mmdvm.Registry.Device
import Ipsc2Mmdvm.Registry.Store

namespace Ipsc2Mmdvm.Registry

open Data

/-! `RecordCall` and `expireCalls` give up the lock of the service before each call of the store.
What remains to be done of an execution is a task; a step is one section under the lock or one call
of the store. -/

abbrev Instant := { time : Time // time ≠ 0 }

abbrev CallRows := Table CallRecord.id CallRecord.id

def recentCallLimit : Nat := 50

def createdFirst (a b : CallRecord) : Bool :=
  if timeTextLess b.createdAt a.createdAt then true
  else if timeTextLess a.createdAt b.createdAt then false
  else decide (b.id < a.id)

theorem find_next (rows : CallRows) : rows.find rows.next = none :=
  Table.find_eq_none.mpr fun row member => Nat.ne_of_lt (rows.bounded row member)

def insertCall (rows : CallRows) (call : CallRecord) : CallRows × CallRecord :=
  let stored := { call with id := rows.next }
  let inserted := rows.insert stored (find_next rows) rfl
  (inserted.deleteWhere fun row =>
    decide (recentCallLimit ≤ inserted.rows.countP fun newer => createdFirst newer row), stored)

def CallRecord.finish (row : CallRecord) (id : Nat) (endedAt : Time) (durationMS : Int) : CallRecord :=
  if row.id = id then { row with endedAt, durationMS } else row

theorem CallRecord.finish_id (row : CallRecord) (id : Nat) (endedAt : Time) (durationMS : Int) :
    (row.finish id endedAt durationMS).id = row.id := by
  simp only [finish]
  split <;> rfl

def updateCallDuration (rows : CallRows) (id : Nat) (endedAt : Time) (durationMS : Int) : CallRows :=
  rows.update (·.finish id endedAt durationMS) (fun row => row.finish_id id endedAt durationMS)
    (fun row => row.finish_id id endedAt durationMS)

structure ActiveCall where
  id : Nat
  startedAt : Time
  lastSeenAt : Time
  frontend : String
  sourceKey : String
  slot : Int
  callType : String
deriving DecidableEq

structure Finish where
  key : String
  active : ActiveCall
  endedAt : Instant

def Finish.durationMS (item : Finish) : Int :=
  (Time.sub item.endedAt item.active.startedAt).tdiv millisecond

inductive Task where
  | insert (call : CallRecord) (ended : Bool)
  | register (stored : CallRecord) (ended : Bool)
  | update (item : Finish) (rest : List Finish)
  | remove (item : Finish) (rest : List Finish)
  | done

/-- `removed` is set after the entry of a finished call was deleted: the number of
that call and the number in the entry. -/
structure CallService where
  rows : CallRows
  activeCall : GoMap String ActiveCall
  recent : List CallRecord
  callTotal : Nat
  published : List Event
  tasks : List Task
  removed : Option (Nat × Nat)

inductive CallStep where
  | recordCall (call : CallRecord) (ended : Bool) (now : Instant) (order : Enumeration String)
  | expireCalls (now : Instant) (order : Enumeration String)
  | advance (task : Nat)

def callIdleTimeout (frontend : String) : Duration :=
  if frontend = "mmdvm" then 3 * second else if frontend = "nrl" then 4 * second else 12 * second

def recentCallByIDLocked (recent : List CallRecord) (id : Nat) : Option CallRecord :=
  recent.find? fun call => call.id == id

/-- Packets of one source and slot belong together unless their destinations or
sources differ; everything of an NRL source belongs together. -/
def matchesActiveCall (recent : List CallRecord) (call : CallRecord) (ended : Bool) (active : ActiveCall) :
    Bool :=
  active.frontend == call.frontend && active.sourceKey == call.sourceKey &&
    (call.frontend == "nrl" ||
      (active.slot == call.slot && active.callType == call.callType &&
        (ended || call.dstID == 0 ||
          (recentCallByIDLocked recent active.id).any fun existing =>
            existing.dstID == call.dstID &&
              (call.srcID == 0 || existing.srcID == 0 || existing.srcID == call.srcID))))

def Task.next : List Finish → Task
  | [] => .done
  | item :: rest => .update item rest

namespace CallService

def findMatchingActiveCallLocked (s : CallService) (order : Enumeration String) (call : CallRecord)
    (ended : Bool) : Option (String × ActiveCall) :=
  (order.order s.activeCall.keys).findSome? fun key =>
    ((s.activeCall.lookup key).filter (matchesActiveCall s.recent call ended)).map (key, ·)

def findActiveCall (s : CallService) (order : Enumeration String) (call : CallRecord) (ended : Bool) :
    Option (String × ActiveCall) :=
  match s.activeCall.lookup (callDedupKey call) with
  | some active => some (callDedupKey call, active)
  | none => s.findMatchingActiveCallLocked order call ended

def spawn (s : CallService) (task : Task) : CallService := { s with tasks := s.tasks ++ [task], removed := none }

def recordCall (s : CallService) (call : CallRecord) (ended : Bool) (now : Instant)
    (order : Enumeration String) : CallService :=
  match s.findActiveCall order call ended with
  | some (key, active) =>
    if ended then s.spawn (.update ⟨key, active, now⟩ [])
    else
      { s with
        activeCall := s.activeCall.insert key { active with lastSeenAt := now }
        removed := none }
  | none =>
    let call := { call with createdAt := now.val }
    s.spawn (.insert (if ended then { call with endedAt := now, durationMS := 0 } else call) ended)

def expired (s : CallService) (now : Instant) (order : Enumeration String) : List Finish :=
  (order.order s.activeCall.keys).filterMap fun key =>
    ((s.activeCall.lookup key).filter fun active =>
      decide (callIdleTimeout active.frontend <
        Time.sub now (if active.lastSeenAt = 0 then active.startedAt else active.lastSeenAt))).map
      (⟨key, ·, now⟩)

def register (lookup : UInt32 → String) (s : CallService) (stored : CallRecord) (ended : Bool) :
    CallService :=
  let recent := s.recent ++ [enrichCall lookup stored]
  { s with
    activeCall :=
      if ended then s.activeCall
      else s.activeCall.insert (callDedupKey stored)
        ⟨stored.id, stored.createdAt, stored.createdAt, stored.frontend, stored.sourceKey, stored.slot,
          stored.callType⟩
    callTotal := s.callTotal + 1
    recent := recent.drop (recent.length - recentCallLimit)
    published := s.published ++ [.callRecorded (enrichCall lookup stored)] }

def remove (lookup : UInt32 → String) (s : CallService) (item : Finish) : CallService :=
  let finish (call : CallRecord) := { call with endedAt := item.endedAt.val, durationMS := item.durationMS }
  let updated := (recentCallByIDLocked s.recent item.active.id).map fun call => enrichCall lookup (finish call)
  { s with
    activeCall := s.activeCall.erase item.key
    recent := s.recent.replaceF fun call => if call.id = item.active.id then some (finish call) else none
    published := s.published ++ ((updated.filter fun call => call.id ≠ 0).map .callRecorded).toList
    removed := (s.activeCall.lookup item.key).map fun entry => (item.active.id, entry.id) }

def advance (lookup : UInt32 → String) (s : CallService) (i : Nat) : CallService :=
  match s.tasks[i]? with
  | some (.insert call ended) =>
    let (rows, stored) := insertCall s.rows call
    { s with rows, tasks := s.tasks.set i (.register stored ended), removed := none }
  | some (.register stored ended) =>
    { s.register lookup stored ended with tasks := s.tasks.set i .done, removed := none }
  | some (.update item rest) =>
    { s with
      rows := updateCallDuration s.rows item.active.id item.endedAt item.durationMS
      tasks := s.tasks.set i (.remove item rest)
      removed := none }
  | some (.remove item rest) => { s.remove lookup item with tasks := s.tasks.set i (.next rest) }
  | _ => { s with removed := none }

def step (lookup : UInt32 → String) (s : CallService) : CallStep → CallService
  | .recordCall call ended now order => s.recordCall (enrichCall lookup call) ended now order
  | .expireCalls now order => s.spawn (.next (s.expired now order))
  | .advance i => s.advance lookup i

end CallService

end Ipsc2Mmdvm.Registry
