import Ipsc2Mmdvm.Nrl.Decoders

namespace Ipsc2Mmdvm.Nrl

open Data Proto Option Finmap GoMap
open List hiding Vector

/-! The payloads of a decoder are its samples, in pieces of 500: a burst adds at most 480 samples to
a buffer that is shorter than a payload, so one payload at most is written for it. -/

def DecoderAction.decoder : DecoderAction → Nat
  | .samples decoder _ => decoder
  | .write decoder _ _ _ => decoder

def decodedBy (decoder : Nat) (log : List DecoderAction) : Bytes :=
  log.flatMap fun
    | .samples owner alaw => if owner = decoder then alaw else []
    | .write _ _ _ _ => []

def offeredBy (decoder : Nat) (log : List DecoderAction) : Bytes :=
  log.flatMap fun
    | .samples _ _ => []
    | .write owner _ payload _ => if owner = decoder then payload else []

def DecoderAction.Full : DecoderAction → Prop
  | .samples _ _ => True
  | .write _ _ payload _ => payload.length = voicePayloadSize

section

variable {log actions : List DecoderAction} {decoder owner : Nat}

@[simp] theorem decodedBy_append : decodedBy decoder (log ++ actions) = decodedBy decoder log ++ decodedBy decoder actions :=
  flatMap_append

@[simp] theorem offeredBy_append : offeredBy decoder (log ++ actions) = offeredBy decoder log ++ offeredBy decoder actions :=
  flatMap_append

theorem logs_of_ne (others : ∀ action ∈ actions, action.decoder ≠ decoder) :
    offeredBy decoder actions = [] ∧ decodedBy decoder actions = [] := by
  refine ⟨flatMap_eq_nil_iff.mpr fun action member => ?_, flatMap_eq_nil_iff.mpr fun action member => ?_⟩
  · cases action with
    | samples owner alaw => rfl
    | write owner srcDMRID payload result => exact if_neg (others _ member)
  · cases action with
    | samples owner alaw => exact if_neg (others _ member)
    | write owner srcDMRID payload result => rfl

theorem logs_append_of_ne (log : List DecoderAction) (own : ∀ action ∈ actions, action.decoder = owner)
    (differs : owner ≠ decoder) :
    offeredBy decoder (log ++ actions) = offeredBy decoder log ∧ decodedBy decoder (log ++ actions) = decodedBy decoder log := by
  obtain ⟨offered, decoded⟩ := logs_of_ne fun action member same => differs ((own action member).symm.trans same)
  rw [offeredBy_append, decodedBy_append, offered, decoded, append_nil, append_nil]
  exact ⟨rfl, rfl⟩

end

section

variable {σ : Type}

structure Framed (decoders : GoMap String (DecodeState σ)) (made : Nat) (log : List DecoderAction) : Prop where
  full : ∀ action ∈ log, action.Full
  known : ∀ action ∈ log, action.decoder < made
  numbered : ∀ key state, decoders.lookup key = some state → state.number < made
  apart : ∀ key other state twin, decoders.lookup key = some state → decoders.lookup other = some twin →
    state.number = twin.number → key = other
  live : ∀ key state, decoders.lookup key = some state →
    offeredBy state.number log ++ state.buffer = decodedBy state.number log
  gone : ∀ decoder < made, (∀ key state, decoders.lookup key = some state → state.number ≠ decoder) →
    ∃ k < voicePayloadSize, offeredBy decoder log = decodedBy decoder log ++ List.replicate k 0xD5

def Short (decoders : GoMap String (DecodeState σ)) : Prop :=
  ∀ key state, decoders.lookup key = some state → state.buffer.length < voicePayloadSize

variable {decoders : GoMap String (DecodeState σ)} {made : Nat} {log actions : List DecoderAction} {key : String}
  {state next : DecodeState σ}

theorem Framed.create (framed : Framed decoders made log) (missing : decoders.lookup key = none)
    (number : state.number = made) (empty : state.buffer = []) : Framed (decoders.insert key state) (made + 1) log := by
  have present {other : String} {twin : DecodeState σ} : (decoders.insert key state).lookup other = some twin ↔
      decoders.lookup other = some twin ∨ other = key ∧ twin = state := lookup_insert_of_absent missing
  have older {other : String} {twin : DecodeState σ} (found : decoders.lookup other = some twin) : twin.number ≠ made :=
    Nat.ne_of_lt (framed.numbered other twin found)
  refine ⟨framed.full, fun action member => Nat.lt_succ_of_lt (framed.known action member), ?_, ?_, ?_, ?_⟩
  · intro other twin found
    rcases present.mp found with found | ⟨rfl, rfl⟩
    · exact Nat.lt_succ_of_lt (framed.numbered other twin found)
    · omega
  · intro first second one two foundOne foundTwo same
    rcases present.mp foundOne with old | ⟨rfl, rfl⟩ <;> rcases present.mp foundTwo with old' | ⟨rfl, rfl⟩
    · exact framed.apart first second one two old old' same
    · exact absurd (same.trans number) (older old)
    · exact absurd (same.symm.trans number) (older old')
    · rfl
  · intro other twin found
    rcases present.mp found with found | ⟨rfl, rfl⟩
    · exact framed.live other twin found
    · obtain ⟨offered, decoded⟩ := logs_of_ne fun action member => Nat.ne_of_lt (framed.known action member)
      rw [empty, append_nil, number, offered, decoded]
  · intro decoder early away
    have lower : decoder < made := by
      refine Nat.lt_of_le_of_ne (Nat.le_of_lt_succ early) fun same => ?_
      exact away key state (present.mpr (.inr ⟨rfl, rfl⟩)) (number.trans same.symm)
    exact framed.gone decoder lower fun other twin found => away other twin (present.mpr (.inl found))

theorem Framed.act (framed : Framed decoders made log) (present : decoders.lookup key = some state)
    {table : GoMap String (DecodeState σ)} (elsewhere : ∀ other, other ≠ key → table.lookup other = decoders.lookup other)
    (goesOn : ∀ next ∈ table.lookup key, next.number = state.number ∧
      offeredBy state.number actions ++ next.buffer = state.buffer ++ decodedBy state.number actions)
    (removed : table.lookup key = none → ∃ k < voicePayloadSize,
      offeredBy state.number actions = state.buffer ++ (decodedBy state.number actions ++ replicate k 0xD5))
    (own : ∀ action ∈ actions, action.decoder = state.number) (full : ∀ action ∈ actions, action.Full) :
    Framed table made (log ++ actions) := by
  -- the table before has a decoder of the same number at the same key
  have before {other : String} {twin : DecodeState σ} (found : table.lookup other = some twin) :
      ∃ old, decoders.lookup other = some old ∧ old.number = twin.number := by
    by_cases same : other = key
    · subst same
      exact ⟨state, present, (goesOn twin found).1.symm⟩
    · exact ⟨twin, (elsewhere other same).symm.trans found, rfl⟩
  refine ⟨forall_mem_append.mpr ⟨framed.full, full⟩, ?_, ?_, ?_, ?_, ?_⟩
  · refine forall_mem_append.mpr ⟨framed.known, fun action member => ?_⟩
    rw [own action member]
    exact framed.numbered key state present
  · intro other twin found
    obtain ⟨old, foundOld, same⟩ := before found
    exact same ▸ framed.numbered other old foundOld
  · intro first second one two foundOne foundTwo same
    obtain ⟨old, foundOld, sameOld⟩ := before foundOne
    obtain ⟨older, foundOlder, sameOlder⟩ := before foundTwo
    exact framed.apart first second old older foundOld foundOlder ((sameOld.trans same).trans sameOlder.symm)
  · intro other twin found
    by_cases same : other = key
    · subst same
      obtain ⟨number, frames⟩ := goesOn twin found
      rw [number, offeredBy_append, decodedBy_append, append_assoc, frames, ← append_assoc,
        framed.live other state present]
    · rw [elsewhere other same] at found
      obtain ⟨offered, decoded⟩ := logs_append_of_ne log own fun shared =>
        same (framed.apart other key twin state found present shared.symm)
      rw [offered, decoded]
      exact framed.live other twin found
  · intro decoder early away
    by_cases same : state.number = decoder
    · subst same
      cases left : table.lookup key with
      | some next => exact absurd (goesOn next left).1 (away key next left)
      | none =>
        obtain ⟨k, small, padded⟩ := removed left
        refine ⟨k, small, ?_⟩
        rw [offeredBy_append, decodedBy_append, padded, ← append_assoc, framed.live key state present, append_assoc]
    · obtain ⟨offered, decoded⟩ := logs_append_of_ne log own same
      rw [offered, decoded]
      refine framed.gone decoder early fun other twin found => ?_
      by_cases here : other = key
      · subst here
        cases present.symm.trans found
        exact same
      · exact away other twin ((elsewhere other here).trans found)

theorem Framed.remove (framed : Framed decoders made log) (present : decoders.lookup key = some state)
    (own : ∀ action ∈ actions, action.decoder = state.number) (full : ∀ action ∈ actions, action.Full)
    (padded : ∃ k < voicePayloadSize,
      offeredBy state.number actions = state.buffer ++ (decodedBy state.number actions ++ replicate k 0xD5)) :
    Framed (decoders.erase key) made (log ++ actions) :=
  framed.act present (fun _ => lookup_erase_ne) (by simp [lookup_erase]) (fun _ => padded) own full

theorem Short.insert (short : ∀ other state, other ≠ key → decoders.lookup other = some state →
    state.buffer.length < voicePayloadSize) (length : next.buffer.length < voicePayloadSize) :
    Short (decoders.insert key next) := by
  intro other twin found
  rcases lookup_insert_eq_some.mp found with ⟨_, rfl⟩ | ⟨differs, found⟩
  · exact length
  · exact short other twin differs found

theorem Short.erase (short : Short decoders) (key : String) : Short (decoders.erase key) := by
  intro other twin found
  exact short other twin (lookup_erase_eq_some.mp found).2

structure Sound (s : Receiver σ) (log : List DecoderAction) : Prop where
  framed : Framed s.decoders s.made log
  short : Short s.decoders

variable {line : Line σ} {s : Receiver σ}

end

end Ipsc2Mmdvm.Nrl
