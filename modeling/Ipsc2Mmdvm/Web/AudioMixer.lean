import Ipsc2Mmdvm.Data.Clock
import Ipsc2Mmdvm.Data.GoMap
import Ipsc2Mmdvm.Data.Transitions
import Ipsc2Mmdvm.Nrl.G711
import Mathlib.Algebra.BigOperators.Group.Finset.Basic
import Mathlib.Algebra.Ring.Int.Defs
import Mathlib.Data.List.GetD
import Mathlib.Data.String.Basic
import Mathlib.Data.Vector.Defs

namespace Ipsc2Mmdvm.Web

open Data Nrl GoMap
open List hiding Vector

/-! Every 20 ms the next 160 samples of all streams are added and sent as one frame.  The loop over
the streams adds in the order of the map to words of 32 bits. -/

def mixedAudioFrameSamples : Nat := 160

def mixedAudioIdleTimeout : Duration := 5 * second

structure AudioChunk where
  streamID : String
  pcm : List UInt8 := []
  ended : Bool := false
  createdAt : Time := 0
deriving DecidableEq

structure MixedAudioStream where
  target : String
  samples : List Int16 := []
  lastSeen : Time := 0
  ended : Bool := false
deriving DecidableEq

structure WSAudioMixer where
  streams : GoMap String MixedAudioStream := ∅

def decodePCM16 : List UInt8 → List Int16
  | low :: high :: rest => (low.toUInt16 ||| high.toUInt16 <<< 8).toInt16 :: decodePCM16 rest
  | _ => []

def clampPCM16 (sample : Int32) : Int16 :=
  if sample > 32767 then 32767 else if sample < -32768 then -32768 else sample.toInt16

def alawBytes (samples : List Int16) : List UInt8 := samples.map linearToAlaw

namespace WSAudioMixer

def add (now : Time) (chunk : AudioChunk) (target : String) (m : WSAudioMixer) : WSAudioMixer :=
  if chunk.streamID = "" ∨ target = "" then m
  else
    let stream := (m.streams.lookup chunk.streamID).getD { target }
    let stream := { stream with
      target
      lastSeen := if Time.isZero chunk.createdAt then now else chunk.createdAt
      samples := if 2 ≤ chunk.pcm.length then stream.samples ++ decodePCM16 chunk.pcm else stream.samples
      ended := stream.ended || chunk.ended }
    { streams := m.streams.insert chunk.streamID stream }

def removeTarget (target : String) (m : WSAudioMixer) : WSAudioMixer :=
  if target = "" then m else { streams := m.streams.deleteWhere fun _ stream => stream.target == target }

end WSAudioMixer

structure Flushing where
  streams : GoMap String MixedAudioStream
  mix : Vector Int32 160 := Vector.replicate 160 0
  active : Bool := false

def addSamples (mix : Vector Int32 160) (samples : List Int16) : Vector Int32 160 :=
  Vector.ofFn fun i => if i < samples.length then mix[i] + (samples.getD i 0).toInt32 else mix[i]

def Flushing.visit (now : Time) (f : Flushing) (streamID : String) : Flushing :=
  match f.streams.lookup streamID with
  | none => f
  | some stream =>
    if stream.samples = [] then
      if stream.ended || decide (mixedAudioIdleTimeout < Time.sub now stream.lastSeen) then
        { f with streams := f.streams.erase streamID }
      else f
    else
      let n := min mixedAudioFrameSamples stream.samples.length
      let rest := stream.samples.drop n
      { streams :=
          if rest = [] ∧ stream.ended = true then f.streams.erase streamID
          else f.streams.insert streamID { stream with samples := rest }
        mix := addSamples f.mix (stream.samples.take n)
        active := true }

def WSAudioMixer.flush (order : Enumeration String) (now : Time) (m : WSAudioMixer) : WSAudioMixer × Option (List UInt8) :=
  let f := (order.order m.streams.keys).foldl (Flushing.visit now) { streams := m.streams }
  ({ streams := f.streams }, if f.active then some (alawBytes (f.mix.toList.map clampPCM16)) else none)

def WSAudioMixer.queued (m : WSAudioMixer) (streamID : String) : List Int16 :=
  ((m.streams.lookup streamID).map MixedAudioStream.samples).getD []

def WSAudioMixer.nextSample (m : WSAudioMixer) (i : Nat) (streamID : String) : Int := ((m.queued streamID).getD i 0).toInt

def clamped (sum : Int) : Int16 := Int16.ofInt (max (-32768) (min 32767 sum))

def WSAudioMixer.frame (m : WSAudioMixer) : List UInt8 :=
  List.ofFn fun i : Fin 160 => linearToAlaw (clamped (∑ streamID ∈ m.streams.keys, m.nextSample i streamID))

structure FlushCorrect (m : WSAudioMixer) (now : Time) (result : WSAudioMixer × Option (List UInt8)) : Prop where
  silent : result.2 = none ↔ ∀ streamID, m.queued streamID = []
  mixed : ∀ frame ∈ result.2, frame = m.frame
  consumed : ∀ streamID, result.1.queued streamID = (m.queued streamID).drop mixedAudioFrameSamples
  deleted : ∀ streamID stream, m.streams.lookup streamID = some stream → result.1.streams.lookup streamID = none →
    stream.samples.drop mixedAudioFrameSamples = [] ∧
      (stream.ended = true ∨ mixedAudioIdleTimeout < Time.sub now stream.lastSeen)

open MixedAudioStream WSAudioMixer

section

variable {m : WSAudioMixer} {now : Time} {f : Flushing} {streamID : String}

theorem clampPCM16_eq (sample : Int32) : clampPCM16 sample = clamped sample.toInt := by
  have above : sample > 32767 ↔ 32767 < sample.toInt := Int32.lt_iff_toInt_lt
  have below : sample < -32768 ↔ sample.toInt < -32768 := Int32.lt_iff_toInt_lt
  simp only [clampPCM16, above, below, clamped]
  split
  · have high : max (-32768) (min 32767 sample.toInt) = 32767 := by omega
    rw [high]
    rfl
  · split
    · have low : max (-32768) (min 32767 sample.toInt) = -32768 := by omega
      rw [low]
      rfl
    · have same : max (-32768) (min 32767 sample.toInt) = sample.toInt := by omega
      rw [same, ← Int32.toInt16_ofInt, Int32.ofInt_toInt]

def MixedAudioStream.afterFlush (now : Time) (stream : MixedAudioStream) : Option MixedAudioStream :=
  let rest := stream.samples.drop mixedAudioFrameSamples
  if rest = [] ∧ (stream.ended = true ∨ stream.samples = [] ∧ mixedAudioIdleTimeout < Time.sub now stream.lastSeen) then none
  else some { stream with samples := rest }

def writeBack (streams : GoMap String MixedAudioStream) (streamID : String) :
    Option MixedAudioStream → GoMap String MixedAudioStream
  | none => streams.erase streamID
  | some stream => streams.insert streamID stream

theorem lookup_writeBack (streams : GoMap String MixedAudioStream) (value : Option MixedAudioStream) (other : String) :
    (writeBack streams streamID value).lookup other = if other = streamID then value else streams.lookup other := by
  cases value with
  | none => exact lookup_erase_eq ..
  | some stream => exact lookup_insert_eq ..

theorem addSamples_nil (mix : Vector Int32 160) : addSamples mix [] = mix := by
  apply Vector.ext
  intro i inside
  simp [addSamples]

theorem visit_of_lookup {stream : MixedAudioStream} (found : f.streams.lookup streamID = some stream) :
    f.visit now streamID =
      { streams := writeBack f.streams streamID (stream.afterFlush now)
        mix := addSamples f.mix (stream.samples.take mixedAudioFrameSamples)
        active := f.active || stream.samples != [] } := by
  simp only [Flushing.visit, found, afterFlush]
  by_cases empty : stream.samples = []
  · have kept : f.streams.insert streamID { stream with samples := [] } = f.streams := by
      rw [insert_eq_self_iff, found, ← empty]
    simp only [empty, if_true, drop_nil, take_nil, addSamples_nil, true_and, bne_self_eq_false, Bool.or_false,
      Bool.or_eq_true, decide_eq_true_eq]
    split
    · rfl
    · rw [writeBack, kept]
  · simp only [empty, if_false, ← drop_eq_drop_min, ← take_eq_take_min, false_and, or_false,
      bne_iff_ne.mpr empty, Bool.or_true, Flushing.mk.injEq, and_true]
    split <;> rfl

theorem lookup_visit (other : String) : (f.visit now streamID).streams.lookup other =
      if other = streamID then (f.streams.lookup streamID).bind (afterFlush now)
      else f.streams.lookup other := by
  cases found : f.streams.lookup streamID with
  | none =>
    simp only [Flushing.visit, found, Option.bind_none]
    split
    · rename_i same
      rw [same, found]
    · rfl
  | some stream =>
    rw [visit_of_lookup found]
    exact lookup_writeBack ..

theorem toInt_addSamples {mix : Vector Int32 160} {samples : List Int16} {n : Nat} (i : Fin 160)
    (low : -32768 * (n : Int) ≤ mix[i].toInt) (high : mix[i].toInt ≤ 32767 * (n : Int)) (few : n < 65536) :
    (addSamples mix (samples.take mixedAudioFrameSamples))[i].toInt = mix[i].toInt + (samples.getD i 0).toInt := by
  have bounds := (samples.getD i 0).le_toInt
  have bounds' := (samples.getD i 0).toInt_lt
  simp only [addSamples, Fin.getElem_fin, Vector.getElem_ofFn] at low high ⊢
  split
  · rename_i inside
    have entry : (samples.take mixedAudioFrameSamples).getD i 0 = samples.getD i 0 := by
      rw [length_take, lt_min_iff] at inside
      simp [getD_eq_getElem?_getD, inside.1]
    rw [entry, Int32.toInt_add, Int16.toInt_toInt32, Int.bmod_eq_of_le] <;> omega
  · rename_i outside
    have past : samples.getD i 0 = 0 := by
      rw [length_take, lt_min_iff] at outside
      have within : (i : Nat) < mixedAudioFrameSamples := i.isLt
      exact getD_eq_default _ _ (by omega)
    rw [past]
    simp

structure Visited (m : WSAudioMixer) (now : Time) (seen : List String) (f : Flushing) : Prop where
  streams : ∀ streamID, f.streams.lookup streamID =
    if streamID ∈ seen then (m.streams.lookup streamID).bind (MixedAudioStream.afterFlush now) else m.streams.lookup streamID
  mix : ∀ i : Fin 160, f.mix[i].toInt = (seen.map (m.nextSample i)).sum
  active : f.active = seen.any fun streamID => m.queued streamID != []

theorem sum_nextSample_bounds (m : WSAudioMixer) (i : Nat) (seen : List String) :
    -32768 * (seen.length : Int) ≤ (seen.map (m.nextSample i)).sum ∧
      (seen.map (m.nextSample i)).sum ≤ 32767 * (seen.length : Int) := by
  induction seen with
  | nil => simp
  | cons streamID seen ih =>
    have low := ((m.queued streamID).getD i 0).le_toInt
    have high := ((m.queued streamID).getD i 0).toInt_lt
    simp only [map_cons, sum_cons, length_cons, nextSample] at ih ⊢
    omega

theorem Visited.visit {seen : List String} (visited : Visited m now seen f) (fresh : streamID ∉ seen)
    (few : seen.length < 65536) : Visited m now (seen ++ [streamID]) (f.visit now streamID) := by
  have here := visited.streams streamID
  rw [if_neg fresh] at here
  refine ⟨?_, ?_, ?_⟩
  · intro other
    rw [lookup_visit, here, visited.streams other]
    by_cases same : other = streamID
    · subst same
      simp
    · simp [same]
  · intro i
    obtain ⟨low, high⟩ := sum_nextSample_bounds m i seen
    rw [map_append, sum_append, map_singleton, sum_singleton, ← visited.mix i]
    rw [← visited.mix i] at low high
    cases found : m.streams.lookup streamID with
    | none =>
      rw [found] at here
      simp [Flushing.visit, here, nextSample, queued, found]
    | some stream =>
      rw [found] at here
      rw [visit_of_lookup here, toInt_addSamples i low high few, nextSample, queued, found]
      rfl
  · rw [any_append, ← visited.active]
    cases found : m.streams.lookup streamID with
    | none =>
      rw [found] at here
      simp [Flushing.visit, here, queued, found]
    | some stream =>
      rw [found] at here
      simp [visit_of_lookup here, queued, found]

theorem visited_foldl {seen : List String} (distinct : seen.Nodup) (few : seen.length ≤ 65536) :
    Visited m now seen (seen.foldl (Flushing.visit now) { streams := m.streams }) := by
  induction seen using reverseRecOn with
  | nil => exact ⟨fun _ => rfl, fun i => by simp, rfl⟩
  | append_singleton seen streamID ih =>
    obtain ⟨before, -, apart⟩ := nodup_append.mp distinct
    rw [length_append, length_singleton] at few
    rw [foldl_append]
    refine (ih before (by omega)).visit (fun member => ?_) (by omega)
    exact apart streamID member streamID (mem_singleton_self _) rfl

theorem queued_eq_nil_of_notMem (absent : streamID ∉ m.streams.keys) : m.queued streamID = [] := by
  rw [Finmap.mem_keys, ← Finmap.lookup_eq_none] at absent
  simp [queued, absent]

theorem flush_correct (order : Enumeration String) (few : m.streams.keys.card ≤ 65536) :
    FlushCorrect m now (m.flush order now) := by
  have distinct := order.nodup m.streams.keys
  have all : (order.order m.streams.keys).toFinset = m.streams.keys := by
    ext streamID
    simp [order.mem_order]
  have count : (order.order m.streams.keys).length = m.streams.keys.card := by
    rw [← toFinset_card_of_nodup distinct, all]
  have visited := @visited_foldl m now _ distinct (by omega)
  have after : ∀ streamID, (m.flush order now).1.streams.lookup streamID =
      (m.streams.lookup streamID).bind (afterFlush now) := by
    intro streamID
    rw [flush, visited.streams]
    split
    · rfl
    · rename_i absent
      rw [order.mem_order, Finmap.mem_keys, ← Finmap.lookup_eq_none] at absent
      rw [absent]
      rfl
  refine ⟨?_, ?_, ?_, ?_⟩
  · simp only [flush, visited.active, ite_eq_right_iff, reduceCtorEq, imp_false, Bool.not_eq_true,
      any_eq_false, bne_iff_ne, ne_eq, not_not]
    refine ⟨fun silent streamID => ?_, fun silent streamID _ => silent streamID⟩
    by_cases member : streamID ∈ m.streams.keys
    · exact silent streamID (order.mem_order.mpr member)
    · exact queued_eq_nil_of_notMem member
  · intro frame made
    simp only [flush, Option.mem_def, Option.ite_none_right_eq_some, Option.some.injEq] at made
    obtain ⟨_, rfl⟩ := made
    refine ext_getElem (by simp only [alawBytes, frame, length_map, Vector.length_toList,
      length_ofFn]) fun i inside _ => ?_
    have bound : i < 160 := by simpa [alawBytes] using inside
    have sum := visited.mix ⟨i, bound⟩
    rw [← sum_toFinset _ distinct, all] at sum
    simp only [alawBytes, frame, getElem_map, List.getElem_ofFn, Vector.getElem_toList, clampPCM16_eq]
    exact congrArg (fun total => linearToAlaw (clamped total)) sum
  · intro streamID
    rw [queued, after, queued]
    cases m.streams.lookup streamID with
    | none => rfl
    | some stream =>
      simp only [Option.bind_some, afterFlush]
      split
      · rename_i gone
        exact gone.1.symm
      · rfl
  · intro streamID stream found deleted
    rw [after, found, Option.bind_some, afterFlush, ite_eq_left_iff] at deleted
    obtain ⟨empty, reason⟩ := not_imp_comm.mp deleted nofun
    exact ⟨empty, reason.imp_right And.right⟩

end

inductive MixerCall where
  | add (now : Time) (chunk : AudioChunk) (target : String)
  | removeTarget (target : String)
  | flush (order : Enumeration String) (now : Time)

/-- The mixer with the samples that each stream was given and those that went into frames, both
since `RemoveTarget` last took the stream. -/
structure Ledger where
  mixer : WSAudioMixer := {}
  added : String → List Int16 := fun _ => []
  consumed : String → List Int16 := fun _ => []

namespace Ledger

def removes (ledger : Ledger) (target streamID : String) : Bool :=
  target != "" && (ledger.mixer.streams.lookup streamID).any fun stream => stream.target == target

def step (ledger : Ledger) : MixerCall → Ledger
  | .add now chunk target =>
    { ledger with
      mixer := ledger.mixer.add now chunk target
      added := fun streamID => ledger.added streamID ++
        if streamID = chunk.streamID ∧ chunk.streamID ≠ "" ∧ target ≠ "" then decodePCM16 chunk.pcm else [] }
  | .removeTarget target =>
    { mixer := ledger.mixer.removeTarget target
      added := fun streamID => if ledger.removes target streamID then [] else ledger.added streamID
      consumed := fun streamID => if ledger.removes target streamID then [] else ledger.consumed streamID }
  | .flush order now =>
    { ledger with
      mixer := (ledger.mixer.flush order now).1
      consumed := fun streamID =>
        ledger.consumed streamID ++ (ledger.mixer.queued streamID).take mixedAudioFrameSamples }

def Few (ledger : Ledger) (_ : MixerCall) : Prop := ledger.mixer.streams.keys.card ≤ 65536

instance (ledger : Ledger) (call : MixerCall) : Decidable (ledger.Few call) := inferInstanceAs (Decidable (_ ≤ _))

def Conserves (ledger : Ledger) : Prop :=
  ∀ streamID, ledger.added streamID = ledger.consumed streamID ++ ledger.mixer.queued streamID

def Correct (ledger : Ledger) : MixerCall → Prop
  | .flush order now => FlushCorrect ledger.mixer now (ledger.mixer.flush order now)
  | _ => True

variable {ledger : Ledger}

theorem decodePCM16_short {pcm : List UInt8} (short : ¬2 ≤ pcm.length) : decodePCM16 pcm = [] := by
  match pcm with
  | [] | [_] => rfl
  | _ :: _ :: _ => simp at short

theorem queued_add (m : WSAudioMixer) (now : Time) (chunk : AudioChunk) (target streamID : String) :
    (m.add now chunk target).queued streamID = m.queued streamID ++
      if streamID = chunk.streamID ∧ chunk.streamID ≠ "" ∧ target ≠ "" then decodePCM16 chunk.pcm else [] := by
  simp only [add]
  split
  · rename_i refused
    have rejected : ¬(streamID = chunk.streamID ∧ chunk.streamID ≠ "" ∧ target ≠ "") := by
      intro accepted
      exact refused.elim accepted.2.1 accepted.2.2
    rw [if_neg rejected, append_nil]
  · rename_i accepted
    simp only [queued]
    rw [lookup_insert_eq]
    by_cases same : streamID = chunk.streamID
    · subst same
      have samples : ((m.streams.lookup chunk.streamID).getD { target }).samples =
          ((m.streams.lookup chunk.streamID).map samples).getD [] := by
        cases m.streams.lookup chunk.streamID <;> rfl
      have taken : True ∧ chunk.streamID ≠ "" ∧ target ≠ "" := ⟨trivial, not_or.mp accepted⟩
      simp only [if_true, if_pos taken, ← samples, Option.map_some, Option.getD_some]
      split
      · rfl
      · rename_i short
        rw [decodePCM16_short short, append_nil]
    · simp [same]

theorem queued_removeTarget (target streamID : String) : (ledger.mixer.removeTarget target).queued streamID =
      if ledger.removes target streamID then [] else ledger.mixer.queued streamID := by
  simp only [removeTarget, removes]
  split
  · rename_i none
    simp [none]
  · rename_i given
    simp only [queued, bne_iff_ne.mpr given, Bool.true_and]
    rw [lookup_deleteWhere]
    cases ledger.mixer.streams.lookup streamID with
    | none => rfl
    | some stream => cases own : stream.target == target <;> simp [Option.filter, own]

theorem Conserves.step (conserves : ledger.Conserves) (call : MixerCall) (few : ledger.Few call) :
    (ledger.step call).Conserves := by
  intro streamID
  cases call with
  | add now chunk target =>
    simp only [Ledger.step, queued_add, conserves streamID, append_assoc]
  | removeTarget target =>
    simp only [Ledger.step, queued_removeTarget, conserves streamID]
    split <;> rfl
  | flush order now =>
    simp only [Ledger.step, (flush_correct order few).consumed, conserves streamID, append_assoc, take_append_drop]

end Ledger

/-- Every sample of a stream goes into a frame in its turn or is still queued, and every `Flush`
mixes the next samples of all streams. -/
theorem audio_mixer_conserves (calls : List MixerCall) (few : EachStep Ledger.step Ledger.Few {} calls) :
    (runFrom Ledger.step {} calls).Conserves ∧ EachStep Ledger.step Ledger.Correct {} calls := by
  have initial : ({} : Ledger).Conserves := fun _ => rfl
  have preserved : ∀ (ledger : Ledger) call, ledger.Conserves → ledger.Few call → (ledger.step call).Conserves :=
    fun _ call conserves => conserves.step call
  refine ⟨runFrom_invariant preserved initial few, few.of_invariant preserved ?_ initial⟩
  intro ledger call _ few
  cases call with
  | add | removeTarget => trivial
  | flush order now => exact flush_correct order few

theorem audio_mixer_conserves_two_streams :
    let calls : List MixerCall :=
      [.add 1000 { streamID := "a", pcm := [0xE8, 0x03, 0x18, 0xFC] } "group:1",
        .add 1000 { streamID := "b", pcm := [0xD0, 0x07] } "group:2", .flush (.increasing String) 2000]
    EachStep Ledger.step Ledger.Few {} calls ∧ EachStep Ledger.step Ledger.Correct {} calls := by
  intro calls
  have few : EachStep Ledger.step Ledger.Few {} calls := by decide +kernel
  exact ⟨few, (audio_mixer_conserves calls few).2⟩

end Ipsc2Mmdvm.Web
