import Ipsc2Mmdvm.Ipsc.Numbering
import Ipsc2Mmdvm.Web.AudioMixer

namespace Ipsc2Mmdvm.Audio

open Data Proto List GoMap Option

/-! Vocoders are lent to streams and taken back when a stream ends or falls silent.  A vocoder stands
for its pointer and is the number of its creation. -/

structure Chunk where
  streamID : String
  frontend : String
  sourceKey : String
  sourceDMRID : UInt32
  dstID : UInt32
  slot : Nat
  groupCall : Bool
  callType : String
  sampleRate : Nat := 8000
  channels : Nat := 1
  pcm : List UInt8 := []
  ended : Bool := false
  createdAt : Time

structure StreamDecoder where
  vocoder : Nat
  lastSeen : Time

structure DecoderPool where
  made : Nat
  idle : List Nat
  active : GoMap String StreamDecoder

/-- A packet and what its processing meets: the kind of its burst, whether a vocoder can be made, and
the samples that a vocoder makes of the frames, `none` if it fails at one of them. -/
structure Task where
  frontend : String
  sourceKey : String
  pkt : Packet
  now : Time
  isData : Bool
  creates : Bool
  decode : Nat → Option (List Int16)
  order : Enumeration String

def dmrStreamIdleTimeout : Duration := 3 * second

def pcm16Bytes (samples : List Int16) : List UInt8 :=
  samples.flatMap fun sample => [sample.toUInt16.toUInt8, (sample.toUInt16 >>> (8 : UInt16)).toUInt8]

theorem decodePCM16_pcm16Bytes (samples : List Int16) : Web.decodePCM16 (pcm16Bytes samples) = samples := by
  induction samples with
  | nil => rfl
  | cons sample samples ih =>
    have word : (sample.toUInt16.toUInt8.toUInt16 ||| (sample.toUInt16 >>> (8 : UInt16)).toUInt8.toUInt16 <<< 8).toInt16 =
        sample := by
      rw [UInt16.or_comm, Ipsc.uint16_bytes]
      rfl
    exact congrArg₂ cons word ih

def Task.streamID (task : Task) : String := "dmr:" ++ task.sourceKey ++ ":" ++ toString task.pkt.streamID.toNat

def Task.chunk (task : Task) (pcm : List UInt8) (ended : Bool) : Chunk where
  streamID := task.streamID
  frontend := task.frontend
  sourceKey := task.sourceKey
  sourceDMRID := task.pkt.src.toUInt32
  dstID := task.pkt.dst.toUInt32
  slot := if task.pkt.slot then 2 else 1
  groupCall := task.pkt.groupCall
  callType := if task.pkt.groupCall then "group" else "private"
  pcm := pcm
  ended := ended
  createdAt := task.now

namespace DecoderPool

/-- `NewDMRDecoderPool`, when its vocoders can be made -/
def new (warmSpares : Int) : DecoderPool :=
  let made := if warmSpares < 1 then 2 else warmSpares.toNat
  ⟨made, List.range made, ∅⟩

def endStream (p : DecoderPool) (streamID : String) : DecoderPool :=
  match p.active.lookup streamID with
  | none => p
  | some stream => { p with active := p.active.erase streamID, idle := p.idle ++ [stream.vocoder] }

def expireIdle (p : DecoderPool) (order : Enumeration String) (now : Time) : DecoderPool :=
  (order.order p.active.keys).foldl
    (fun p streamID =>
      match p.active.lookup streamID with
      | none => p
      | some stream => if Time.sub now stream.lastSeen ≤ dmrStreamIdleTimeout then p else p.endStream streamID) p

def decoderForStream (p : DecoderPool) (streamID : String) (now : Time) (creates : Bool) : DecoderPool × Option Nat :=
  match p.active.lookup streamID, p.idle.getLast? with
  | some stream, _ => ({ p with active := p.active.insert streamID { stream with lastSeen := now } }, some stream.vocoder)
  | none, some decoder =>
    ({ p with idle := p.idle.dropLast, active := p.active.insert streamID ⟨decoder, now⟩ }, some decoder)
  | none, none =>
    if creates then ({ p with made := p.made + 1, active := p.active.insert streamID ⟨p.made, now⟩ }, some p.made)
    else (p, none)

def processPacket (p : DecoderPool) (task : Task) : DecoderPool × Option Chunk :=
  if task.sourceKey = "" then (p, none)
  else if task.pkt.frameType = 2 ∧ task.pkt.dtypeOrVSeq = 2 then (p.endStream task.streamID, some (task.chunk [] true))
  else if task.pkt.frameType ≠ 0 ∧ task.pkt.frameType ≠ 1 ∨ task.isData then (p.expireIdle task.order task.now, none)
  else
    match p.decoderForStream task.streamID task.now task.creates with
    | (p, none) => (p, none)
    | (p, some decoder) =>
      match task.decode decoder with
      | none => (p, none)
      | some samples => (p.expireIdle task.order task.now, some (task.chunk (pcm16Bytes samples) false))

def step (p : DecoderPool) (task : Task) : DecoderPool := (p.processPacket task).1

def lent (p : DecoderPool) (streamID : String) : Option Nat := (p.active.lookup streamID).map (·.vocoder)

/-- Each vocoder is in one place: it is idle, once, or decodes one stream. -/
structure Owned (p : DecoderPool) : Prop where
  all : ∀ n, n < p.made ↔ n ∈ p.idle ∨ ∃ streamID, p.lent streamID = some n
  distinct : p.idle.Nodup
  apart : ∀ n streamID, p.lent streamID = some n → n ∉ p.idle ∧ ∀ other, p.lent other = some n → other = streamID

variable {p : DecoderPool} {streamID : String} {n : Nat} {order : Enumeration String} {now : Time} {task : Task}

theorem owned_new (warmSpares : Int) : (new warmSpares).Owned := by
  refine ⟨fun n => ?_, nodup_range, ?_⟩ <;> simp [new, lent]

theorem lent_endStream (p : DecoderPool) (streamID other : String) :
    (p.endStream streamID).lent other = if other = streamID then none else p.lent other := by
  cases found : p.active.lookup streamID with
  | none => grind [endStream, lent]
  | some stream => grind [endStream, lent, lookup_erase_eq]

theorem idle_endStream (p : DecoderPool) (streamID : String) :
    (p.endStream streamID).idle = p.idle ++ (p.lent streamID).toList ∧ (p.endStream streamID).made = p.made := by
  cases found : p.active.lookup streamID <;> simp [endStream, lent, found]

theorem Owned.endStream (owned : p.Owned) (streamID : String) : (p.endStream streamID).Owned := by
  obtain ⟨idle, made⟩ := p.idle_endStream streamID
  refine ⟨fun n => ?_, ?_, fun n other held => ?_⟩
  · rw [made, owned.all, idle]
    simp only [lent_endStream, mem_append, mem_toList]
    grind
  · rw [idle, nodup_append]
    have := owned.apart
    cases held : p.lent streamID with grind [owned.distinct]
  · have := owned.apart
    simp only [lent_endStream, idle, mem_append, mem_toList] at held ⊢
    grind

theorem expireIdle_induct {motive : DecoderPool → Prop}
    (ended : ∀ p streamID stream, motive p → p.active.lookup streamID = some stream →
      dmrStreamIdleTimeout < Time.sub now stream.lastSeen → motive (p.endStream streamID)) (holds : motive p) :
    motive (p.expireIdle order now) := by
  simp only [expireIdle]
  generalize order.order p.active.keys = streams
  induction streams generalizing p with
  | nil => exact holds
  | cons streamID streams ih =>
    apply ih
    grind

theorem lent_decoderForStream (p : DecoderPool) (streamID other : String) (now : Time) (creates : Bool) :
    (p.decoderForStream streamID now creates).1.lent other =
      if other = streamID then (p.decoderForStream streamID now creates).2 else p.lent other := by
  cases found : p.active.lookup streamID with
  | some stream => grind [decoderForStream, lent, lookup_insert_eq]
  | none =>
    cases spare : p.idle.getLast? with grind [decoderForStream, lent, lookup_insert_eq]

theorem Owned.decoderForStream (owned : p.Owned) (streamID : String) (now : Time) (creates : Bool) :
    (p.decoderForStream streamID now creates).1.Owned := by
  obtain ⟨all, distinct, apart⟩ := owned
  have lent := fun other => p.lent_decoderForStream streamID other now creates
  cases found : p.active.lookup streamID with
  | some stream =>
    have held : p.lent streamID = some stream.vocoder := by simp [DecoderPool.lent, found]
    simp only [DecoderPool.decoderForStream, found] at lent ⊢
    exact ⟨by grind, distinct, by grind⟩
  | none =>
    have free : p.lent streamID = none := by simp [DecoderPool.lent, found]
    cases spare : p.idle.getLast? with
    | some decoder =>
      obtain ⟨rest, split⟩ := getLast?_eq_some_iff.mp spare
      simp only [DecoderPool.decoderForStream, found, spare] at lent ⊢
      simp only [split, nodup_append, dropLast_concat] at all distinct apart lent ⊢
      exact ⟨by grind, by grind, by grind⟩
    | none =>
      simp only [DecoderPool.decoderForStream, found, spare] at lent ⊢
      cases creates with
      | false => exact ⟨all, distinct, apart⟩
      | true => exact ⟨by grind, distinct, by grind⟩

theorem Owned.expireIdle (owned : p.Owned) : (p.expireIdle order now).Owned :=
  expireIdle_induct (fun _ streamID _ owned _ _ => owned.endStream streamID) owned

theorem made_expireIdle : (p.expireIdle order now).made = p.made :=
  expireIdle_induct (motive := fun q => q.made = p.made)
    (fun q streamID _ same _ _ => (q.idle_endStream streamID).2.trans same) rfl

theorem lent_expireIdle (held : (p.expireIdle order now).lent streamID = some n) : p.lent streamID = some n := by
  revert held
  apply expireIdle_induct (motive := fun q => q.lent streamID = some n → p.lent streamID = some n)
  · intro q other _ kept _ _ held
    rw [lent_endStream] at held
    grind
  · exact id

theorem lookup_expireIdle (heard : p.active.lookup streamID = some ⟨n, now⟩) :
    (p.expireIdle order now).lent streamID = some n := by
  have kept : (p.expireIdle order now).active.lookup streamID = some ⟨n, now⟩ := by
    refine expireIdle_induct (motive := fun q => q.active.lookup streamID = some ⟨n, now⟩) ?_ heard
    intro q other stream kept found late
    have apart : streamID ≠ other := by
      intro same
      subst other
      cases kept.symm.trans found
      simp [Time.sub, dmrStreamIdleTimeout, second, millisecond, nanosecond] at late
    simp only [DecoderPool.endStream, found]
    rwa [Finmap.lookup_erase_ne apart]
  simp [lent, kept]

theorem Owned.step (owned : p.Owned) (task : Task) : (p.step task).Owned := by
  simp only [DecoderPool.step, processPacket]
  have lending := owned.decoderForStream task.streamID task.now task.creates
  grind [Owned.endStream, Owned.expireIdle]

theorem made_decoderForStream (p : DecoderPool) (streamID : String) (now : Time) (creates : Bool) :
    (p.decoderForStream streamID now creates).1.made = p.made ∨
      p.idle = [] ∧ (p.decoderForStream streamID now creates).1.made = p.made + 1 := by
  cases found : p.active.lookup streamID with
  | some stream => simp [decoderForStream, found]
  | none =>
    cases spare : p.idle.getLast? with
    | some decoder => simp [decoderForStream, found, spare]
    | none => cases creates <;> simp_all [decoderForStream]

theorem made_step : (p.step task).made = p.made ∨ p.idle = [] ∧ (p.step task).made = p.made + 1 := by
  have lending := p.made_decoderForStream task.streamID task.now task.creates
  have ending := (p.idle_endStream task.streamID).2
  simp only [step, processPacket]
  grind [made_expireIdle]

theorem decoderForStream_of_lent (held : p.lent streamID = some n) (now : Time) (creates : Bool) :
    (p.decoderForStream streamID now creates).2 = some n := by
  obtain ⟨stream, found, same⟩ := map_eq_some_iff.mp held
  simp [decoderForStream, found, same]

theorem lookup_decoderForStream {creates : Bool} (given : (p.decoderForStream streamID now creates).2 = some n) :
    (p.decoderForStream streamID now creates).1.active.lookup streamID = some ⟨n, now⟩ := by
  cases found : p.active.lookup streamID with
  | some stream => grind [decoderForStream, lookup_insert_eq]
  | none => cases spare : p.idle.getLast? with grind [decoderForStream, lookup_insert_eq]

theorem lent_step {m : Nat} (before : p.lent streamID = some n) (after : (p.step task).lent streamID = some m) : m = n := by
  have lending := p.lent_decoderForStream task.streamID streamID task.now task.creates
  have ending := p.lent_endStream task.streamID streamID
  simp only [step, processPacket] at after
  grind [lent_expireIdle, decoderForStream_of_lent]

theorem chunk_of_own_vocoder {chunk : Chunk} (published : (p.processPacket task).2 = some chunk)
    (sounding : chunk.ended = false) :
    chunk.streamID = task.streamID ∧ ∃ n samples, (p.step task).lent task.streamID = some n ∧
      task.decode n = some samples ∧ Web.decodePCM16 chunk.pcm = samples := by
  have heard : ∀ n, (p.decoderForStream task.streamID task.now task.creates).2 = some n → _ :=
    fun _ => lookup_decoderForStream
  simp only [step, processPacket] at published ⊢
  grind [lookup_expireIdle, decodePCM16_pcm16Bytes, Task.chunk]

/-- In every run each vocoder is idle, once, or decodes one stream, which keeps it as long as it is
active; a new one is made only if all there are decode. -/
theorem streams_decode_apart (warmSpares : Int) (tasks : List Task) (task : Task) :
    let p := runFrom step (new warmSpares) tasks
    p.Owned ∧
    ((p.step task).made ≠ p.made →
      (p.step task).made = p.made + 1 ∧ ∀ n < p.made, ∃ streamID, p.lent streamID = some n) ∧
    (∀ streamID n m, p.lent streamID = some n → (p.step task).lent streamID = some m → m = n) ∧
    ∀ chunk, (p.processPacket task).2 = some chunk → chunk.ended = false →
      chunk.streamID = task.streamID ∧ ∃ n samples, (p.step task).lent task.streamID = some n ∧
        task.decode n = some samples ∧ Web.decodePCM16 chunk.pcm = samples := by
  intro p
  have owned : p.Owned := runFrom_induct (fun _ task owned => owned.step task) (owned_new warmSpares)
  refine ⟨owned, fun grown => ?_, fun _ _ _ => lent_step, fun _ => chunk_of_own_vocoder⟩
  obtain ⟨busy, more⟩ := made_step.resolve_left grown
  refine ⟨more, fun n made => ?_⟩
  simpa [busy] using (owned.all n).mp made

end DecoderPool

end Ipsc2Mmdvm.Audio
