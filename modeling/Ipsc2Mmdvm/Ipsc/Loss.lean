import Ipsc2Mmdvm.Ipsc.RoundTrip

namespace Ipsc2Mmdvm.Ipsc

open Data Dmr Proto List Prod ReverseStreamState

/-! Both directions count the voice packets that arrive.  The position that a packet has in its
superframe is in the packet: the voice sequence in one direction, the length in the other. -/

def layoutLength (position : Nat) : Nat :=
  if position = 0 then 52 else if position = 4 then 66 else 57

theorem le_layoutLength (position : Nat) : 52 ≤ layoutLength position := by
  rw [layoutLength]
  split
  · decide
  · split <;> decide

/-- Each voice packet that arrives goes out in the layout of its voice sequence.  The outputs
start with those of the header. -/
def LayoutKept (lib : BurstLibrary) (delivered : List Packet) (outputs : List (List Bytes)) : Prop :=
  ∀ k p, delivered[k]? = some p → (lib.decodeFromBytes p.dmrData).isData = false →
    ∃ burst, outputs[k + 1]? = some [burst] ∧ burst.length = layoutLength p.dtypeOrVSeq.toNat

def SequencesCounted (lib : BurstLibrary) (id : UInt64) (delivered : List Packet) : Prop :=
  ∀ k p, delivered[k]? = some p → (lib.decodeFromBytes p.dmrData).isData = false →
    id ≤ 0xFFFFFFFF ∧ layoutLength (k % 6) = layoutLength p.dtypeOrVSeq.toNat

variable {callControl : UInt32}

theorem Built.voice_length {pkt : Packet} {burst : DecodedBurst} {position : Nat} {data : Bytes}
    (built : Built pkt callControl false (voicePayload burst pkt (position % 6 : Nat)) data) :
    data.length = layoutLength (position % 6) := by
  have fourth : ((position % 6 : Nat) : Int) = 4 ↔ position % 6 = 4 := by omega
  rw [built.length, length_voicePayload, layoutLength]
  simp only [Int.natCast_eq_zero, fourth]
  split
  · rfl
  · split <;> rfl

theorem VoiceRun.lengths {lib : BurstLibrary} {position : Nat} {pkts : List Packet} {bursts : List (List Bytes)}
    (run : VoiceRun lib callControl position pkts bursts) (k : Nat) (p : Packet) (delivered : pkts[k]? = some p)
    (voice : (lib.decodeFromBytes p.dmrData).isData = false) :
    ∃ burst, bursts[k]? = some [burst] ∧ burst.length = layoutLength ((position + k) % 6) := by
  induction run generalizing k with
  | nil position => cases delivered
  | @voice position pkt pkts burst later isVoice built rest ih =>
    cases k with
    | zero => exact ⟨burst, rfl, built.voice_length⟩
    | succ k =>
      have shifted := ih k delivered
      rwa [Nat.add_assoc, Nat.add_comm 1 k] at shifted
  | @skipped position pkt pkts later isData rest ih =>
    cases k with
    | zero =>
      cases delivered
      rw [isData] at voice
      cases voice
    | succ k =>
      have shifted := ih k delivered
      rwa [Nat.add_assoc, Nat.add_comm 1 k] at shifted

theorem layoutKept_iff (lib : BurstLibrary) (t : Forward) (c : VoiceCall) (first last : ForwardEnv)
    (delivered : List (ForwardEnv × Packet)) (part : (delivered.map snd).Sublist c.voice) :
    LayoutKept lib (delivered.map snd)
        (t.translateEach lib ((first, c.header) :: (delivered ++ [(last, c.terminator)]))).2 ↔
      SequencesCounted lib c.id (delivered.map snd) := by
  by_cases small : c.id ≤ 0xFFFFFFFF
  · obtain ⟨callControl, header, repeated, bursts, terminator, outputs, _, _, run, _⟩ :=
      @translateEach_call lib t c small first last delivered fun p member => part.subset member
    have place : ∀ k p, (delivered.map snd)[k]? = some p → (lib.decodeFromBytes p.dmrData).isData = false →
        ∃ burst, ([header, repeated] :: (bursts ++ [[terminator]]))[k + 1]? = some [burst] ∧
          burst.length = layoutLength (k % 6) := by
      intro k p arrived voice
      obtain ⟨burst, found, length⟩ := run.lengths k p arrived voice
      rw [Nat.zero_add] at length
      refine ⟨burst, ?_, length⟩
      rw [getElem?_cons_succ, getElem?_append_left (List.getElem?_eq_some_iff.mp found).1, found]
    rw [outputs]
    constructor
    · intro kept k p arrived voice
      obtain ⟨burst, found, length⟩ := kept k p arrived voice
      obtain ⟨burst', found', length'⟩ := place k p arrived voice
      cases found.symm.trans found'
      exact ⟨small, length'.symm.trans length⟩
    · intro counted k p arrived voice
      obtain ⟨burst, found, length⟩ := place k p arrived voice
      exact ⟨burst, found, length.trans (counted k p arrived voice).2⟩
  · have ignored : (t.translateEach lib ((first, c.header) :: (delivered ++ [(last, c.terminator)]))).2 =
        replicate ((first, c.header) :: (delivered ++ [(last, c.terminator)])).length [] := by
      apply translateEach_large
      intro p member
      have own : p ∈ c.header :: (c.voice ++ [c.terminator]) := by
        simp only [map_cons, map_append, mem_cons, mem_append] at member ⊢
        exact member.imp_right fun later => later.imp_left fun voice => part.subset voice
      rw [c.streamID_eq own]
      exact UInt64.not_le.mp small
    rw [ignored]
    constructor
    · intro kept k p arrived voice
      obtain ⟨burst, found, length⟩ := kept k p arrived voice
      cases (eq_of_mem_replicate (mem_of_getElem? found))
    · intro counted k p arrived voice
      exact absurd (counted k p arrived voice).1 small

def Translator.InSuperframe (t : Translator) : Prop :=
  ∀ rss, 0 ≤ (t.reverseStreams.deref rss).burstIndex ∧ (t.reverseStreams.deref rss).burstIndex < 6

section

variable {dmrgo : Dmrgo} {t : Translator} {rss : Ref} {state : ReverseStreamState}
  {result : Translator × List Packet}

theorem Translator.InSuperframe.put (inside : t.InSuperframe) (index : 0 ≤ state.burstIndex ∧ state.burstIndex < 6) :
    (t.put rss state).InSuperframe := by
  intro other
  rw [deref_put]
  split
  · exact index
  · exact inside other

theorem afterVoice_index (index : 0 ≤ state.burstIndex ∧ state.burstIndex < 6) :
    0 ≤ state.afterVoice.burstIndex ∧ state.afterVoice.burstIndex < 6 := by
  simp only [afterVoice]
  rw [Int.tmod_eq_emod_of_nonneg (by omega)]
  omega

theorem Emission.inSuperframe {call : Call} {data : Bytes} (emission : Emission dmrgo t call rss data result)
    (inside : t.InSuperframe) : result.1.InSuperframe := by
  cases emission with
  | nothing => exact inside
  | header dmrData fresh => exact inside.put (by simp [afterHeader])
  | voice burst frames => exact inside.put (afterVoice_index (inside rss))
  | terminator | data => exact inside.put (inside rss)

theorem Lookup.inSuperframe {r : Received} {env : ReverseEnv} {found : Translator × Ref} (lookup : Lookup r env t found)
    (inside : t.InSuperframe) : found.1.InSuperframe := by
  cases lookup with
  | known rss bound => exact inside
  | byTuple | byPeer =>
    intro shared
    simpa [Translator.alias] using inside shared
  | created unbound =>
    intro shared
    simp only [Translator.create, PtrMap.deref_store, PtrMap.deref_alloc]
    split
    · simp [Received.newState]
    · exact inside shared

theorem TranslateStep.inSuperframe {a : Arrival} (step : TranslateStep dmrgo a t result) (inside : t.InSuperframe) :
    result.1.InSuperframe := by
  cases step with
  | unsupported other => exact inside
  | translated supported emission =>
    have found := (lookup_stream (received dmrgo a.packetType a.data) a.env t).inSuperframe inside
    exact emission.inSuperframe (found.put (found _))

theorem translateAll_inSuperframe {final : Translator} {emitted : List Packet} (arrivals : List Arrival)
    (inside : t.InSuperframe) (reached : t.translateAll dmrgo arrivals = .ok (final, emitted)) : final.InSuperframe := by
  induction arrivals generalizing t emitted with
  | nil =>
    cases reached
    exact inside
  | cons a later ih =>
    obtain ⟨result, translated, rest⟩ := bind_eq_ok reached
    obtain ⟨ending, run, last⟩ := bind_eq_ok rest
    cases last
    have between : result.1.InSuperframe := by
      by_cases long : 31 ≤ a.data.length
      · obtain ⟨result', translated', step⟩ := translateToMMDVM_step dmrgo a t long
        cases translated.symm.trans translated'
        exact step.inSuperframe inside
      · rw [translateToMMDVM_short (by omega) translated]
        exact inside
    exact ih between run

theorem inSuperframe_configured (peerID : UInt32) (colorCode : UInt8) : (configured peerID colorCode).InSuperframe :=
  fun _ => ⟨Int.le_refl 0, show (0 : Int) < 6 by decide⟩

end

/-- A call as an IPSC peer sends it: a header that may be repeated, bursts that go through the
superframe, and a terminator. -/
structure IPSCCall (dmrgo : Dmrgo) where
  callControl : UInt32
  call : Call
  header : Bytes
  repeats : List Bytes
  voice : List Bytes
  terminator : Bytes
  header_read : ReadAs dmrgo callControl call header
  header_type : header.getD 30 0 = ipscBurstVoiceHead
  repeats_read : ∀ data ∈ repeats, ReadAs dmrgo callControl call data
  repeats_type : ∀ data ∈ repeats, data.getD 30 0 = ipscBurstVoiceHead
  voice_read : ∀ data ∈ voice, ReadAs dmrgo callControl call data
  voice_type : ∀ data ∈ voice, data.getD 30 0 = ipscBurstSlot1 ∨ data.getD 30 0 = ipscBurstSlot2
  voice_length : ∀ k data, voice[k]? = some data → data.length = layoutLength (k % 6)
  terminator_read : ReadAs dmrgo callControl call terminator
  terminator_type : terminator.getD 30 0 = ipscBurstVoiceTerm
  terminator_isEnd : (terminator.getD 17 0 &&& 0x40 != 0) = true

/-- Each burst that arrives gets the position that its length tells.  The outputs start with
those of `headers` headers. -/
def PositionKept (delivered : List Bytes) (headers : Nat) (outputs : List (List Packet)) : Prop :=
  ∀ k data, delivered[k]? = some data → ∃ pkt, outputs[headers + k]? = some [pkt] ∧
    (data.length = 52 → pkt.frameType = frameTypeVoiceSync ∧ pkt.dtypeOrVSeq = 0) ∧
    (data.length = 66 → pkt.dtypeOrVSeq = 4)

def startPosition (dmrgo : Dmrgo) (env : ReverseEnv) (t : Translator) (header : Bytes) : Nat :=
  let r := received dmrgo (header.getD 0 0) header
  let state := (r.stream env t).1.reverseStreams.deref (r.stream env t).2
  if state.started then state.burstIndex.toNat else 0

def LengthsCounted (start : Nat) (delivered : List Bytes) : Prop :=
  ∀ k data, delivered[k]? = some data →
    (data.length = 52 → (start + k) % 6 = 0) ∧ (data.length = 66 → (start + k) % 6 = 4)

section

variable {dmrgo : Dmrgo} {t : Translator} {callControl : UInt32} {call : Call} {state : ReverseStreamState} {position : Nat}

theorem header_counts {env : ReverseEnv} {header : Bytes} (inside : t.InSuperframe)
    (read : ReadAs dmrgo callControl call header) (isHeader : header.getD 30 0 = ipscBurstVoiceHead) :
    ∃ next pkts state, t.translateToMMDVM dmrgo env (header.getD 0 0) header = .ok (next, pkts) ∧
      next.Stream callControl state ∧ state.Counts (startPosition dmrgo env t header) := by
  have found := (lookup_stream (received dmrgo (header.getD 0 0) header) env t).inSuperframe inside
    ((received dmrgo (header.getD 0 0) header).stream env t).2
  rw [startPosition]
  generalize stream : ((received dmrgo (header.getD 0 0) header).stream env t).1.reverseStreams.deref
    ((received dmrgo (header.getD 0 0) header).stream env t).2 = state at found
  cases started : state.started with
  | false =>
    obtain ⟨next, source, dmrData, translated, follows⟩ := translateToMMDVM_first_header read stream isHeader started
    exact ⟨next, _, _, translated, follows, counts_afterHeader _⟩
  | true =>
    obtain ⟨next, translated, follows⟩ := translateToMMDVM_absorbed_header read stream isHeader started
    have counts : state.Counts state.burstIndex.toNat := ⟨started, by omega⟩
    exact ⟨next, _, _, translated, follows, counts.seenAt env.now⟩

section

variable (stream : t.Stream callControl state)
  (counts : state.Counts position)
  (arrived : List (ReverseEnv × Bytes))
  (read : ∀ data ∈ arrived.map Prod.snd, ReadAs dmrgo callControl call data)

include stream counts arrived read

theorem Translator.Stream.repeats (headers : ∀ data ∈ arrived.map snd, data.getD 30 0 = ipscBurstVoiceHead) :
    ∃ next after, t.translateEach dmrgo arrived = .ok (next, replicate arrived.length []) ∧
      next.Stream callControl after ∧ after.Counts position := by
  induction arrived generalizing t state with
  | nil => exact ⟨t, state, rfl, stream, counts⟩
  | cons first rest ih =>
    obtain ⟨env, data⟩ := first
    have own := read data mem_cons_self
    obtain ⟨next, ignored, follows⟩ := translateToMMDVM_absorbed_header own (stream.found own env)
      (headers data mem_cons_self) counts.started
    obtain ⟨final, after, run, stays, counted⟩ := ih follows (counts.seenAt env.now)
      (fun other member => read other (mem_cons_of_mem data member))
      fun other member => headers other (mem_cons_of_mem data member)
    exact ⟨final, after, Translator.translateEach_cons ignored run, stays, counted⟩

theorem Translator.Stream.voices (voice : ∀ data ∈ arrived.map snd, data.getD 30 0 = ipscBurstSlot1 ∨ data.getD 30 0 = ipscBurstSlot2)
    (long : ∀ data ∈ arrived.map snd, 52 ≤ data.length) :
    ∃ next after outputs, t.translateEach dmrgo arrived = .ok (next, outputs) ∧ next.Stream callControl after ∧
      ∀ k data, (arrived.map snd)[k]? = some data → ∃ pkt, outputs[k]? = some [pkt] ∧
        pkt.dtypeOrVSeq.toNat = (position + k) % 6 ∧
        pkt.frameType = if (position + k) % 6 = 0 then frameTypeVoiceSync else frameTypeVoice := by
  induction arrived generalizing t state position with
  | nil => exact ⟨t, state, [], rfl, stream, by simp⟩
  | cons first rest ih =>
    obtain ⟨env, data⟩ := first
    obtain ⟨next, source, burst, _, translated, follows⟩ := stream.voice env (read data mem_cons_self) (voice data mem_cons_self) (long data mem_cons_self)
    have seen := counts.seenAt env.now
    obtain ⟨final, after, outputs, run, stays, each⟩ := ih follows seen.afterVoice
      (fun other member => read other (mem_cons_of_mem data member))
      (fun other member => voice other (mem_cons_of_mem data member))
      fun other member => long other (mem_cons_of_mem data member)
    refine ⟨final, after, _ :: outputs, Translator.translateEach_cons translated run, stays, ?_⟩
    intro k arrival delivered
    cases k with
    | zero => exact ⟨_, rfl, seen.sequence source _ _, seen.frameType source _ _⟩
    | succ k =>
      have shifted := each k arrival delivered
      rwa [Nat.add_assoc, Nat.add_comm 1 k] at shifted

end

theorem positionKept_iff (inside : t.InSuperframe) (c : IPSCCall dmrgo) (first last : ReverseEnv)
    (repeats delivered : List (ReverseEnv × Bytes)) (repeated : repeats.map snd = c.repeats)
    (part : (delivered.map snd).Sublist c.voice) :
    ∃ final outputs, t.translateEach dmrgo ((first, c.header) :: (repeats ++ (delivered ++ [(last, c.terminator)]))) =
        .ok (final, outputs) ∧
      (PositionKept (delivered.map snd) (1 + repeats.length) outputs ↔
        LengthsCounted (startPosition dmrgo first t c.header) (delivered.map snd)) := by
  have long : ∀ data ∈ delivered.map snd, 52 ≤ data.length := by
    intro data member
    obtain ⟨k, sent⟩ := mem_iff_getElem?.mp (part.subset member)
    rw [c.voice_length k data sent]
    exact le_layoutLength _
  obtain ⟨started, pkts, state, translated, stream, counts⟩ :=
    @header_counts dmrgo t c.callControl c.call first c.header inside c.header_read c.header_type
  obtain ⟨ready, state', repeatsRun, stream', counts'⟩ := stream.repeats counts repeats
    (by rw [repeated]; exact c.repeats_read) (by rw [repeated]; exact c.repeats_type)
  obtain ⟨ending, after, voices, voiceRun, stays, each⟩ := stream'.voices counts' delivered
    (fun data member => c.voice_read data (part.subset member)) (fun data member => c.voice_type data (part.subset member))
    long
  obtain ⟨final, source, dmrData, terminated⟩ :=
    stays.terminator last c.terminator_read c.terminator_type c.terminator_isEnd
  have lastRun := Translator.translateEach_cons terminated Translator.translateEach_nil
  refine ⟨final, _, Translator.translateEach_cons translated
    (Translator.translateEach_append repeatsRun (Translator.translateEach_append voiceRun lastRun)), ?_⟩
  have place : ∀ k data, (delivered.map snd)[k]? = some data → ∃ pkt,
      (pkts :: (replicate repeats.length [] ++ (voices ++ [[dataPacket source (c.call.within after)
        (after.seenAt last.now) dataTypeTerminatorWithLC dmrData]])))[1 + repeats.length + k]? = some [pkt] ∧
      pkt.dtypeOrVSeq.toNat = (startPosition dmrgo first t c.header + k) % 6 ∧
      pkt.frameType = if (startPosition dmrgo first t c.header + k) % 6 = 0 then frameTypeVoiceSync else frameTypeVoice := by
    intro k data arrived
    obtain ⟨pkt, found, sequence, frameType⟩ := each k data arrived
    refine ⟨pkt, ?_, sequence, frameType⟩
    have inVoices := (List.getElem?_eq_some_iff.mp found).1
    rw [Nat.add_assoc, Nat.add_comm 1, getElem?_cons_succ, getElem?_append_right (by simp),
      length_replicate, Nat.add_sub_cancel_left, getElem?_append_left inVoices, found]
  constructor
  · intro kept k data arrived
    obtain ⟨pkt, found, isFirst, isFifth⟩ := kept k data arrived
    obtain ⟨pkt', found', sequence, _⟩ := place k data arrived
    cases found.symm.trans found'
    refine ⟨fun length => ?_, fun length => ?_⟩
    · rw [← sequence, (isFirst length).2]
      rfl
    · rw [← sequence, isFifth length]
      rfl
  · intro counted k data arrived
    obtain ⟨pkt, found, sequence, frameType⟩ := place k data arrived
    refine ⟨pkt, found, fun length => ?_, fun length => ?_⟩
    · have first := (counted k data arrived).1 length
      rw [first] at sequence frameType
      exact ⟨frameType, UInt64.toNat.inj sequence⟩
    · have fifth := (counted k data arrived).2 length
      rw [fifth] at sequence
      exact UInt64.toNat.inj sequence

end

theorem getElem?_map_range {α : Type} {f : Nat → α} {n k : Nat} {value : α} (found : ((range n).map f)[k]? = some value) :
    value = f k := by
  rw [getElem?_map] at found
  obtain ⟨index, inside, rfl⟩ := Option.map_eq_some_iff.mp found
  obtain ⟨_, same⟩ := List.getElem?_eq_some_iff.mp inside
  rw [getElem_range] at same
  rw [same]

def groupCallInfo : Call := { src := 5, dst := 9, groupCall := true, slot := false }

def groupVoice (k : Nat) : Packet :=
  { src := 5, dst := 9, groupCall := true, streamID := 7, frameType := frameTypeVoice, dtypeOrVSeq := (k % 6).toUInt64 }

def groupCallOf (n : Nat) : VoiceCall where
  id := 7
  call := groupCallInfo
  header := { src := 5, dst := 9, groupCall := true, streamID := 7, frameType := frameTypeDataSync, dtypeOrVSeq := 1 }
  voice := (List.range n).map groupVoice
  terminator :=
    { src := 5, dst := 9, groupCall := true, streamID := 7, frameType := frameTypeDataSync, dtypeOrVSeq := 2 }
  src_fits := by decide
  dst_fits := by decide
  header_own := ⟨rfl, rfl⟩
  header_isVoiceHeader := rfl
  voice_own := by
    intro p member
    obtain ⟨k, _, rfl⟩ := List.mem_map.mp member
    exact ⟨rfl, rfl⟩
  voice_isVoice := by
    intro p member
    obtain ⟨k, _, rfl⟩ := List.mem_map.mp member
    rfl
  voice_position := by
    intro k p sent
    have small : k % 6 < 2 ^ 64 := Nat.lt_of_lt_of_le (Nat.mod_lt k (by decide)) (by decide)
    rw [getElem?_map_range sent]
    exact Nat.mod_eq_of_lt small
  terminator_own := ⟨rfl, rfl⟩
  terminator_isTerminator := rfl

def groupBurst (position : Nat) : Bytes :=
  [0x80, 0, 0, 0, 1, 0, 0, 0, 5, 0, 0, 9, 2, 0, 0, 0, 1, 0] ++ List.replicate 12 0 ++
    [0x0A] ++ List.replicate (layoutLength position - 31) 0

theorem readAs_groupHeader : ReadAs plainLibrary.toDmrgo 1 groupCallInfo (groupPacket 5 1 0 0x01) where
  supported := rfl
  long := by decide
  callControl := by decide +kernel
  call := by decide +kernel

theorem readAs_groupTerminator : ReadAs plainLibrary.toDmrgo 1 groupCallInfo (groupPacket 5 1 0x40 0x02) where
  supported := rfl
  long := by decide
  callControl := by decide +kernel
  call := by decide +kernel

theorem readAs_groupBurst (k : Nat) : ReadAs plainLibrary.toDmrgo 1 groupCallInfo (groupBurst (k % 6)) where
  supported := rfl
  long := by simp [groupBurst]
  callControl := by
    have each : ∀ position < 6, (received plainLibrary.toDmrgo 0x80 (groupBurst position)).callControl = 1 := by
      decide +kernel
    exact each (k % 6) (Nat.mod_lt k (by decide))
  call := by
    have each : ∀ position < 6, (received plainLibrary.toDmrgo 0x80 (groupBurst position)).call = groupCallInfo := by
      decide +kernel
    exact each (k % 6) (Nat.mod_lt k (by decide))

theorem length_groupBurst (position : Nat) : (groupBurst position).length = layoutLength position := by
  have long := le_layoutLength position
  simp only [groupBurst, length_append, length_replicate, length_cons, length_nil]
  omega

def groupBurstsOf (n : Nat) : IPSCCall plainLibrary.toDmrgo where
  callControl := 1
  call := groupCallInfo
  header := groupPacket 5 1 0 0x01
  repeats := []
  voice := (List.range n).map fun k => groupBurst (k % 6)
  terminator := groupPacket 5 1 0x40 0x02
  header_read := readAs_groupHeader
  header_type := rfl
  repeats_read := by simp
  repeats_type := by simp
  voice_read := by
    intro data member
    obtain ⟨k, _, rfl⟩ := List.mem_map.mp member
    exact readAs_groupBurst k
  voice_type := by
    intro data member
    obtain ⟨k, _, rfl⟩ := List.mem_map.mp member
    exact .inl rfl
  voice_length := by
    intro k data sent
    rw [getElem?_map_range sent]
    exact length_groupBurst (k % 6)
  terminator_read := readAs_groupTerminator
  terminator_type := rfl
  terminator_isEnd := rfl

theorem startPosition_configured (dmrgo : Dmrgo) (env : ReverseEnv) (peerID : UInt32) (colorCode : UInt8) (header : Bytes) :
    startPosition dmrgo env (configured peerID colorCode) header = 0 := by
  obtain ⟨state, found, fresh, _⟩ := stream_configured (received dmrgo (header.getD 0 0) header) env peerID colorCode
  simp only [startPosition, found, fresh]
  rfl

def VoiceCall.after (c : VoiceCall) (lost : Nat) : List (ForwardEnv × Packet) :=
  (c.voice.drop lost).map fun p => (anyForwardEnv, p)

def IPSCCall.after {dmrgo : Dmrgo} (c : IPSCCall dmrgo) (lost : Nat) : List (ReverseEnv × Bytes) :=
  (c.voice.drop lost).map fun data => (atTime 1000, data)

theorem VoiceCall.after_part (c : VoiceCall) (lost : Nat) : ((c.after lost).map snd).Sublist c.voice := by
  simp [VoiceCall.after, drop_sublist]

theorem IPSCCall.after_part {dmrgo : Dmrgo} (c : IPSCCall dmrgo) (lost : Nat) :
    ((c.after lost).map snd).Sublist c.voice := by
  simp [IPSCCall.after, drop_sublist]

/-- In every state that is reached on either side, for every call in either direction and all
losses. -/
theorem superframe_position_kept_iff (lib : BurstLibrary) (source : Forward) (c : VoiceCall) (first last : ForwardEnv)
    (sent : List (ForwardEnv × Packet)) (part : (sent.map Prod.snd).Sublist c.voice) (peerID : UInt32) (colorCode : UInt8)
    (earlier : List Arrival) (t : Translator) (emitted : List Packet)
    (reached : (configured peerID colorCode).translateAll lib.toDmrgo earlier = .ok (t, emitted))
    (back : IPSCCall lib.toDmrgo) (start stop : ReverseEnv) (repeats delivered : List (ReverseEnv × Bytes))
    (repeated : repeats.map Prod.snd = back.repeats) (backPart : (delivered.map Prod.snd).Sublist back.voice) :
    (LayoutKept lib (sent.map Prod.snd)
        (source.translateEach lib ((first, c.header) :: (sent ++ [(last, c.terminator)]))).2 ↔
      SequencesCounted lib c.id (sent.map Prod.snd)) ∧
    ∃ final outputs, t.translateEach lib.toDmrgo
        ((start, back.header) :: (repeats ++ (delivered ++ [(stop, back.terminator)]))) = .ok (final, outputs) ∧
      (PositionKept (delivered.map Prod.snd) (1 + repeats.length) outputs ↔
        LengthsCounted (startPosition lib.toDmrgo start t back.header) (delivered.map Prod.snd)) := by
  have inside := translateAll_inSuperframe earlier (inSuperframe_configured peerID colorCode) reached
  exact ⟨layoutKept_iff lib source c first last sent part,
    positionKept_iff inside back start stop repeats delivered repeated backPart⟩

theorem position_kept_of_superframe_lost : LayoutKept plainLibrary (((groupCallOf 7).after 6).map Prod.snd)
        ((newForward 1).translateEach plainLibrary ((anyForwardEnv, (groupCallOf 7).header) ::
          ((groupCallOf 7).after 6 ++ [(anyForwardEnv, (groupCallOf 7).terminator)]))).2 ∧
      ∃ final outputs, (configured 1 1).translateEach plainLibrary.toDmrgo ((atTime 1000, (groupBurstsOf 7).header) ::
          ([] ++ ((groupBurstsOf 7).after 6 ++ [(atTime 1000, (groupBurstsOf 7).terminator)]))) = .ok (final, outputs) ∧
        PositionKept (((groupBurstsOf 7).after 6).map Prod.snd) 1 outputs := by
  obtain ⟨forward, final, outputs, run, backward⟩ := superframe_position_kept_iff plainLibrary (newForward 1)
    (groupCallOf 7) anyForwardEnv anyForwardEnv ((groupCallOf 7).after 6) ((groupCallOf 7).after_part 6) 1 1 []
    (configured 1 1) [] rfl (groupBurstsOf 7) (atTime 1000) (atTime 1000) [] ((groupBurstsOf 7).after 6) rfl
    ((groupBurstsOf 7).after_part 6)
  refine ⟨forward.mpr ?_, final, outputs, run, backward.mpr ?_⟩
  · intro k p arrived voice
    cases k with
    | zero =>
      cases arrived
      exact ⟨by decide, rfl⟩
    | succ k => cases arrived
  · rw [startPosition_configured]
    intro k data arrived
    cases k with
    | zero => exact ⟨fun _ => rfl, fun fifth => by cases arrived; cases fifth⟩
    | succ k => cases arrived

/-- The first voice packet is lost: a packet with sequence 1 goes out as the first of a
superframe, and a burst of 66 bytes comes out with sequence 3. -/
theorem position_lost : ¬ LayoutKept plainLibrary (((groupCallOf 2).after 1).map Prod.snd)
        ((newForward 1).translateEach plainLibrary ((anyForwardEnv, (groupCallOf 2).header) ::
          ((groupCallOf 2).after 1 ++ [(anyForwardEnv, (groupCallOf 2).terminator)]))).2 ∧
      ∃ final outputs, (configured 1 1).translateEach plainLibrary.toDmrgo ((atTime 1000, (groupBurstsOf 5).header) ::
          ([] ++ ((groupBurstsOf 5).after 1 ++ [(atTime 1000, (groupBurstsOf 5).terminator)]))) = .ok (final, outputs) ∧
        ¬ PositionKept (((groupBurstsOf 5).after 1).map Prod.snd) 1 outputs := by
  constructor
  · rw [layoutKept_iff plainLibrary (newForward 1) (groupCallOf 2) anyForwardEnv anyForwardEnv _
      ((groupCallOf 2).after_part 1)]
    intro counted
    exact absurd (counted 0 (groupVoice 1) rfl rfl).2 (by decide)
  · obtain ⟨final, outputs, run, kept⟩ := positionKept_iff (inSuperframe_configured 1 1) (groupBurstsOf 5) (atTime 1000)
      (atTime 1000) [] ((groupBurstsOf 5).after 1) rfl ((groupBurstsOf 5).after_part 1)
    rw [startPosition_configured] at kept
    refine ⟨final, outputs, run, fun holds => ?_⟩
    exact absurd ((kept.mp holds 3 (groupBurst 4) rfl).2 rfl) (by decide)

end Ipsc2Mmdvm.Ipsc
