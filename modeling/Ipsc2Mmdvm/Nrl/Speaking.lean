import Ipsc2Mmdvm.Data.Frames
import Ipsc2Mmdvm.Nrl.Session

namespace Ipsc2Mmdvm.Nrl

open Data Proto List

/-! The packets of a talkspurt are a function of its samples: a header, and a voice packet for every
480 of them, however the samples are divided over received packets. -/

section

variable {σ : Type}

/-- The vocoder never fails, and a frame of 160 samples becomes one of nine bytes. -/
structure Reliable (rt : Runtime σ) (start : σ) : Prop where
  creates : rt.newVocoder = .ok start
  encodes : ∀ vocoder pcm, pcm.length = pcmFrameSize →
    ∃ ambe, (rt.encode vocoder pcm).2 = .ok ambe ∧ ambe.length = 9

variable (rt : Runtime σ) (cfg : DeviceConfig) (start : σ)

def vocoderAt (samples : List Int16) (i : Nat) : σ := stateAt rt.encode start (frameAt pcmFrameSize samples) i

def ambeAt (samples : List Int16) (i : Nat) : Bytes :=
  (outputAt rt.encode start (frameAt pcmFrameSize samples) i).toOption.getD []

def voiceAt (srcID streamID : UInt32) (samples : List Int16) (n : Nat) : Packet :=
  newVoicePacket srcID cfg.targetTG cfg.slot cfg.colorCode streamID (UInt32.ofNat (n + 1)) (UInt8.ofNat (n % 6))
    (ambeAt rt start samples (3 * n)) (ambeAt rt start samples (3 * n + 1)) (ambeAt rt start samples (3 * n + 2))

def voices (srcID streamID : UInt32) (samples : List Int16) (k : Nat) : List Packet :=
  (List.range (k / 3)).map (voiceAt rt cfg start srcID streamID samples)

def spoken (srcID streamID : UInt32) (samples : List Int16) : List Packet :=
  newHeaderPacket srcID cfg.targetTG cfg.slot cfg.colorCode streamID 0 ::
    voices rt cfg start srcID streamID samples (samples.length / 160)

structure Speaking (samples : List Int16) (k : Nat) (state : EncodeState σ) : Prop where
  within : 160 * k ≤ samples.length
  vocoder : state.vocoder = vocoderAt rt start samples k
  buffer : state.pcmBuffer = samples.drop (160 * k)
  frames : state.ambeFrames = (List.range (k % 3)).map fun j => ambeAt rt start samples (3 * (k / 3) + j)
  sequence : state.sequence = UInt32.ofNat (k / 3 + 1)
  voiceSeq : state.voiceSeq = UInt8.ofNat (k / 3 % 6)
  headerSent : state.headerSent = true

structure SameStream (state other : EncodeState σ) : Prop where
  streamID : state.streamID = other.streamID
  srcID : state.srcID = other.srcID
  lastSeen : state.lastSeen = other.lastSeen

variable {rt start} {srcID streamID : UInt32} {samples : List Int16} {k : Nat} {state : EncodeState σ}

theorem SameStream.trans {first second third : EncodeState σ} (left : SameStream first second)
    (right : SameStream second third) : SameStream first third :=
  ⟨left.streamID.trans right.streamID, left.srcID.trans right.srcID, left.lastSeen.trans right.lastSeen⟩

theorem vocoderAt_append (within : 160 * k ≤ samples.length) (more : List Int16) :
    vocoderAt rt start (samples ++ more) k = vocoderAt rt start samples k := by
  apply stateAt_congr
  intro i before
  have complete : pcmFrameSize * (i + 1) ≤ samples.length := by
    simp only [pcmFrameSize]
    omega
  exact frameAt_append complete more

theorem ambeAt_append (complete : 160 * (k + 1) ≤ samples.length) (more : List Int16) :
    ambeAt rt start (samples ++ more) k = ambeAt rt start samples k := by
  have same := @outputAt_congr _ _ _ rt.encode start (frameAt pcmFrameSize (samples ++ more)) (frameAt pcmFrameSize samples) k
  rw [ambeAt, same, ambeAt]
  intro i before
  have complete : pcmFrameSize * (i + 1) ≤ samples.length := by
    simp only [pcmFrameSize]
    omega
  exact frameAt_append complete more

theorem voices_append (within : 160 * k ≤ samples.length) (more : List Int16) :
    voices rt cfg start srcID streamID (samples ++ more) k = voices rt cfg start srcID streamID samples k := by
  apply map_congr_left
  intro n member
  have before : n < k / 3 := mem_range.mp member
  rw [voiceAt, voiceAt, ambeAt_append (by omega), ambeAt_append (by omega), ambeAt_append (by omega)]

theorem Speaking.more (speaking : Speaking rt start samples k state) (now : Time) (more : List Int16) :
    Speaking rt start (samples ++ more) k { state with lastSeen := now, pcmBuffer := state.pcmBuffer ++ more } := by
  have within := speaking.within
  refine ⟨?_, ?_, ?_, ?_, speaking.sequence, speaking.voiceSeq, speaking.headerSent⟩
  · rw [length_append]
    omega
  · exact speaking.vocoder.trans (vocoderAt_append within more).symm
  · simp only [speaking.buffer]
    exact (drop_append_of_le_length within).symm
  · refine speaking.frames.trans (map_congr_left ?_)
    intro j member
    have before : j < k % 3 := mem_range.mp member
    exact (ambeAt_append (by omega) more).symm

theorem encode_frameAt (reliable : Reliable rt start) (complete : 160 * (k + 1) ≤ samples.length) :
    rt.encode (vocoderAt rt start samples k) (frameAt 160 samples k) =
        (vocoderAt rt start samples (k + 1), .ok (ambeAt rt start samples k)) ∧
      (ambeAt rt start samples k).length = 9 := by
  obtain ⟨ambe, encoded, size⟩ := reliable.encodes (vocoderAt rt start samples k) (frameAt 160 samples k)
    (length_frameAt complete)
  have output : ambeAt rt start samples k = ambe := by
    have result : outputAt rt.encode start (frameAt pcmFrameSize samples) k = .ok ambe := encoded
    rw [ambeAt, result]
    rfl
  rw [output]
  exact ⟨Prod.ext rfl encoded, size⟩

theorem ofNat_voiceSeq (n : Nat) : (UInt8.ofNat (n % 6) + 1) % 6 = UInt8.ofNat ((n + 1) % 6) := by
  apply UInt8.toNat_inj.mp
  simp only [UInt8.toNat_mod, UInt8.toNat_add, UInt8.toNat_ofNat', UInt8.reduceToNat]
  omega

theorem ofNat_sequence (n : Nat) : UInt32.ofNat n + 1 = UInt32.ofNat (n + 1) := by
  rw [UInt32.ofNat_add]
  rfl

theorem voices_succ (srcID streamID : UInt32) (samples : List Int16) (k : Nat) :
    voices rt cfg start srcID streamID samples (k + 1) = voices rt cfg start srcID streamID samples k ++
      if k % 3 = 2 then [voiceAt rt cfg start srcID streamID samples (k / 3)] else [] := by
  simp only [voices]
  split
  · have next : (k + 1) / 3 = k / 3 + 1 := by omega
    rw [next, range_succ, map_append]
    rfl
  · have same : (k + 1) / 3 = k / 3 := by omega
    rw [same, append_nil]

theorem encodeFrame_speaking (reliable : Reliable rt start) (speaking : Speaking rt start samples k state)
    (complete : 160 * (k + 1) ≤ samples.length) :
    ∃ next, encodeFrame rt cfg state =
        (next, if k % 3 = 2 then [voiceAt rt cfg start state.srcID state.streamID samples (k / 3)] else []) ∧
      Speaking rt start samples (k + 1) next ∧ SameStream next state := by
  have encoded := (encode_frameAt reliable complete).1
  rw [← speaking.vocoder, frameAt, ← speaking.buffer] at encoded
  have rest : state.pcmBuffer.drop 160 = samples.drop (160 * (k + 1)) := by
    rw [speaking.buffer, drop_drop]
    rfl
  have collected : state.ambeFrames ++ [ambeAt rt start samples k] =
      (range (k % 3 + 1)).map fun j => ambeAt rt start samples (3 * (k / 3) + j) := by
    rw [range_succ, map_append, ← speaking.frames, map_singleton, Nat.div_add_mod]
  simp only [encodeFrame, pcmFrameSize, encoded, collected, length_map, length_range]
  by_cases full : k % 3 = 2
  · have quotient : (k + 1) / 3 = k / 3 + 1 := by omega
    have remainder : (k + 1) % 3 = 0 := by omega
    have long : ¬k % 3 + 1 < 3 := by omega
    simp only [if_neg long]
    refine ⟨_, Prod.ext rfl ?_, ⟨complete, rfl, rest, ?_, ?_, ?_, speaking.headerSent⟩, rfl, rfl, rfl⟩
    · simp only [full, if_true, voiceAt, speaking.sequence, speaking.voiceSeq]
      rfl
    · rw [remainder]
      rfl
    · rw [quotient, speaking.sequence, ofNat_sequence]
    · rw [quotient, speaking.voiceSeq, ofNat_voiceSeq]
  · have quotient : (k + 1) / 3 = k / 3 := by omega
    have remainder : (k + 1) % 3 = k % 3 + 1 := by omega
    have short : k % 3 + 1 < 3 := by omega
    simp only [short, if_true, full, if_false]
    refine ⟨_, rfl, ⟨complete, rfl, rest, ?_, ?_, ?_, speaking.headerSent⟩, rfl, rfl, rfl⟩
    · rw [quotient, remainder]
    · rw [quotient, speaking.sequence]
    · rw [quotient, speaking.voiceSeq]

theorem encodeLoop_speaking (reliable : Reliable rt start) {fuel : Nat} (enough : samples.length / 160 ≤ k + fuel)
    (speaking : Speaking rt start samples k state) :
    ∃ next packets, encodeLoop rt cfg fuel state = (next, packets) ∧
      Speaking rt start samples (samples.length / 160) next ∧ SameStream next state ∧
      voices rt cfg start state.srcID state.streamID samples k ++ packets =
        voices rt cfg start state.srcID state.streamID samples (samples.length / 160) := by
  have within := speaking.within
  induction fuel generalizing k state with
  | zero =>
    have done : samples.length / 160 = k := by omega
    rw [done]
    exact ⟨state, [], rfl, speaking, ⟨rfl, rfl, rfl⟩, append_nil _⟩
  | succ fuel ih =>
    have remaining : state.pcmBuffer.length = samples.length - 160 * k := by
      rw [speaking.buffer, length_drop]
    by_cases complete : 160 * (k + 1) ≤ samples.length
    · have long : ¬samples.length - 160 * k < pcmFrameSize := by
        simp only [pcmFrameSize]
        omega
      obtain ⟨middle, round, spoke, same⟩ := encodeFrame_speaking cfg reliable speaking complete
      obtain ⟨next, packets, looped, finished, unchanged, sent⟩ := ih (by omega) spoke complete
      simp only [encodeLoop, remaining, if_neg long, round, looped]
      refine ⟨next, _, rfl, finished, unchanged.trans same, ?_⟩
      rw [same.srcID, same.streamID] at sent
      rw [← append_assoc, ← voices_succ, sent]
    · have short : samples.length - 160 * k < pcmFrameSize := by
        simp only [pcmFrameSize]
        omega
      have done : samples.length / 160 = k := by omega
      simp only [encodeLoop, remaining, if_pos short, done]
      exact ⟨state, [], rfl, speaking, ⟨rfl, rfl, rfl⟩, append_nil _⟩

structure Fresh (start : σ) (state : EncodeState σ) : Prop where
  vocoder : state.vocoder = start
  sequence : state.sequence = 0
  voiceSeq : state.voiceSeq = 0
  buffer : state.pcmBuffer = []
  frames : state.ambeFrames = []
  headerSent : state.headerSent = false

theorem encodeVoice_fresh (reliable : Reliable rt start) (fresh : Fresh start state) (now : Time) (data : List UInt8) :
    ∃ next, encodeVoice rt cfg now data state =
        (next, spoken rt cfg start state.srcID state.streamID (data.map alawToLinear)) ∧
      Speaking rt start (data.map alawToLinear) ((data.map alawToLinear).length / 160) next ∧
      next.streamID = state.streamID ∧ next.srcID = state.srcID ∧ next.lastSeen = now := by
  let begun : EncodeState σ :=
    { state with lastSeen := now, pcmBuffer := data.map alawToLinear, sequence := 1, headerSent := true }
  have speaking : Speaking rt start (data.map alawToLinear) 0 begun :=
    ⟨Nat.zero_le _, fresh.vocoder, rfl, fresh.frames, rfl, fresh.voiceSeq, rfl⟩
  have fuel : (data.map alawToLinear).length / 160 ≤ 0 + (data.map alawToLinear).length := by omega
  obtain ⟨next, packets, looped, finished, same, sent⟩ := encodeLoop_speaking cfg reliable fuel speaking
  have none : voices rt cfg start begun.srcID begun.streamID (data.map alawToLinear) 0 = [] := rfl
  rw [none, nil_append] at sent
  have header : sendHeader cfg { state with lastSeen := now, pcmBuffer := data.map alawToLinear } =
      (begun, [newHeaderPacket state.srcID cfg.targetTG cfg.slot cfg.colorCode state.streamID 0]) := by
    simp only [sendHeader, fresh.headerSent, fresh.sequence]
    rfl
  refine ⟨next, ?_, finished, same.streamID, same.srcID, same.lastSeen⟩
  simp only [encodeVoice, fresh.buffer, nil_append, header]
  rw [looped, sent]
  rfl

theorem encodeVoice_speaking (reliable : Reliable rt start)
    (speaking : Speaking rt start samples (samples.length / 160) state) (now : Time) (data : List UInt8) :
    ∃ next packets, encodeVoice rt cfg now data state = (next, packets) ∧
      Speaking rt start (samples ++ data.map alawToLinear) ((samples ++ data.map alawToLinear).length / 160) next ∧
      spoken rt cfg start state.srcID state.streamID samples ++ packets =
        spoken rt cfg start state.srcID state.streamID (samples ++ data.map alawToLinear) ∧
      next.streamID = state.streamID ∧ next.srcID = state.srcID ∧ next.lastSeen = now := by
  have longer := speaking.more now (data.map alawToLinear)
  have buffered : (samples ++ data.map alawToLinear).length / 160 ≤
      samples.length / 160 + (state.pcmBuffer ++ data.map alawToLinear).length := by
    simp only [speaking.buffer, length_append, length_drop]
    omega
  obtain ⟨next, packets, looped, finished, same, sent⟩ := encodeLoop_speaking cfg reliable buffered longer
  refine ⟨next, packets, ?_, finished, ?_, same.streamID, same.srcID, same.lastSeen⟩
  · simp only [encodeVoice, sendHeader, if_pos speaking.headerSent, looped, nil_append]
  · rw [voices_append cfg speaking.within] at sent
    rw [spoken, spoken, cons_append, sent]

end

end Ipsc2Mmdvm.Nrl
