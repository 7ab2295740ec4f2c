import Ipsc2Mmdvm.Ipsc.Discipline
import Ipsc2Mmdvm.Ipsc.Wire

namespace Ipsc2Mmdvm.Ipsc

open Data Dmr Proto List Prod Forward

/-! A voice call on its way from MMDVM to IPSC. -/

structure Built (pkt : Packet) (callControl : UInt32) (isEnd : Bool) (payload data : Bytes) : Prop where
  made : ∃ source ss rtp, ss.callControl = callControl ∧ rtp.length = 12 ∧
    data = buildIPSCHeader source pkt ss isEnd false ++ rtp ++ payload

def Forward.InCall (t : Forward) (id : UInt64) (callControl : UInt32) (position : Nat) : Prop :=
  ∃ ref, t.streams.find id.toUInt32 = some ref ∧ (t.streams.deref ref).callControl = callControl ∧
    (t.streams.deref ref).burstIndex = (position % 6 : Nat)

structure OfCall (id : UInt64) (call : Call) (pkt : Packet) : Prop where
  streamID : pkt.streamID = id
  call : callOf pkt = call

section

variable {lib : BurstLibrary} {env : ForwardEnv} {t : Forward} {pkt : Packet} {ref : Ref} {id : UInt64}
  {callControl : UInt32} {call : Call} {position : Nat}

theorem OfCall.small (own : OfCall id call pkt) (small : id ≤ 0xFFFFFFFF) : ¬ pkt.streamID > 0xFFFFFFFF := by
  rw [own.streamID]
  exact UInt64.not_lt.mpr small

theorem OfCall.key (own : OfCall id call pkt) : pkt.streamID.toUInt32 = id.toUInt32 := by
  rw [own.streamID]

theorem voiceHeaders_eq (ss : StreamState) : voiceHeaders lib t pkt ss =
      ([(buildVoiceHeader lib t pkt ss ss.firstPacket).1,
          (buildVoiceHeader lib t pkt (buildVoiceHeader lib t pkt ss ss.firstPacket).2 false).1],
        (buildVoiceHeader lib t pkt (buildVoiceHeader lib t pkt ss ss.firstPacket).2 false).2) := rfl

theorem buildVoiceHeader_built (ss : StreamState) (isFirst : Bool) :
    Built pkt ss.callControl false (lcPayload ipscBurstVoiceHead 0x80 pkt.slot (extractFullLCBytes lib pkt))
      (buildVoiceHeader lib t pkt ss isFirst).1 :=
  ⟨t, ss, _, rfl, rtp_length ss isFirst 0x5D, buildLCPacket_eq lib t pkt ss false false isFirst 0x5D _ _⟩

theorem buildVoiceHeader_callControl (ss : StreamState) (isFirst : Bool) :
    (buildVoiceHeader lib t pkt ss isFirst).2.callControl = ss.callControl := rfl

theorem isVoiceHeader_iff : isVoiceHeader pkt = true ↔
    pkt.frameType = frameTypeDataSync ∧ pkt.dtypeOrVSeq = dataTypeVoiceLCHeader.toUInt64 := by
  simp [isVoiceHeader]

theorem isTerminator_iff : isTerminator pkt = true ↔
    pkt.frameType = frameTypeDataSync ∧ pkt.dtypeOrVSeq = dataTypeTerminatorWithLC.toUInt64 := by
  simp [isTerminator]

theorem isVoice_iff : isVoice pkt = true ↔ pkt.frameType = frameTypeVoice ∨ pkt.frameType = frameTypeVoiceSync := by
  simp [isVoice]

theorem translateFrame_header (header : isVoiceHeader pkt = true) : t.translateFrame lib pkt ref = (t.put ref
        { (voiceHeaders lib t pkt (t.streams.deref ref)).2 with
          headersSent := ipscVoiceHeaderRepeats, firstPacket := false, burstIndex := 0 },
        (voiceHeaders lib t pkt (t.streams.deref ref)).1) := by
  obtain ⟨sync, typed⟩ := isVoiceHeader_iff.mp header
  rw [translateFrame, if_pos sync, if_pos typed]

theorem translateToIPSC_header (own : OfCall id call pkt) (small : id ≤ 0xFFFFFFFF) (header : isVoiceHeader pkt = true) :
    ∃ next callControl first second, t.translateToIPSC lib env pkt = (next, [first, second]) ∧
      Built pkt callControl false (lcPayload ipscBurstVoiceHead 0x80 pkt.slot (extractFullLCBytes lib pkt)) first ∧
      Built pkt callControl false (lcPayload ipscBurstVoiceHead 0x80 pkt.slot (extractFullLCBytes lib pkt)) second ∧
      next.InCall id callControl 0 := by
  have bound := @forwardStream_bound env t pkt
  rw [own.key] at bound
  rw [translateToIPSC_eq (own.small small), translateFrame_header header, voiceHeaders_eq]
  generalize (t.forwardStream env pkt).1 = source at bound ⊢
  generalize (t.forwardStream env pkt).2 = ref at bound ⊢
  rw [forward_deref_put, if_pos rfl]
  generalize touched env pkt (source.streams.deref ref) = state
  have stays : (source.put ref state).streams.find id.toUInt32 = some ref := bound
  generalize source.put ref state = putting at stays ⊢
  have second := @buildVoiceHeader_built lib putting pkt (buildVoiceHeader lib putting pkt state state.firstPacket).2 false
  rw [buildVoiceHeader_callControl] at second
  refine ⟨_, state.callControl, _, _, rfl, buildVoiceHeader_built _ _, second, ref, stays, ?_, ?_⟩
  · rw [forward_deref_put, if_pos rfl]
    dsimp only
    rw [buildVoiceHeader_callControl, buildVoiceHeader_callControl]
  · rw [forward_deref_put, if_pos rfl]
    rfl

theorem buildVoiceBurst_eq (ss : StreamState) (voice : (lib.decodeFromBytes pkt.dmrData).isData = false) :
    buildVoiceBurst lib t pkt ss = (some (buildIPSCHeader t pkt ss false false ++ (buildRTPHeader ss false 0x5D).1 ++
        voicePayload (lib.decodeFromBytes pkt.dmrData) pkt (ss.burstIndex.tmod 6)), (buildRTPHeader ss false 0x5D).2) := by
  rw [buildVoiceBurst, voice]
  rfl

theorem buildVoiceBurst_data (ss : StreamState) (isData : (lib.decodeFromBytes pkt.dmrData).isData = true) :
    buildVoiceBurst lib t pkt ss = (none, ss) := by
  rw [buildVoiceBurst, isData]
  rfl

theorem translateFrame_voice (voice : isVoice pkt = true) : t.translateFrame lib pkt ref = (t.put ref
        { (buildVoiceBurst lib t pkt (t.streams.deref ref)).2 with
          burstIndex := ((buildVoiceBurst lib t pkt (t.streams.deref ref)).2.burstIndex + 1).tmod 6 },
        (buildVoiceBurst lib t pkt (t.streams.deref ref)).1.toList) := by
  have frame := isVoice_iff.mp voice
  have notSync : pkt.frameType ≠ frameTypeDataSync := by
    intro sync
    rw [sync] at frame
    exact absurd frame (by decide)
  rw [translateFrame, if_neg notSync, if_pos frame]

theorem tmod_position (position : Nat) : ((position % 6 : Nat) : Int).tmod 6 = (position % 6 : Nat) := by
  rw [Int.tmod_eq_emod_of_nonneg (Int.natCast_nonneg _)]
  omega

theorem next_position (position : Nat) : (((position % 6 : Nat) : Int) + 1).tmod 6 = ((position + 1) % 6 : Nat) := by
  rw [Int.tmod_eq_emod_of_nonneg (by omega)]
  omega

section

variable (inCall : t.InCall id callControl position) (own : OfCall id call pkt) (small : id ≤ 0xFFFFFFFF)

include inCall own small

theorem Forward.InCall.translate (lib : BurstLibrary) (env : ForwardEnv) :
    ∃ (source : Forward) (ref : Ref) (state : StreamState),
      t.translateToIPSC lib env pkt = source.translateFrame lib pkt ref ∧
      source.streams.find id.toUInt32 = some ref ∧ source.streams.deref ref = state ∧
      state.callControl = callControl ∧ state.burstIndex = (position % 6 : Nat) := by
  obtain ⟨ref, bound, control, index⟩ := inCall
  have known : t.forwardStream env pkt = (t, ref) := forwardStream_known (own.key.symm ▸ bound)
  rw [translateToIPSC_eq (own.small small), known]
  exact ⟨_, _, _, rfl, bound, if_pos rfl, control, index⟩

theorem Forward.InCall.voice (voice : isVoice pkt = true) :
    ∃ next data, t.translateToIPSC lib env pkt = (next, data) ∧ next.InCall id callControl (position + 1) ∧
      if (lib.decodeFromBytes pkt.dmrData).isData then data = []
      else ∃ burst, data = [burst] ∧
        Built pkt callControl false (voicePayload (lib.decodeFromBytes pkt.dmrData) pkt (position % 6 : Nat)) burst := by
  obtain ⟨source, ref, state, translated, stays, holds, control, index⟩ := inCall.translate own small lib env
  rw [translated]
  rw [translateFrame_voice voice, holds]
  cases isData : (lib.decodeFromBytes pkt.dmrData).isData with
  | true =>
    rw [buildVoiceBurst_data state isData]
    refine ⟨_, _, rfl, ⟨ref, stays, ?_, ?_⟩, rfl⟩
    · rw [forward_deref_put, if_pos rfl]
      exact control
    · rw [forward_deref_put, if_pos rfl, index]
      exact next_position position
  | false =>
    rw [buildVoiceBurst_eq state isData]
    refine ⟨_, _, rfl, ⟨ref, stays, ?_, ?_⟩, _, rfl, source, state, _, control, rtp_length state false 0x5D, ?_⟩
    · rw [forward_deref_put, if_pos rfl]
      exact control
    · rw [forward_deref_put, if_pos rfl]
      dsimp only [buildRTPHeader]
      rw [index]
      exact next_position position
    · rw [index, tmod_position]

end

theorem translateFrame_terminator (terminator : isTerminator pkt = true) : t.translateFrame lib pkt ref =
      ((t.put ref (buildVoiceTerminator lib t pkt (t.streams.deref ref)).2).removeForwardStreamAliases ref,
        [(buildVoiceTerminator lib t pkt (t.streams.deref ref)).1]) := by
  obtain ⟨sync, typed⟩ := isTerminator_iff.mp terminator
  have notHeader : pkt.dtypeOrVSeq ≠ dataTypeVoiceLCHeader.toUInt64 := by
    rw [typed]
    decide
  rw [translateFrame, if_pos sync, if_neg notHeader, if_pos typed]

theorem Forward.InCall.terminator (inCall : t.InCall id callControl position) (own : OfCall id call pkt)
    (small : id ≤ 0xFFFFFFFF) (terminator : isTerminator pkt = true) :
    ∃ next data, t.translateToIPSC lib env pkt = (next, [data]) ∧
      Built pkt callControl true (lcPayload ipscBurstVoiceTerm 0x80 pkt.slot (extractFullLCBytes lib pkt)) data := by
  obtain ⟨source, ref, state, translated, _, holds, control, _⟩ := inCall.translate own small lib env
  rw [translated]
  rw [translateFrame_terminator terminator, holds]
  exact ⟨_, _, rfl, source, state, _, control, rtp_length state false 0x5E,
    buildLCPacket_eq lib source pkt state true false false 0x5E _ _⟩

end

/-- A call as a network sends it: a header, voice packets that count through the superframe,
and a terminator, all with one stream ID and the same addresses. -/
structure VoiceCall where
  id : UInt64
  call : Call
  header : Packet
  voice : List Packet
  terminator : Packet
  src_fits : call.src.toNat < 2 ^ 24
  dst_fits : call.dst.toNat < 2 ^ 24
  header_own : OfCall id call header
  header_isVoiceHeader : isVoiceHeader header = true
  voice_own : ∀ p ∈ voice, OfCall id call p
  voice_isVoice : ∀ p ∈ voice, isVoice p = true
  voice_position : ∀ k p, voice[k]? = some p → p.dtypeOrVSeq.toNat = k % 6
  terminator_own : OfCall id call terminator
  terminator_isTerminator : isTerminator terminator = true

theorem VoiceCall.streamID_eq (c : VoiceCall) {p : Packet} (member : p ∈ c.header :: (c.voice ++ [c.terminator])) :
    p.streamID = c.id := by
  simp only [mem_cons, mem_append, not_mem_nil, or_false] at member
  obtain rfl | voice | rfl := member
  · exact c.header_own.streamID
  · exact (c.voice_own p voice).streamID
  · exact c.terminator_own.streamID

inductive VoiceRun (lib : BurstLibrary) (callControl : UInt32) : Nat → List Packet → List (List Bytes) → Prop where
  | nil (position : Nat) : VoiceRun lib callControl position [] []
  | voice {position : Nat} {pkt : Packet} {pkts : List Packet} {burst : Bytes} {later : List (List Bytes)}
      (isVoice : (lib.decodeFromBytes pkt.dmrData).isData = false)
      (built : Built pkt callControl false (voicePayload (lib.decodeFromBytes pkt.dmrData) pkt (position % 6 : Nat)) burst)
      (rest : VoiceRun lib callControl (position + 1) pkts later) :
      VoiceRun lib callControl position (pkt :: pkts) ([burst] :: later)
  | skipped {position : Nat} {pkt : Packet} {pkts : List Packet} {later : List (List Bytes)}
      (isData : (lib.decodeFromBytes pkt.dmrData).isData = true)
      (rest : VoiceRun lib callControl (position + 1) pkts later) :
      VoiceRun lib callControl position (pkt :: pkts) ([] :: later)

section

variable {lib : BurstLibrary} {t : Forward} {id : UInt64} {callControl : UInt32} {call : Call} {position : Nat}

theorem translateEach_cons {env : ForwardEnv} {pkt : Packet} {sent : List (ForwardEnv × Packet)} {next : Forward}
    {data : List Bytes} (first : t.translateToIPSC lib env pkt = (next, data)) :
    t.translateEach lib ((env, pkt) :: sent) =
      ((next.translateEach lib sent).1, data :: (next.translateEach lib sent).2) := by
  rw [translateEach, first]

theorem translateEach_append (sent later : List (ForwardEnv × Packet)) : t.translateEach lib (sent ++ later) =
      (((t.translateEach lib sent).1.translateEach lib later).1,
        (t.translateEach lib sent).2 ++ ((t.translateEach lib sent).1.translateEach lib later).2) := by
  induction sent generalizing t with
  | nil => rfl
  | cons first rest ih =>
    obtain ⟨env, pkt⟩ := first
    rw [cons_append, translateEach_cons rfl, ih, translateEach_cons rfl]
    rfl

theorem translateEach_voice (sent : List (ForwardEnv × Packet)) (inCall : t.InCall id callControl position)
    (small : id ≤ 0xFFFFFFFF) (own : ∀ p ∈ sent.map snd, OfCall id call p) (voice : ∀ p ∈ sent.map snd, isVoice p = true) :
    (t.translateEach lib sent).1.InCall id callControl (position + sent.length) ∧
      VoiceRun lib callControl position (sent.map snd) (t.translateEach lib sent).2 := by
  induction sent generalizing t position with
  | nil => exact ⟨inCall, .nil position⟩
  | cons first rest ih =>
    obtain ⟨env, pkt⟩ := first
    obtain ⟨next, data, translated, stays, result⟩ :=
      @Forward.InCall.voice lib env t pkt id callControl call position inCall
        (own pkt mem_cons_self) small (voice pkt mem_cons_self)
    obtain ⟨ends, run⟩ := ih stays (fun p member => own p (mem_cons_of_mem pkt member))
      fun p member => voice p (mem_cons_of_mem pkt member)
    rw [translateEach_cons translated]
    refine ⟨?_, ?_⟩
    · have count : position + 1 + rest.length = position + ((env, pkt) :: rest).length := by
        rw [length_cons]
        omega
      rw [← count]
      exact ends
    · cases isData : (lib.decodeFromBytes pkt.dmrData).isData with
      | true =>
        rw [isData, if_pos rfl] at result
        rw [result]
        exact .skipped isData run
      | false =>
        rw [isData] at result
        obtain ⟨burst, rfl, built⟩ := result
        exact .voice isData built run

theorem translateEach_call (c : VoiceCall) (small : c.id ≤ 0xFFFFFFFF) {first last : ForwardEnv} {voice : List (ForwardEnv × Packet)}
    (own : ∀ p ∈ voice.map snd, p ∈ c.voice) :
    ∃ callControl header repeated bursts terminator,
      (t.translateEach lib ((first, c.header) :: (voice ++ [(last, c.terminator)]))).2 =
        [header, repeated] :: (bursts ++ [[terminator]]) ∧
      Built c.header callControl false
        (lcPayload ipscBurstVoiceHead 0x80 c.header.slot (extractFullLCBytes lib c.header)) header ∧
      Built c.header callControl false
        (lcPayload ipscBurstVoiceHead 0x80 c.header.slot (extractFullLCBytes lib c.header)) repeated ∧
      VoiceRun lib callControl 0 (voice.map snd) bursts ∧
      Built c.terminator callControl true
        (lcPayload ipscBurstVoiceTerm 0x80 c.terminator.slot (extractFullLCBytes lib c.terminator)) terminator := by
  obtain ⟨next, callControl, header, repeated, started, builtHeader, builtRepeated, inCall⟩ :=
    @translateToIPSC_header lib first t c.header c.id c.call c.header_own small c.header_isVoiceHeader
  obtain ⟨inVoice, run⟩ := @translateEach_voice lib next c.id callControl c.call 0 voice inCall small
    (fun p member => c.voice_own p (own p member)) fun p member => c.voice_isVoice p (own p member)
  obtain ⟨final, terminator, ended, builtTerminator⟩ :=
    @Forward.InCall.terminator lib last (next.translateEach lib voice).1 c.terminator c.id callControl c.call _ inVoice
      c.terminator_own small c.terminator_isTerminator
  refine ⟨callControl, header, repeated, (next.translateEach lib voice).2, terminator, ?_, builtHeader, builtRepeated, run,
    builtTerminator⟩
  rw [translateEach_cons started, translateEach_append, translateEach_cons ended]
  rfl

theorem translateEach_large (sent : List (ForwardEnv × Packet)) (large : ∀ p ∈ sent.map snd, p.streamID > 0xFFFFFFFF) :
    (t.translateEach lib sent).2 = replicate sent.length [] := by
  induction sent generalizing t with
  | nil => rfl
  | cons first rest ih =>
    obtain ⟨env, pkt⟩ := first
    have ignored : t.translateToIPSC lib env pkt = (t, []) := if_pos (large pkt mem_cons_self)
    rw [translateEach_cons ignored, ih fun p member => large p (mem_cons_of_mem pkt member)]
    rfl

end

end Ipsc2Mmdvm.Ipsc
