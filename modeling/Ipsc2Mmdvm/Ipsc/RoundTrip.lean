import Ipsc2Mmdvm.Ipsc.DataCalls
import Ipsc2Mmdvm.Ipsc.ReverseCalls

namespace Ipsc2Mmdvm.Ipsc

open Data Dmr Proto
open List hiding Vector

/-! A voice call to IPSC and back. -/

def BurstLibrary.InvertsEncode (lib : BurstLibrary) : Prop :=
  ∀ burst, (lib.decodeFromBytes (lib.encodeBurst burst)).frames = burst.voiceData

/-- The addresses that the link control of a call gives, when it decodes, are those that were encoded. -/
def BurstLibrary.RecoversAddresses (lib : BurstLibrary) : Prop :=
  ∀ (src dst : UInt64) groupCall dataType flc, src.toNat < 2 ^ 24 → dst.toNat < 2 ^ 24 →
    lib.decodeFromBits (unpackBits (buildStandardLCBytes lib.toDmrgo src dst groupCall).toList) dataType = some flc →
    flc.addresses = none ∨ flc.addresses = some (src, dst)

section

variable {lib : BurstLibrary} {pkt : Packet} {callControl : UInt32} {isEnd : Bool} {payload data : Bytes}
  {burstType : UInt8}

theorem recovered_voice {dmrgo : Dmrgo} (notHeader : burstType ≠ ipscBurstVoiceHead)
    (notTerminator : burstType ≠ ipscBurstVoiceTerm) : recovered dmrgo data burstType = none := by
  rw [recovered, recoverAddressesFromFullLC, if_neg notHeader, if_neg notTerminator]
  split <;> rfl

theorem recovered_lc (recovers : lib.RecoversAddresses) (fit : AddressesFit pkt) (burstType : UInt8)
    (carried : slice data 38 50 = (extractFullLCBytes lib pkt).toList) :
    recovered lib.toDmrgo data burstType = none ∨ recovered lib.toDmrgo data burstType = some (pkt.src, pkt.dst) := by
  rw [recovered, recoverAddressesFromFullLC]
  split
  · exact .inl rfl
  · rename_i long
    split
    · exact .inl rfl
    · rename_i dataType _
      rw [checkedSlice_eq (by decide) (Nat.le_of_not_lt long), carried]
      cases decoded : lib.decodeFromBits (unpackBits (extractFullLCBytes lib pkt).toList) dataType with
      | none => exact .inl (by simp [bind, Except.bind, pure, Except.pure, decoded, Except.toOption])
      | some flc =>
        have addresses := recovers pkt.src pkt.dst pkt.groupCall dataType flc fit.src fit.dst decoded
        simpa [bind, Except.bind, pure, Except.pure, decoded, Except.toOption] using addresses

section

variable (built : Built pkt callControl isEnd payload data)

include built

theorem Built.packetType : data.getD 0 0 = packetTypeOf pkt false := by
  obtain ⟨source, ss, rtp, _, _, rfl⟩ := built
  rfl

theorem Built.length : data.length = 30 + payload.length := by
  obtain ⟨source, ss, rtp, _, rtpLength, rfl⟩ := built
  exact length_built rtpLength

theorem Built.payloadSlice (lo hi : Nat) : slice data (30 + lo) (30 + hi) = slice payload lo hi := by
  obtain ⟨source, ss, rtp, _, rtpLength, rfl⟩ := built
  exact slice_built rtpLength lo hi

theorem Built.readsCallControl (dmrgo : Dmrgo) :
    (received dmrgo (packetTypeOf pkt false) data).callControl = callControl := by
  obtain ⟨source, ss, rtp, rfl, _, rfl⟩ := built
  exact callControl_built

theorem Built.readsIsEnd (dmrgo : Dmrgo) : (received dmrgo (packetTypeOf pkt false) data).isEnd = isEnd := by
  obtain ⟨source, ss, rtp, _, _, rfl⟩ := built
  exact isEnd_built

theorem Built.readsBurstType : data.getD 30 0 = payload.getD 0 0 := by
  obtain ⟨source, ss, rtp, _, rtpLength, rfl⟩ := built
  exact getD_built rtpLength 0

theorem Built.readsTransport (fit : AddressesFit pkt) : transportCall (packetTypeOf pkt false) data = callOf pkt := by
  obtain ⟨source, ss, rtp, _, _, rfl⟩ := built
  exact transportCall_built fit

theorem Built.readsCall (fit : AddressesFit pkt) (recovers : recovered lib.toDmrgo data (payload.getD 0 0) = none ∨
      recovered lib.toDmrgo data (payload.getD 0 0) = some (pkt.src, pkt.dst)) :
    (received lib.toDmrgo (packetTypeOf pkt false) data).call = callOf pkt := by
  simp only [received, built.readsBurstType, built.readsTransport fit]
  obtain none | some := recovers
  · rw [none]
  · rw [some]
    rfl

theorem Built.readAs {call : Call} (fit : AddressesFit pkt) (own : callOf pkt = call) (long : 1 ≤ payload.length)
    (recovers : recovered lib.toDmrgo data (payload.getD 0 0) = none ∨
      recovered lib.toDmrgo data (payload.getD 0 0) = some (pkt.src, pkt.dst)) :
    ReadAs lib.toDmrgo callControl call data where
  supported := by
    rw [built.packetType]
    exact isSupported_packetTypeOf
  long := by
    have length := built.length
    omega
  callControl := by
    rw [built.packetType]
    exact built.readsCallControl lib.toDmrgo
  call := by
    rw [built.packetType, built.readsCall fit recovers, own]

end

theorem Built.readAs_lc {call : Call} {rssi : UInt8}
    (built : Built pkt callControl isEnd (lcPayload burstType rssi pkt.slot (extractFullLCBytes lib pkt)) data)
    (recovers : lib.RecoversAddresses) (fit : AddressesFit pkt) (own : callOf pkt = call) :
    ReadAs lib.toDmrgo callControl call data := by
  have carried := built.payloadSlice 8 20
  rw [slice_lcPayload] at carried
  exact built.readAs fit own (by rw [length_lcPayload]; decide) (recovered_lc recovers fit _ carried)

end

section

variable {burst : DecodedBurst} {pkt : Packet} {callControl : UInt32} {isEnd : Bool} {data : Bytes} {burstIdx : Int}

theorem voicePayload_frames (burst : DecodedBurst) (pkt : Packet) (burstIdx : Int) :
    ∃ first second back, voicePayload burst pkt burstIdx =
      [slotBurst pkt.slot, first, second] ++ (packAMBEVoiceFrames burst.frames).toList ++ back := by
  simp only [voicePayload]
  split
  · exact ⟨0x14, 0x40, [], (append_nil _).symm⟩
  · split
    · exact ⟨0x22, 0x16, burst.embedded ++ replicate 3 0 ++ putUint24 pkt.dst ++ putUint24 pkt.src ++ [0x14],
        by simp only [append_assoc]⟩
    · exact ⟨0x19, 0x06, burst.embedded ++ [0], by simp only [append_assoc]⟩

theorem voicePayload_first : (voicePayload burst pkt burstIdx).getD 0 0 = slotBurst pkt.slot := by
  obtain ⟨first, second, back, layout⟩ := voicePayload_frames burst pkt burstIdx
  rw [layout]
  rfl

theorem length_voicePayload (burst : DecodedBurst) (pkt : Packet) (burstIdx : Int) :
    (voicePayload burst pkt burstIdx).length = if burstIdx = 0 then 22 else if burstIdx = 4 then 36 else 27 := by
  have embedded : burst.embedded.length = 4 := by
    simp only [DecodedBurst.embedded]
    split <;> simp
  simp only [voicePayload]
  split
  · simp
  · split <;> simp [embedded, putUint24]

theorem le_length_voicePayload (burst : DecodedBurst) (pkt : Packet) (burstIdx : Int) :
    22 ≤ (voicePayload burst pkt burstIdx).length := by
  rw [length_voicePayload]
  split
  · decide
  · split <;> decide

theorem slotBurst_voice (slot : Bool) : slotBurst slot = ipscBurstSlot1 ∨ slotBurst slot = ipscBurstSlot2 := by
  cases slot
  · exact .inl rfl
  · exact .inr rfl

section

variable (built : Built pkt callControl isEnd (voicePayload burst pkt burstIdx) data)

include built

theorem Built.readAs_voice {lib : BurstLibrary} {call : Call} (fit : AddressesFit pkt)
    (own : callOf pkt = call) : ReadAs lib.toDmrgo callControl call data := by
  have long := le_length_voicePayload burst pkt burstIdx
  have notHeader : slotBurst pkt.slot ≠ ipscBurstVoiceHead := by cases pkt.slot <;> decide
  have notTerminator : slotBurst pkt.slot ≠ ipscBurstVoiceTerm := by cases pkt.slot <;> decide
  refine built.readAs fit own (by omega) (.inl ?_)
  rw [voicePayload_first]
  exact recovered_voice notHeader notTerminator

theorem Built.receivedFrames_eq : receivedFrames data = burst.frames := by
  obtain ⟨first, second, back, layout⟩ := voicePayload_frames burst pkt burstIdx
  have carried := built.payloadSlice 3 22
  have middle := slice_middle [slotBurst pkt.slot, first, second] (packAMBEVoiceFrames burst.frames).toList back
  have frames : slice (voicePayload burst pkt burstIdx) 3 22 = (packAMBEVoiceFrames burst.frames).toList := by
    rw [layout]
    simpa using middle
  rw [frames] at carried
  rw [receivedFrames, carried, ofFn_getD_toList, unpackAMBEVoiceFrames_packAMBEVoiceFrames]

end

end

structure Carried (call : Call) (id : UInt32) (back : Packet) : Prop where
  call : callOf back = call
  streamID : back.streamID = id.toUInt64

structure VoiceBack (lib : BurstLibrary) (call : Call) (id : UInt32) (position : Nat) (sent back : Packet) : Prop where
  carried : Carried call id back
  sequence : back.dtypeOrVSeq.toNat = position % 6
  frameType : back.frameType = if position % 6 = 0 then frameTypeVoiceSync else frameTypeVoice
  frames : (lib.decodeFromBytes back.dmrData).frames = (lib.decodeFromBytes sent.dmrData).frames

def Survived (lib : BurstLibrary) (c : VoiceCall) (back : List Packet) : Prop :=
  ∃ id header voice terminator, back = header :: (voice ++ [terminator]) ∧
    isVoiceHeader header = true ∧ Carried c.call id header ∧
    voice.length = c.voice.length ∧
    (∀ k p q, c.voice[k]? = some p → voice[k]? = some q → VoiceBack lib c.call id k p q) ∧
    isTerminator terminator = true ∧ Carried c.call id terminator

structure ReverseStreamState.Of (state : ReverseStreamState) (call : Call) (id : UInt32) : Prop where
  streamID : state.streamID = id
  src : state.src = call.src
  dst : state.dst = call.dst

section

variable {lib : BurstLibrary} {t : Translator} {env : ReverseEnv} {callControl id : UInt32} {call : Call}
  {state : ReverseStreamState} {position : Nat} {pkt : Packet} {data : Bytes}

theorem ReverseStreamState.Of.within (of : state.Of call id) : call.within state = call := Call.within_self of.src of.dst

theorem callOf_fits (src : call.src.toNat < 2 ^ 24) (dst : call.dst.toNat < 2 ^ 24) (own : callOf pkt = call) :
    AddressesFit pkt := by
  subst own
  exact ⟨src, dst⟩

theorem Translator.Stream.voice_back (stream : t.Stream callControl state) (env : ReverseEnv)
    (counts : state.Counts position) (of : state.Of call id) (inverts : lib.InvertsEncode) (fit : AddressesFit pkt)
    (own : callOf pkt = call)
    (built : Built pkt callControl false (voicePayload (lib.decodeFromBytes pkt.dmrData) pkt (position % 6 : Nat)) data) :
    ∃ next after back, t.translateToMMDVM lib.toDmrgo env (data.getD 0 0) data = .ok (next, [back]) ∧
      VoiceBack lib call id position pkt back ∧ next.Stream callControl after ∧ after.Counts (position + 1) ∧
      after.Of call id := by
  have voice : data.getD 30 0 = ipscBurstSlot1 ∨ data.getD 30 0 = ipscBurstSlot2 := by
    rw [built.readsBurstType, voicePayload_first]
    exact slotBurst_voice pkt.slot
  have long : 52 ≤ data.length := by
    have payload := le_length_voicePayload (lib.decodeFromBytes pkt.dmrData) pkt (position % 6 : Nat)
    rw [built.length]
    omega
  obtain ⟨next, source, burst, frames, translated, follows⟩ := stream.voice env (built.readAs_voice fit own) voice long
  rw [of.within] at translated
  have seen := counts.seenAt env.now
  refine ⟨next, _, _, translated, ?_, follows, seen.afterVoice, of.streamID, of.src, of.dst⟩
  exact
    { carried := ⟨rfl, congrArg UInt32.toUInt64 of.streamID⟩
      sequence := seen.sequence source call _
      frameType := seen.frameType source call _
      frames := by
        rw [← built.receivedFrames_eq, ← frames]
        exact inverts burst }

theorem VoiceRun.back {pkts : List Packet} {bursts : List (List Bytes)}
    (run : VoiceRun lib callControl position pkts bursts) (inverts : lib.InvertsEncode)
    (allVoice : ∀ p ∈ pkts, (lib.decodeFromBytes p.dmrData).isData = false) (src : call.src.toNat < 2 ^ 24)
    (dst : call.dst.toNat < 2 ^ 24) (own : ∀ p ∈ pkts, callOf p = call) (arrived : List (ReverseEnv × Bytes))
    (complete : arrived.map Prod.snd = bursts.flatten) (stream : t.Stream callControl state)
    (counts : state.Counts position) (of : state.Of call id) :
    ∃ next after outputs, t.translateEach lib.toDmrgo arrived = .ok (next, outputs) ∧
      next.Stream callControl after ∧ after.Of call id ∧ outputs.flatten.length = pkts.length ∧
      ∀ k p q, pkts[k]? = some p → outputs.flatten[k]? = some q → VoiceBack lib call id (position + k) p q := by
  induction run generalizing t state arrived with
  | nil position =>
    cases map_eq_nil_iff.mp complete
    exact ⟨t, state, [], rfl, stream, of, rfl, by simp⟩
  | @voice position pkt pkts burst later isVoice built rest ih =>
    obtain ⟨⟨env, data⟩, arrivals, rfl, rfl, remaining⟩ := map_eq_cons_iff.mp complete
    have ownPkt := own pkt mem_cons_self
    obtain ⟨next, after, back, translated, voiceBack, follows, counts', of'⟩ :=
      stream.voice_back env counts of inverts (callOf_fits src dst ownPkt) ownPkt built
    obtain ⟨final, ending, outputs, run, stays, ofEnding, length, each⟩ :=
      ih (fun p member => allVoice p (mem_cons_of_mem pkt member))
        (fun p member => own p (mem_cons_of_mem pkt member)) arrivals remaining follows counts' of'
    refine ⟨final, ending, [back] :: outputs, Translator.translateEach_cons translated run, stays, ofEnding, ?_, ?_⟩
    · simp [length]
    · intro k p q sent returned
      cases k with
      | zero =>
        cases sent
        cases returned
        exact voiceBack
      | succ k =>
        have shifted := each k p q sent returned
        rwa [Nat.add_assoc, Nat.add_comm 1 k] at shifted
  | @skipped position pkt pkts later isData rest ih =>
    have voice := allVoice pkt mem_cons_self
    rw [isData] at voice
    cases voice

theorem stream_configured (r : Received) (env : ReverseEnv) (peerID : UInt32) (colorCode : UInt8) :
    ∃ state, (r.stream env (configured peerID colorCode)).1.reverseStreams.deref
        (r.stream env (configured peerID colorCode)).2 = state ∧
      state.started = false ∧ state.src = r.call.src ∧ state.dst = r.call.dst := by
  have empty : ∀ key, (configured peerID colorCode).reverseStreams.find key = none := by
    intro key
    simp [configured, newIPSCTranslator]
  have lookup := lookup_stream r env (configured peerID colorCode)
  generalize r.stream env (configured peerID colorCode) = found at lookup
  cases lookup with
  | known rss bound =>
    rw [empty] at bound
    cases bound
  | byTuple rss other unbound present _ _ | byPeer rss other unbound present _ _ =>
    rw [empty] at present
    cases present
  | created unbound => exact ⟨r.newState env (configured peerID colorCode), by simp [Translator.create], rfl, rfl, rfl⟩

theorem headers_back {header repeated : Bytes} (first second : ReverseEnv) (peerID : UInt32) (colorCode : UInt8)
    (recovers : lib.RecoversAddresses) (fit : AddressesFit pkt) (own : callOf pkt = call)
    (builtHeader : Built pkt callControl false
      (lcPayload ipscBurstVoiceHead 0x80 pkt.slot (extractFullLCBytes lib pkt)) header)
    (builtRepeated : Built pkt callControl false
      (lcPayload ipscBurstVoiceHead 0x80 pkt.slot (extractFullLCBytes lib pkt)) repeated) :
    ∃ next state id back, (configured peerID colorCode).translateEach lib.toDmrgo [(first, header), (second, repeated)] =
        .ok (next, [[back], []]) ∧
      isVoiceHeader back = true ∧ Carried call id back ∧ next.Stream callControl state ∧ state.Counts 0 ∧
      state.Of call id := by
  have read := builtHeader.readAs_lc recovers fit own
  obtain ⟨state, stream, fresh, src, dst⟩ :=
    stream_configured (received lib.toDmrgo (header.getD 0 0) header) first peerID colorCode
  rw [read.call] at src dst
  have within := Call.within_self src dst
  obtain ⟨started, source, dmrData, translated, follows⟩ :=
    translateToMMDVM_first_header read stream builtHeader.readsBurstType fresh
  have readRepeated := builtRepeated.readAs_lc recovers fit own
  obtain ⟨next, ignored, stays⟩ :=
    translateToMMDVM_absorbed_header readRepeated (follows.found readRepeated second) builtRepeated.readsBurstType rfl
  rw [within] at translated stays
  refine ⟨next, _, state.streamID, _, Translator.translateEach_cons translated (Translator.translateEach_cons ignored Translator.translateEach_nil),
    ?_, ⟨rfl, rfl⟩, stays, (ReverseStreamState.counts_afterHeader call).seenAt second.now, rfl, src, dst⟩
  rw [dataPacket_isVoiceHeader]
  rfl

theorem Translator.Stream.terminator_back (stream : t.Stream callControl state) (env : ReverseEnv)
    (of : state.Of call id) (recovers : lib.RecoversAddresses) (fit : AddressesFit pkt) (own : callOf pkt = call)
    (built : Built pkt callControl true (lcPayload ipscBurstVoiceTerm 0x80 pkt.slot (extractFullLCBytes lib pkt)) data) :
    ∃ next back, t.translateToMMDVM lib.toDmrgo env (data.getD 0 0) data = .ok (next, [back]) ∧
      isTerminator back = true ∧ Carried call id back := by
  obtain ⟨next, source, dmrData, translated⟩ :=
    stream.terminator env (built.readAs_lc recovers fit own) built.readsBurstType (built.readsIsEnd lib.toDmrgo)
  rw [of.within] at translated
  refine ⟨next, _, translated, ?_, rfl, congrArg UInt32.toUInt64 of.streamID⟩
  rw [dataPacket_isTerminator]
  rfl

end

theorem plainLibrary_inverts : plainLibrary.InvertsEncode := by
  intro burst
  have bytes : (Vector.ofFn fun i : Fin 19 => (plainLibrary.encodeBurst burst).toList.getD i 0) =
      packAMBEVoiceFrames burst.voiceData := by
    apply Vector.ext
    intro i inside
    have within : i < 33 := Nat.lt_trans inside (by decide)
    simp [plainLibrary, within]
  change unpackAMBEVoiceFrames (Vector.ofFn fun i : Fin 19 => (plainLibrary.encodeBurst burst).toList.getD i 0) = _
  rw [bytes, unpackAMBEVoiceFrames_packAMBEVoiceFrames]

theorem plainLibrary_lc {src dst : UInt64} (srcFits : src.toNat < 2 ^ 24) (dstFits : dst.toNat < 2 ^ 24) (groupCall : Bool) :
    ∃ flco : UInt8, buildStandardLCBytes plainLibrary.toDmrgo src dst groupCall =
      #v[flco, 0, 0x20, (dst >>> 16).toUInt8, (dst >>> 8).toUInt8, dst.toUInt8, (src >>> 16).toUInt8,
        (src >>> 8).toUInt8, src.toUInt8, 0, 0, 0] := by
  have small : ¬ (dst.toNat ≥ 2 ^ 63 ∨ src.toNat ≥ 2 ^ 63) := by omega
  refine ⟨if groupCall then flcoGroupVoiceChannelUser else flcoUnitToUnitVoiceChannelUser, ?_⟩
  rw [buildStandardLCBytes, if_neg small]
  simp only [plainLibrary, Int.toNat_natCast, UInt64.ofNat_toNat, Nat.toUInt64_eq]
  rfl

theorem addresses_eq {flc : FullLinkControl} {src dst : UInt64} (source : flc.sourceAddress = src.toNat)
    (group : flc.groupAddress = dst.toNat) (target : flc.targetAddress = dst.toNat) :
    flc.addresses = none ∨ flc.addresses = some (src, dst) := by
  have sourceAddress : flc.sourceAddress.toNat.toUInt64 = src := by simp [source]
  have groupAddress : flc.groupAddress.toNat.toUInt64 = dst := by simp [group]
  have targetAddress : flc.targetAddress.toNat.toUInt64 = dst := by simp [target]
  simp only [FullLinkControl.addresses, sourceAddress, groupAddress, targetAddress]
  split_ifs <;> simp

theorem plainLibrary_recovers : plainLibrary.RecoversAddresses := by
  intro src dst groupCall dataType flc srcFits dstFits decoded
  obtain ⟨flco, encoded⟩ := plainLibrary_lc srcFits dstFits groupCall
  have source := uint24_bytes srcFits
  have destination := uint24_bytes dstFits
  rw [encoded] at decoded
  simp only [plainLibrary, packBits_unpackBits] at decoded
  cases decoded
  exact addresses_eq (congrArg (fun address : UInt64 => (address.toNat : Int)) source)
    (congrArg (fun address : UInt64 => (address.toNat : Int)) destination)
    (congrArg (fun address : UInt64 => (address.toNat : Int)) destination)

def shortCall (id : UInt64) : VoiceCall where
  id := id
  call := { src := 5, dst := 9, groupCall := true, slot := false }
  header := { src := 5, dst := 9, groupCall := true, streamID := id, frameType := frameTypeDataSync, dtypeOrVSeq := 1 }
  voice := [{ src := 5, dst := 9, groupCall := true, streamID := id, frameType := frameTypeVoiceSync }]
  terminator :=
    { src := 5, dst := 9, groupCall := true, streamID := id, frameType := frameTypeDataSync, dtypeOrVSeq := 2 }
  src_fits := by decide
  dst_fits := by decide
  header_own := ⟨rfl, rfl⟩
  header_isVoiceHeader := rfl
  voice_own := by
    intro p member
    cases List.mem_singleton.mp member
    exact ⟨rfl, rfl⟩
  voice_isVoice := by
    intro p member
    cases List.mem_singleton.mp member
    rfl
  voice_position := by
    intro k p sent
    cases k with
    | zero =>
      cases sent
      rfl
    | succ k => cases sent
  terminator_own := ⟨rfl, rfl⟩
  terminator_isTerminator := rfl

def VoiceCall.sent (c : VoiceCall) : List (ForwardEnv × Packet) :=
  (c.header :: (c.voice ++ [c.terminator])).map fun p => (anyForwardEnv, p)

def VoiceCall.arrived (c : VoiceCall) : List (ReverseEnv × Bytes) :=
  ((newForward 1).translateEach plainLibrary c.sent).2.flatten.map fun data => (atTime 1000, data)

theorem call_survives (lib : BurstLibrary) (inverts : lib.InvertsEncode) (recovers : lib.RecoversAddresses)
    (forwardID peerID : UInt32) (colorCode : UInt8) (c : VoiceCall)
    (allVoice : ∀ p ∈ c.voice, (lib.decodeFromBytes p.dmrData).isData = false)
    (sent : List (ForwardEnv × Packet)) (whole : sent.map Prod.snd = c.header :: (c.voice ++ [c.terminator]))
    (arrived : List (ReverseEnv × Bytes))
    (complete : arrived.map Prod.snd = ((newForward forwardID).translateEach lib sent).2.flatten) :
    (c.id ≤ 0xFFFFFFFF → ∃ final outputs,
      (configured peerID colorCode).translateEach lib.toDmrgo arrived = .ok (final, outputs) ∧
        Survived lib c outputs.flatten) ∧
      (c.id > 0xFFFFFFFF → arrived = []) := by
  constructor
  · intro small
    obtain ⟨⟨first, _⟩, rest, rfl, rfl, voiceAndLast⟩ := List.map_eq_cons_iff.mp whole
    obtain ⟨voice, ending, rfl, voices, lasts⟩ := List.map_eq_append_iff.mp voiceAndLast
    obtain ⟨⟨last, _⟩, rfl, rfl⟩ := List.map_eq_singleton_iff.mp lasts
    obtain ⟨callControl, header, repeated, bursts, terminator, outputs, builtHeader, builtRepeated, run, builtTerminator⟩ :=
      @translateEach_call lib (newForward forwardID) c small first last voice
        fun p member => by rw [voices] at member; exact member
    rw [voices] at run
    rw [outputs, List.flatten_cons, List.flatten_append] at complete
    obtain ⟨⟨env, _⟩, afterHeader, rfl, rfl, fromRepeated⟩ := List.map_eq_cons_iff.mp complete
    obtain ⟨⟨env', _⟩, afterRepeated, rfl, rfl, remaining⟩ := List.map_eq_cons_iff.mp fromRepeated
    have fromVoice : afterRepeated.map Prod.snd = bursts.flatten ++ [terminator] := remaining
    obtain ⟨arrivedVoice, lastArrived, rfl, completeVoice, completeLast⟩ := List.map_eq_append_iff.mp fromVoice
    obtain ⟨⟨env'', _⟩, rfl, rfl⟩ := List.map_eq_singleton_iff.mp completeLast
    have headerOwn := c.header_own.call
    have terminatorOwn := c.terminator_own.call
    obtain ⟨started, state, id, headerBack, headers, isHeader, headerCarried, stream, counts, of⟩ :=
      headers_back env env' peerID colorCode recovers (callOf_fits c.src_fits c.dst_fits headerOwn) headerOwn builtHeader
        builtRepeated
    obtain ⟨between, after, voiceBack, voiceRun, stays, ofAfter, length, each⟩ :=
      run.back inverts allVoice c.src_fits c.dst_fits (fun p member => (c.voice_own p member).call) arrivedVoice
        completeVoice stream counts of
    obtain ⟨final, terminatorBack, translated, isTerm, terminatorCarried⟩ :=
      stays.terminator_back env'' ofAfter recovers (callOf_fits c.src_fits c.dst_fits terminatorOwn) terminatorOwn
        builtTerminator
    have rest := Translator.translateEach_append voiceRun (Translator.translateEach_cons translated Translator.translateEach_nil)
    refine ⟨final, _, Translator.translateEach_append headers rest, id, headerBack, voiceBack.flatten, terminatorBack, ?_,
      isHeader, headerCarried, length, ?_, isTerm, terminatorCarried⟩
    · simp
    · simpa only [Nat.zero_add] using each
  · intro large
    have ignored : ((newForward forwardID).translateEach lib sent).2 = List.replicate sent.length [] := by
      apply translateEach_large
      intro p member
      rw [whole] at member
      rw [c.streamID_eq member]
      exact large
    rw [ignored] at complete
    simpa using complete

theorem call_survives_shortCall :
    ∃ final outputs, (configured 1 1).translateEach plainLibrary.toDmrgo (shortCall 7).arrived = .ok (final, outputs) ∧
      Survived plainLibrary (shortCall 7) outputs.flatten :=
  (call_survives plainLibrary plainLibrary_inverts plainLibrary_recovers 1 1 1 (shortCall 7) (fun _ _ => rfl)
    (shortCall 7).sent (by simp [VoiceCall.sent]) (shortCall 7).arrived (by simp [VoiceCall.arrived])).1 (by decide)

/-- With a stream ID of 33 bits nothing is sent, so nothing comes back. -/
theorem call_lost : plainLibrary.InvertsEncode ∧ plainLibrary.RecoversAddresses ∧
      (∀ p ∈ (shortCall 0x100000000).voice, (plainLibrary.decodeFromBytes p.dmrData).isData = false) ∧
      (shortCall 0x100000000).arrived = [] ∧
      (configured 1 1).translateEach plainLibrary.toDmrgo [] = .ok (configured 1 1, []) ∧
      ¬ Survived plainLibrary (shortCall 0x100000000) [] := by
  refine ⟨plainLibrary_inverts, plainLibrary_recovers, fun _ _ => rfl, rfl, rfl, ?_⟩
  intro survived
  obtain ⟨id, header, voice, terminator, nothing, _⟩ := survived
  cases nothing

end Ipsc2Mmdvm.Ipsc
