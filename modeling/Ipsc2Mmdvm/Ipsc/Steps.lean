import Ipsc2Mmdvm.Ipsc.Bounds
import Ipsc2Mmdvm.Ipsc.Streams

namespace Ipsc2Mmdvm.Ipsc

open Data Dmr Proto Option

/-! A packet of at least 31 bytes is read once; it then gets its stream, and its burst does one of
five things to that stream. -/

structure Received where
  peerID : UInt32
  callControl : UInt32
  call : Call
  trusted : Bool
  burstType : UInt8
  isEnd : Bool

def recovered (dmrgo : Dmrgo) (data : Bytes) (burstType : UInt8) : Option (UInt64 × UInt64) :=
  (recoverAddressesFromFullLC dmrgo data burstType).toOption.join

def transportCall (packetType : UInt8) (data : Bytes) : Call where
  src := uint24 (data.getD 6 0) (data.getD 7 0) (data.getD 8 0)
  dst := uint24 (data.getD 9 0) (data.getD 10 0) (data.getD 11 0)
  groupCall := packetType == 0x80 || packetType == 0x83
  slot := data.getD 17 0 &&& 0x20 != 0

def received (dmrgo : Dmrgo) (packetType : UInt8) (data : Bytes) : Received where
  peerID := uint32At (slice data 1 5) 0
  callControl := uint32At (slice data 13 17) 0
  call := match recovered dmrgo data (data.getD 30 0) with
    | none => transportCall packetType data
    | some (src, dst) => { transportCall packetType data with src, dst }
  trusted := (recovered dmrgo data (data.getD 30 0)).isSome
  burstType := data.getD 30 0
  isEnd := data.getD 17 0 &&& 0x40 != 0

def Call.within (call : Call) (state : ReverseStreamState) : Call :=
  { call with
    src := if state.src ≠ 0 then state.src else call.src
    dst := if state.dst ≠ 0 then state.dst else call.dst }

namespace Received

variable (r : Received) (env : ReverseEnv) (t : Translator)

def stream : Translator × Ref :=
  t.reverseStream env r.peerID r.callControl r.call r.trusted r.burstType

def seen : Translator :=
  let state := (r.stream env t).1.reverseStreams.deref (r.stream env t).2
  (r.stream env t).1.put (r.stream env t).2 { state with lastSeen := env.now }

def callWithin : Call :=
  r.call.within ((r.stream env t).1.reverseStreams.deref (r.stream env t).2)

end Received

variable {data : Bytes} {packetType : UInt8}

theorem recoverAddressesFromFullLC_eq (dmrgo : Dmrgo) (data : Bytes) (burstType : UInt8) :
    recoverAddressesFromFullLC dmrgo data burstType = .ok (recovered dmrgo data burstType) := by
  obtain ⟨addresses, found⟩ := @recoverAddressesFromFullLC_inRange dmrgo data burstType
  rw [recovered, found]
  rfl

theorem translateToMMDVM_eq {dmrgo : Dmrgo} {env : ReverseEnv} {t : Translator} (long : 31 ≤ data.length)
    (supported : isSupported packetType = true) :
    t.translateToMMDVM dmrgo env packetType data = ((received dmrgo packetType data).seen env t).translateBurst dmrgo
        ((received dmrgo packetType data).callWithin env t) ((received dmrgo packetType data).stream env t).2
        (received dmrgo packetType data).burstType (received dmrgo packetType data).isEnd data := by
  have notShort : ¬ data.length < 30 := by omega
  have read : ∀ {i : Nat}, i ≤ 30 → index data i = .ok (data.getD i 0) := fun inside => index_eq_ok (by omega)
  have readSlice : ∀ {lo hi : Nat}, lo ≤ hi → hi ≤ 30 → checkedSlice data lo hi = .ok (slice data lo hi) :=
    fun order inside => checkedSlice_eq order (by omega)
  rw [Translator.translateToMMDVM, if_neg notShort, supported]
  rw [readSlice (by decide : 1 ≤ 5) (by decide), readSlice (by decide : 13 ≤ 17) (by decide)]
  rw [read (by decide : 6 ≤ 30), read (by decide : 7 ≤ 30), read (by decide : 8 ≤ 30), read (by decide : 9 ≤ 30),
    read (by decide : 10 ≤ 30), read (by decide : 11 ≤ 30), read (by decide : 17 ≤ 30), read (by decide : 30 ≤ 30)]
  simp only [bind, Except.bind, recoverAddressesFromFullLC_eq]
  rfl

theorem translateToMMDVM_unsupported {dmrgo : Dmrgo} {env : ReverseEnv} {t : Translator}
    (unsupported : isSupported packetType = false) :
    t.translateToMMDVM dmrgo env packetType data = .ok (t, []) := by
  simp only [Translator.translateToMMDVM, unsupported]
  split <;> rfl

def dataPacket (t : Translator) (call : Call) (state : ReverseStreamState) (dataType : DataType)
    (dmrData : DMRData) : Packet :=
  { t.packet call state with
    frameType := frameTypeDataSync
    dtypeOrVSeq := dataType.toUInt64
    dmrData }

def ReverseStreamState.position (state : ReverseStreamState) : Int :=
  if state.burstIndex.tmod 6 < 0 then 0 else state.burstIndex.tmod 6

def voicePacket (t : Translator) (call : Call) (state : ReverseStreamState) (dmrData : DMRData) : Packet :=
  { t.packet call state with
    frameType := if state.position = 0 then frameTypeVoiceSync else frameTypeVoice
    dtypeOrVSeq := state.position.toNat.toUInt64
    dmrData }

namespace ReverseStreamState

variable (state : ReverseStreamState)

def afterData : ReverseStreamState := { state with seq := state.seq + 1 }

def afterHeader (call : Call) : ReverseStreamState :=
  { state with
    seq := state.seq + 1
    started := true
    burstIndex := 0
    embeddedFragments := encodeEmbeddedLC call.src call.dst call.groupCall
    hasEmbeddedLC := true }

def afterVoice : ReverseStreamState :=
  { state with seq := state.seq + 1, burstIndex := (state.burstIndex + 1).tmod 6 }

end ReverseStreamState

section

variable {dmrgo : Dmrgo} {t : Translator} {call : Call} {data : Bytes} {rss : Ref}

theorem buildMMDVMDataPacket_eq (state : ReverseStreamState) (dataType : DataType) :
    ∃ dmrData, buildMMDVMDataPacket dmrgo t call state dataType data =
      .ok (dataPacket t call state dataType dmrData, state.afterData) := by
  obtain ⟨lcBytes, read⟩ := @payloadLCBytes_inRange dmrgo call data
  rw [buildMMDVMDataPacket, read]
  exact ⟨_, rfl⟩

theorem buildMMDVMDataPacket_payload (state : ReverseStreamState) (dataType : DataType) (long : 50 ≤ data.length) :
    buildMMDVMDataPacket dmrgo t call state dataType data = .ok (dataPacket t call state dataType
        (buildLCDataBurst (Vector.ofFn fun i => (slice data 38 50).getD i 0) dataType t.colorCode), state.afterData) := by
  have notShort : ¬ data.length < 50 := by omega
  have payload : payloadLCBytes dmrgo call data = .ok (Vector.ofFn fun i => (slice data 38 50).getD i 0) := by
    rw [payloadLCBytes, if_pos long, checkedSlice_eq (by decide) long]
    rfl
  rw [buildMMDVMDataPacket, payload]
  simp only [bind, Except.bind, notShort, false_and, if_false]
  rfl

def receivedFrames (data : Bytes) : Vector (Vector Bool 49) 3 :=
  unpackAMBEVoiceFrames (Vector.ofFn fun i => (slice data 33 52).getD i 0)

theorem populateEmbeddedSignalling_voiceData (burst : Burst) (burstIdx : Int) (state : ReverseStreamState) :
    (populateEmbeddedSignalling t burst burstIdx data state).Ensures fun result =>
      result.voiceData = burst.voiceData := by
  apply ensures_bind
  intro embBytes _
  dsimp only
  split
  · exact ensures_pure rfl
  · split <;> exact ensures_pure rfl

theorem voiceBurstAt_voiceData (voiceData : Vector (Vector Bool 49) 3) (burstIdx : Int) (state : ReverseStreamState) :
    (voiceBurstAt t voiceData burstIdx data state).Ensures fun result => result.voiceData = voiceData := by
  simp only [voiceBurstAt]
  split
  · exact ensures_pure rfl
  · exact populateEmbeddedSignalling_voiceData _ _ state

theorem buildMMDVMVoiceBurst_eq (state : ReverseStreamState) (long : 52 ≤ data.length) :
    ∃ burst, burst.voiceData = receivedFrames data ∧ buildMMDVMVoiceBurst dmrgo t call state data =
        .ok (voicePacket t call state (dmrgo.encodeBurst burst), state.afterVoice) := by
  obtain ⟨result, built⟩ := @buildMMDVMVoiceBurst_inRange dmrgo t call data state long
  have frames := checkedSlice_eq (by decide : 33 ≤ 52) long
  rw [buildMMDVMVoiceBurst, frames] at built ⊢
  simp only [bind, Except.bind] at built ⊢
  cases atPosition : voiceBurstAt t (receivedFrames data) (state.burstIndex.tmod 6) data state with
  | error reason =>
    simp only [receivedFrames] at atPosition
    rw [atPosition] at built
    cases built
  | ok burst =>
    refine ⟨burst, voiceBurstAt_voiceData _ _ state burst atPosition, ?_⟩
    simp only [receivedFrames] at atPosition
    rw [atPosition]
    rfl

inductive Emission (dmrgo : Dmrgo) (t : Translator) (call : Call) (rss : Ref) (data : Bytes) :
    Translator × List Packet → Prop where
  | nothing : Emission dmrgo t call rss data (t, [])
  | header (dmrData : DMRData) (fresh : (t.reverseStreams.deref rss).started = false) :
      Emission dmrgo t call rss data
        (t.put rss ((t.reverseStreams.deref rss).afterHeader call),
          [dataPacket t call (t.reverseStreams.deref rss) dataTypeVoiceLCHeader dmrData])
  | terminator (dmrData : DMRData) :
      Emission dmrgo t call rss data
        ((t.put rss (t.reverseStreams.deref rss).afterData).removeReverseStreamAliases rss,
          [dataPacket t call (t.reverseStreams.deref rss) dataTypeTerminatorWithLC dmrData])
  | voice (burst : Burst) (frames : burst.voiceData = receivedFrames data) :
      Emission dmrgo t call rss data
        (t.put rss (t.reverseStreams.deref rss).afterVoice,
          [voicePacket t call (t.reverseStreams.deref rss) (dmrgo.encodeBurst burst)])
  | data (dataType : DataType) (dmrData : DMRData) (notHeader : dataType ≠ dataTypeVoiceLCHeader)
      (notTerminator : dataType ≠ dataTypeTerminatorWithLC) :
      Emission dmrgo t call rss data
        (t.put rss (t.reverseStreams.deref rss).afterData,
          [dataPacket t call (t.reverseStreams.deref rss) dataType dmrData])

theorem translateBurst_emission (burstType : UInt8) (isEnd : Bool) :
    ∃ result, t.translateBurst dmrgo call rss burstType isEnd data = .ok result ∧
      Emission dmrgo t call rss data result := by
  simp only [Translator.translateBurst]
  split
  · split
    · exact ⟨_, rfl, .nothing⟩
    · rename_i fresh
      obtain ⟨dmrData, built⟩ := buildMMDVMDataPacket_eq (t.reverseStreams.deref rss) dataTypeVoiceLCHeader
      rw [built]
      exact ⟨_, rfl, .header dmrData (Bool.eq_false_iff.mpr fresh)⟩
  split
  · split
    · exact ⟨_, rfl, .nothing⟩
    · obtain ⟨dmrData, built⟩ := buildMMDVMDataPacket_eq (t.reverseStreams.deref rss) dataTypeTerminatorWithLC
      rw [built]
      exact ⟨_, rfl, .terminator dmrData⟩
  split
  · split
    · exact ⟨_, rfl, .nothing⟩
    · rename_i long
      obtain ⟨burst, frames, built⟩ := buildMMDVMVoiceBurst_eq (t.reverseStreams.deref rss) (Nat.le_of_not_lt long)
      rw [built]
      exact ⟨_, rfl, .voice burst frames⟩
  split
  · obtain ⟨dmrData, built⟩ := buildMMDVMDataPacket_eq (t.reverseStreams.deref rss) dataTypeCSBK
    rw [built]
    exact ⟨_, rfl, .data dataTypeCSBK dmrData (by decide) (by decide)⟩
  split
  · rename_i notHeader notTerminator _ _ _
    obtain ⟨dmrData, built⟩ := buildMMDVMDataPacket_eq (t.reverseStreams.deref rss) burstType
    rw [built]
    exact ⟨_, rfl, .data burstType dmrData notHeader notTerminator⟩
  · exact ⟨_, rfl, .nothing⟩

end

section

variable {dmrgo : Dmrgo} {t : Translator} {call : Call} {data : Bytes} {rss : Ref} {burstType : UInt8}

theorem translateBurst_voice {isEnd : Bool} (voice : burstType = ipscBurstSlot1 ∨ burstType = ipscBurstSlot2)
    (long : 52 ≤ data.length) :
    ∃ burst, burst.voiceData = receivedFrames data ∧ t.translateBurst dmrgo call rss burstType isEnd data =
        .ok (t.put rss (t.reverseStreams.deref rss).afterVoice,
          [voicePacket t call (t.reverseStreams.deref rss) (dmrgo.encodeBurst burst)]) := by
  have notHeader : burstType ≠ ipscBurstVoiceHead := by
    obtain rfl | rfl := voice <;> decide
  have notTerminator : burstType ≠ ipscBurstVoiceTerm := by
    obtain rfl | rfl := voice <;> decide
  obtain ⟨burst, frames, built⟩ := @buildMMDVMVoiceBurst_eq dmrgo t call data (t.reverseStreams.deref rss) long
  refine ⟨burst, frames, ?_⟩
  rw [Translator.translateBurst, if_neg notHeader, if_neg notTerminator, if_pos voice, if_neg (Nat.not_lt.mpr long), built]
  rfl

theorem translateBurst_data {isEnd : Bool} (notHeader : burstType ≠ ipscBurstVoiceHead)
    (notTerminator : burstType ≠ ipscBurstVoiceTerm) (notVoice : burstType ≠ ipscBurstSlot1) (known : burstType ≤ 10)
    (long : 50 ≤ data.length) :
    t.translateBurst dmrgo call rss burstType isEnd data = .ok (t.put rss (t.reverseStreams.deref rss).afterData,
        [dataPacket t call (t.reverseStreams.deref rss) burstType
          (buildLCDataBurst (Vector.ofFn fun i => (slice data 38 50).getD i 0) burstType t.colorCode)]) := by
  have notSlot : ¬ (burstType = ipscBurstSlot1 ∨ burstType = ipscBurstSlot2) := by
    intro slot
    obtain first | second := slot
    · exact notVoice first
    · rw [second] at known
      exact absurd known (by decide)
  rw [Translator.translateBurst, if_neg notHeader, if_neg notTerminator, if_neg notSlot]
  split
  · rename_i csbk
    rw [buildMMDVMDataPacket_payload _ _ long, csbk]
    rfl
  · rw [if_pos ⟨long, known⟩, buildMMDVMDataPacket_payload _ _ long]
    rfl

end

def Translator.alias (t : Translator) (callControl : UInt32) (rss : Ref) : Translator :=
  { t with reverseStreams := t.reverseStreams.store callControl rss }

def Received.newState (r : Received) (env : ReverseEnv) (t : Translator) : ReverseStreamState where
  streamID := t.nextNumber
  peerID := r.peerID
  src := r.call.src
  dst := r.call.dst
  slot := r.call.slot
  groupCall := r.call.groupCall
  lastSeen := env.now

def Translator.create (t : Translator) (callControl : UInt32) (state : ReverseStreamState) : Translator :=
  { t with
    nextStreamID := state.streamID
    reverseStreams := (t.reverseStreams.alloc state).store callControl t.reverseStreams.next }

inductive Lookup (r : Received) (env : ReverseEnv) (t : Translator) : Translator × Ref → Prop where
  | known (rss : Ref) (bound : t.reverseStreams.find r.callControl = some rss) : Lookup r env t (t, rss)
  | byTuple (rss : Ref) (other : UInt32) (unbound : t.reverseStreams.find r.callControl = none)
      (present : t.reverseStreams.find other = some rss)
      (src : (t.reverseStreams.deref rss).src = r.call.src) (dst : (t.reverseStreams.deref rss).dst = r.call.dst) :
      Lookup r env t (t.alias r.callControl rss, rss)
  | byPeer (rss : Ref) (other : UInt32) (unbound : t.reverseStreams.find r.callControl = none)
      (present : t.reverseStreams.find other = some rss) (untrusted : r.trusted = false)
      (notHeader : r.burstType ≠ ipscBurstVoiceHead) : Lookup r env t (t.alias r.callControl rss, rss)
  | created (unbound : t.reverseStreams.find r.callControl = none) :
      Lookup r env t (t.create r.callControl (r.newState env t), t.reverseStreams.next)

theorem lookup_stream (r : Received) (env : ReverseEnv) (t : Translator) : Lookup r env t (r.stream env t) := by
  simp only [Received.stream, Translator.reverseStream]
  split
  · rename_i rss bound
    exact .known rss bound
  · rename_i unbound
    split
    · rename_i rss recent
      rcases or_eq_some_iff.mp recent with byTuple | ⟨_, byPeer⟩
      · obtain ⟨⟨other, _⟩, picked, equal⟩ := map_eq_some_iff.mp byTuple
        obtain ⟨present, agrees⟩ := PtrMap.findWhere_some picked
        cases equal
        simp only [Bool.and_eq_true, beq_iff_eq] at agrees
        exact .byTuple _ other unbound present agrees.1.1.1.1 agrees.1.1.1.2
      · split at byPeer
        · rename_i allowed
          simp only [Bool.and_eq_true, Bool.not_eq_true', bne_iff_ne, ne_eq] at allowed
          obtain ⟨⟨other, _⟩, picked, equal⟩ := map_eq_some_iff.mp byPeer
          exact .byPeer rss other unbound (equal ▸ (PtrMap.findWhere_some picked).1) allowed.1 allowed.2
        · cases byPeer
    · exact .created unbound

structure Arrival where
  env : ReverseEnv
  packetType : UInt8
  data : Bytes

def Translator.translateAll (dmrgo : Dmrgo) : Translator → List Arrival → Checked (Translator × List Packet)
  | t, [] => pure (t, [])
  | t, a :: later => do
    let (t, pkts) ← t.translateToMMDVM dmrgo a.env a.packetType a.data
    let (t, rest) ← t.translateAll dmrgo later
    pure (t, pkts ++ rest)

inductive TranslateStep (dmrgo : Dmrgo) (a : Arrival) (t : Translator) : Translator × List Packet → Prop where
  | unsupported (other : isSupported a.packetType = false) : TranslateStep dmrgo a t (t, [])
  | translated {result : Translator × List Packet} (supported : isSupported a.packetType = true)
      (emission : Emission dmrgo ((received dmrgo a.packetType a.data).seen a.env t)
        ((received dmrgo a.packetType a.data).callWithin a.env t)
        ((received dmrgo a.packetType a.data).stream a.env t).2 a.data result) :
      TranslateStep dmrgo a t result

theorem translateToMMDVM_step (dmrgo : Dmrgo) (a : Arrival) (t : Translator) (long : 31 ≤ a.data.length) :
    ∃ result, t.translateToMMDVM dmrgo a.env a.packetType a.data = .ok result ∧ TranslateStep dmrgo a t result := by
  cases supported : isSupported a.packetType with
  | false => exact ⟨_, translateToMMDVM_unsupported supported, .unsupported supported⟩
  | true =>
    rw [translateToMMDVM_eq long supported]
    obtain ⟨result, computed, emission⟩ := @translateBurst_emission dmrgo _ _ a.data _ _ _
    exact ⟨result, computed, .translated supported emission⟩

section

variable {dmrgo : Dmrgo} {t : Translator} {env : ReverseEnv} {call : Call} {data : Bytes} {rss : Ref} {r : Received}
  {result : Translator × List Packet} {found : Translator × Ref}

theorem Emission.carries (emission : Emission dmrgo t call rss data result) : Carries t rss result := by
  cases emission with
  | nothing => exact carries_nothing
  | terminator dmrData => exact .removeReverseStreamAliases (carries_put rfl rfl)
  | _ => exact carries_put rfl rfl

theorem Lookup.streams (lookup : Lookup r env t found) :
    (t.HasStream (found.1.reverseStreams.deref found.2).streamID ∨ t.reverseStreams.find r.callControl = none ∧
          (found.1.reverseStreams.deref found.2).streamID = t.nextNumber) ∧
      ∀ id, found.1.HasStream id → t.HasStream id ∨ id = (found.1.reverseStreams.deref found.2).streamID := by
  cases lookup with
  | known rss bound => exact ⟨.inl ⟨_, rss, bound, rfl⟩, fun _ has => .inl has⟩
  | byTuple rss other unbound present _ _ | byPeer rss other unbound present _ _ =>
    exact ⟨.inl ⟨other, rss, present, by simp [Translator.alias]⟩, fun _ has => .inl (hasStream_store present has)⟩
  | created unbound =>
    refine ⟨.inr ⟨unbound, by simp [Translator.create, Received.newState]⟩, fun id has => ?_⟩
    simpa [Translator.create] using hasStream_create has

theorem translateToMMDVM_short (short : data.length ≤ 30)
    (translated : t.translateToMMDVM dmrgo env packetType data = .ok result) : result = (t, []) := by
  cases supported : isSupported packetType with
  | false => exact (Except.ok.inj (translated.symm.trans (translateToMMDVM_unsupported supported)))
  | true =>
    have notAtLimit : data.length ≠ 30 := fun atLimit => translateToMMDVM_of_30 atLimit supported ⟨result, translated⟩
    rw [Translator.translateToMMDVM, if_pos (by omega)] at translated
    exact (Except.ok.inj translated).symm

theorem translateToMMDVM_numbered (packetType : UInt8) :
    (t.translateToMMDVM dmrgo env packetType data).Ensures (Numbered t data) := by
  intro result computed
  by_cases long : 31 ≤ data.length
  · obtain ⟨_, computed', step⟩ := translateToMMDVM_step dmrgo ⟨env, packetType, data⟩ t long
    cases computed.symm.trans computed'
    cases step with
    | unsupported other => exact numbered_nothing
    | translated supported emission =>
      obtain ⟨stream, before⟩ := (lookup_stream (received dmrgo packetType data) env t).streams
      refine emission.carries.numbered rfl (stream.imp_right fun starts => ⟨?_, starts.2⟩) before
      rw [Translator.knows]
      exact congrArg isSome starts.1
  · rw [translateToMMDVM_short (by omega) computed]
    exact numbered_nothing

end

end Ipsc2Mmdvm.Ipsc
