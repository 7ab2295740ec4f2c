import Ipsc2Mmdvm.Dmr.BptcErrors
import Ipsc2Mmdvm.Ipsc.Discipline
import Ipsc2Mmdvm.Ipsc.Wire

namespace Ipsc2Mmdvm.Ipsc

open Data Dmr Proto

/-! Data packets through both directions. -/

def DataSurvives (lib : BurstLibrary) (forwardEnv : ForwardEnv) (env : ReverseEnv) (t : Forward) (fresh : Translator)
    (pkt : Packet) (dataType : DataType) (payload : Vector UInt8 12) : Prop :=
  ∃ next data, t.translateToIPSC lib forwardEnv pkt = (next, [data]) ∧ slice data 38 50 = payload.toList ∧
    ∃ after out, fresh.translateToMMDVM lib.toDmrgo env (data.getD 0 0) data = .ok (after, [out]) ∧
      out.frameType = frameTypeDataSync ∧ out.dtypeOrVSeq = dataType.toUInt64 ∧
      decodeLCFromBurst out.dmrData = some payload

section

variable {lib : BurstLibrary} {env : ReverseEnv} {t : Translator} {source : Forward} {pkt : Packet}
  {state : StreamState} {rtp : Bytes} {dataType : DataType}

theorem forwarded_bounds (forwarded : isForwardedData dataType.toUInt64 = true) :
    dataType ≠ ipscBurstVoiceHead ∧ dataType ≠ ipscBurstVoiceTerm ∧ dataType ≤ 10 := by
  simp only [isForwardedData, Bool.or_eq_true, beq_iff_eq, UInt8.toUInt64_inj] at forwarded
  obtain ((((((rfl | rfl) | rfl) | rfl) | rfl) | rfl) | rfl) | rfl := forwarded <;> decide

variable {fresh : Translator} {lc : Vector UInt8 12}

theorem read_lcPayload (rtpLength : rtp.length = 12) (dataType : DataType) (lc : Vector UInt8 12) :
    let data := buildIPSCHeader source pkt state false true ++ rtp ++ lcPayload dataType 0xC0 pkt.slot lc
    data.length = 54 ∧ (received lib.toDmrgo (packetTypeOf pkt true) data).burstType = dataType ∧
      slice data 38 50 = lc.toList := by
  refine ⟨?_, burstType_built rtpLength, (slice_built rtpLength 8 20).trans (slice_lcPayload ..)⟩
  rw [length_built rtpLength, length_lcPayload]

theorem translateToMMDVM_lcPayload (rtpLength : rtp.length = 12) (notHeader : dataType ≠ ipscBurstVoiceHead)
    (notTerminator : dataType ≠ ipscBurstVoiceTerm) (notVoice : dataType ≠ ipscBurstSlot1) (known : dataType ≤ 10) :
    ∃ after out, fresh.translateToMMDVM lib.toDmrgo env (packetTypeOf pkt true)
        (buildIPSCHeader source pkt state false true ++ rtp ++ lcPayload dataType 0xC0 pkt.slot lc) =
      .ok (after, [out]) ∧ out.frameType = frameTypeDataSync ∧ out.dtypeOrVSeq = dataType.toUInt64 ∧
        decodeLCFromBurst out.dmrData = some lc := by
  obtain ⟨length, burstType, carried⟩ := @read_lcPayload lib source pkt state rtp rtpLength dataType lc
  rw [translateToMMDVM_eq (by omega) isSupported_packetTypeOf, burstType,
    translateBurst_data notHeader notTerminator notVoice known (by omega), carried, ofFn_getD_toList]
  exact ⟨_, _, rfl, rfl, rfl, decodeLCFromBurst_buildLCDataBurst lc dataType _⟩

theorem translateToMMDVM_rate1 (rtpLength : rtp.length = 12) :
    ∃ after out, fresh.translateToMMDVM lib.toDmrgo env (packetTypeOf pkt true)
        (buildIPSCHeader source pkt state false true ++ rtp ++ lcPayload dataTypeRate1 0xC0 pkt.slot lc) =
      .ok (after, [out]) ∧ isVoice out = true := by
  obtain ⟨length, burstType, _⟩ := @read_lcPayload lib source pkt state rtp rtpLength dataTypeRate1 lc
  have long : 52 ≤ (buildIPSCHeader source pkt state false true ++ rtp ++
      lcPayload dataTypeRate1 0xC0 pkt.slot lc).length := by omega
  rw [translateToMMDVM_eq (by omega) isSupported_packetTypeOf, burstType]
  obtain ⟨burst, _, built⟩ := @translateBurst_voice lib.toDmrgo _ _ _ _ dataTypeRate1 _ (.inl rfl) long
  rw [built]
  exact ⟨_, _, rfl, voicePacket_isVoice⟩

end

theorem isVoice_ne_dataSync {p : Packet} (voice : isVoice p = true) : p.frameType ≠ frameTypeDataSync := by
  intro sync
  simp only [isVoice, sync] at voice
  exact absurd voice (by decide)

theorem dataSurvives_iff {lib : BurstLibrary} {forwardEnv : ForwardEnv} {env : ReverseEnv} {t : Forward}
    {fresh : Translator} {pkt : Packet} {dataType : DataType} {payload : Vector UInt8 12}
    (small : pkt.streamID ≤ 0xFFFFFFFF) (sync : pkt.frameType = frameTypeDataSync)
    (typed : pkt.dtypeOrVSeq = dataType.toUInt64) (forwarded : isForwardedData dataType.toUInt64 = true) :
    DataSurvives lib forwardEnv env t fresh pkt dataType payload ↔
      payload = buildStandardLCBytes lib.toDmrgo pkt.src pkt.dst pkt.groupCall ∧ dataType ≠ dataTypeRate1 := by
  obtain ⟨notHeader, notTerminator, known⟩ := forwarded_bounds forwarded
  obtain ⟨next, source, state, rtp, rtpLength, sent⟩ :=
    @translateToIPSC_data lib forwardEnv t pkt (UInt64.not_lt.mpr small) sync (typed ▸ forwarded)
  have byte : pkt.dtypeOrVSeq.toUInt8 = dataType := by simp [typed]
  rw [byte] at sent
  obtain ⟨_, _, carried⟩ := @read_lcPayload lib source pkt state rtp rtpLength dataType (extractFullLCBytes lib pkt)
  constructor
  · intro survives
    obtain ⟨next', data, sent', holds, after, out, returned, isSync, _, _⟩ := survives
    rw [sent] at sent'
    obtain ⟨rfl, same⟩ := Prod.mk.inj sent'
    obtain rfl := List.singleton_inj.mp same
    refine ⟨Vector.toList_inj.mp (holds.symm.trans carried), ?_⟩
    intro rate1
    subst rate1
    obtain ⟨after', out', returned', voice⟩ := @translateToMMDVM_rate1 lib env source pkt state rtp fresh
      (extractFullLCBytes lib pkt) rtpLength
    have equal := returned.symm.trans returned'
    simp only [Except.ok.injEq, Prod.mk.injEq, List.cons.injEq, and_true] at equal
    rw [equal.2] at isSync
    exact isVoice_ne_dataSync voice isSync
  · intro meets
    obtain ⟨rfl, notRate1⟩ := meets
    obtain ⟨after, out, returned, isSync, isTyped, decoded⟩ := @translateToMMDVM_lcPayload lib env source pkt state rtp
      dataType fresh (extractFullLCBytes lib pkt) rtpLength notHeader notTerminator notRate1 known
    exact ⟨next, _, sent, carried, after, out, returned, isSync, isTyped, decoded⟩

def dataBurstPacket (pkt : Packet) (dataType : DataType) (payload : Vector UInt8 12) (colorCode : UInt8) : Packet :=
  { pkt with
    frameType := frameTypeDataSync
    dtypeOrVSeq := dataType.toUInt64
    dmrData := buildLCDataBurst payload dataType colorCode }

theorem data_survives_iff (lib : BurstLibrary) (forwardEnv : ForwardEnv) (env : ReverseEnv) (t : Forward)
    (fresh : Translator) (pkt : Packet) (small : pkt.streamID ≤ 0xFFFFFFFF) (dataType : DataType)
    (forwarded : isForwardedData dataType.toUInt64 = true) (payload : Vector UInt8 12) (colorCode : UInt8) :
    DataSurvives lib forwardEnv env t fresh (dataBurstPacket pkt dataType payload colorCode) dataType payload ↔
      payload = buildStandardLCBytes lib.toDmrgo pkt.src pkt.dst pkt.groupCall ∧ dataType ≠ dataTypeRate1 :=
  dataSurvives_iff small rfl rfl forwarded

def anyForwardEnv : ForwardEnv where
  now := 1000
  seen := 1000
  order := .ranked UInt32.toNat fun _ _ => UInt32.toNat.inj

def groupData : Packet := { src := 5, dst := 9, groupCall := true, streamID := 1 }

theorem data_survives_standardLC :
    DataSurvives plainLibrary anyForwardEnv (atTime 1000) (newForward 1) (configured 1 1)
      (dataBurstPacket groupData dataTypeCSBK #v[0, 0, 32, 0, 0, 9, 0, 0, 5, 0, 0, 0] 1) dataTypeCSBK
      #v[0, 0, 32, 0, 0, 9, 0, 0, 5, 0, 0, 0] :=
  (data_survives_iff plainLibrary anyForwardEnv (atTime 1000) (newForward 1) (configured 1 1) groupData (by decide)
    dataTypeCSBK rfl _ 1).mpr (by decide)

/-- Any other payload is lost, and a rate 1 packet comes back as voice. -/
theorem data_lost : ¬ DataSurvives plainLibrary anyForwardEnv (atTime 1000) (newForward 1) (configured 1 1)
        (dataBurstPacket groupData dataTypeRate12 (Vector.replicate 12 0xFF) 1) dataTypeRate12
        (Vector.replicate 12 0xFF) ∧
      ¬ DataSurvives plainLibrary anyForwardEnv (atTime 1000) (newForward 1) (configured 1 1)
        (dataBurstPacket groupData dataTypeRate1 #v[0, 0, 32, 0, 0, 9, 0, 0, 5, 0, 0, 0] 1) dataTypeRate1
        #v[0, 0, 32, 0, 0, 9, 0, 0, 5, 0, 0, 0] := by
  constructor
  · rw [dataSurvives_iff (by decide) rfl rfl rfl]
    decide
  · rw [dataSurvives_iff (by decide) rfl rfl rfl]
    decide

end Ipsc2Mmdvm.Ipsc
