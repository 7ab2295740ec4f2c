import Ipsc2Mmdvm.Ipsc.Translator

namespace Ipsc2Mmdvm.Ipsc

open Data Dmr Proto

/-! Each function that reads a received packet beyond the header tests the length first. -/

section

variable {dmrgo : Dmrgo} {t : Translator} {call : Call} {data : Bytes}

theorem recoverAddressesFromFullLC_inRange (burstType : UInt8) :
    (recoverAddressesFromFullLC dmrgo data burstType).InRange := by
  simp only [recoverAddressesFromFullLC]
  split
  · exact inRange_pure _
  · rename_i long
    split
    · exact inRange_pure _
    · exact (checkedSlice_inRange_iff.mpr ⟨by decide, by omega⟩).bind fun _ => inRange_pure _

theorem payloadLCBytes_inRange : (payloadLCBytes dmrgo call data).InRange := by
  simp only [payloadLCBytes]
  split
  · rename_i long
    exact (checkedSlice_inRange_iff.mpr ⟨by decide, long⟩).bind fun _ => inRange_pure _
  · exact inRange_pure _

theorem buildMMDVMDataPacket_inRange (rss : ReverseStreamState) (dataType : DataType) :
    (buildMMDVMDataPacket dmrgo t call rss dataType data).InRange :=
  payloadLCBytes_inRange.bind fun _ => inRange_pure _

theorem embeddedBytes_inRange : (embeddedBytes data).InRange := by
  simp only [embeddedBytes]
  split
  · exact checkedSlice_inRange_iff.mpr ⟨by decide, by omega⟩
  · split
    · exact checkedSlice_inRange_iff.mpr ⟨by decide, by omega⟩
    · exact inRange_pure _

theorem populateEmbeddedSignalling_inRange (burst : Burst) (burstIdx : Int) (rss : ReverseStreamState) :
    (populateEmbeddedSignalling t burst burstIdx data rss).InRange := by
  apply Checked.InRange.bind embeddedBytes_inRange
  intro embBytes
  simp only
  split
  · exact inRange_pure _
  · split <;> exact inRange_pure _

theorem buildMMDVMVoiceBurst_inRange (rss : ReverseStreamState) (long : 52 ≤ data.length) :
    (buildMMDVMVoiceBurst dmrgo t call rss data).InRange := by
  apply (checkedSlice_inRange_iff.mpr ⟨by decide, long⟩).bind
  intro ambe
  refine Checked.InRange.bind ?_ fun burst => inRange_pure _
  simp only [voiceBurstAt]
  split
  · exact inRange_pure _
  · exact populateEmbeddedSignalling_inRange _ _ rss

theorem translateBurst_inRange (rss : Ref) (burstType : UInt8) (isEnd : Bool) :
    (t.translateBurst dmrgo call rss burstType isEnd data).InRange := by
  have dataPacket (state : ReverseStreamState) (dataType : DataType)
      (rest : Packet × ReverseStreamState → Checked (Translator × List Packet))
      (ends : ∀ answer, (rest answer).InRange) :
      Checked.InRange (buildMMDVMDataPacket dmrgo t call state dataType data >>= rest) :=
    (buildMMDVMDataPacket_inRange state dataType).bind ends
  simp only [Translator.translateBurst]
  split
  · split
    · exact inRange_pure _
    · exact dataPacket _ _ _ fun _ => inRange_pure _
  split
  · split
    · exact inRange_pure _
    · exact dataPacket _ _ _ fun _ => inRange_pure _
  split
  · split
    · exact inRange_pure _
    · rename_i long
      exact (buildMMDVMVoiceBurst_inRange _ (by omega)).bind fun _ => inRange_pure _
  split
  · exact dataPacket _ _ _ fun _ => inRange_pure _
  split
  · exact dataPacket _ _ _ fun _ => inRange_pure _
  · exact inRange_pure _

end

theorem translateToMMDVM_of_30 {dmrgo : Dmrgo} {env : ReverseEnv} {t : Translator} {packetType : UInt8} {data : Bytes}
    (atLimit : data.length = 30) (supported : isSupported packetType = true) :
    ¬ (t.translateToMMDVM dmrgo env packetType data).InRange := by
  have notShort : ¬ data.length < 30 := by omega
  have notOther : ¬ ((!isSupported packetType) = true) := by simp [supported]
  rw [Translator.translateToMMDVM, if_neg notShort, if_neg notOther]
  -- The reads before byte 30 do not matter.
  iterate 8 refine Checked.not_inRange_bind fun _ => ?_
  apply Checked.not_inRange_bind_left
  rw [index_inRange_iff]
  omega

/-- For every state of the translator, clock, map order, packet type and byte
string, and whatever the DMR library computes: no read is out of range, unless
the packet is of a supported type and exactly 30 bytes long. -/
theorem translateToMMDVM_inRange_iff (dmrgo : Dmrgo) (env : ReverseEnv) (t : Translator)
    (packetType : UInt8) (data : Bytes) :
    (t.translateToMMDVM dmrgo env packetType data).InRange ↔
      ¬ (data.length = 30 ∧ isSupported packetType = true) := by
  by_cases atLimit : data.length = 30 ∧ isSupported packetType = true
  · exact iff_of_false (translateToMMDVM_of_30 atLimit.1 atLimit.2) (not_not_intro atLimit)
  refine iff_of_true ?_ atLimit
  simp only [Translator.translateToMMDVM]
  split
  · exact inRange_pure _
  split
  · exact inRange_pure _
  · rename_i long supported
    have isOfType : isSupported packetType = true := by simpa using supported
    have longer : data.length ≠ 30 := fun length => atLimit ⟨length, isOfType⟩
    have read {i : Nat} (inside : i ≤ 30) : (index data i).InRange := index_inRange_iff.mpr (by omega)
    have readSlice {lo hi : Nat} (order : lo ≤ hi) (inside : hi ≤ 30) : (checkedSlice data lo hi).InRange :=
      checkedSlice_inRange_iff.mpr ⟨order, by omega⟩
    apply (readSlice (by decide) (by decide)).bind
    intro _
    iterate 8 refine (read (by decide)).bind fun _ => ?_
    apply (recoverAddressesFromFullLC_inRange _).bind
    intro _
    apply (readSlice (by decide) (by decide)).bind
    intro _
    exact translateBurst_inRange _ _ _

/-- A group voice packet of 30 bytes: the test lets it pass, and the burst type
is read behind its end. -/
theorem packet_of_30_bytes_panics :
    let dmrgo : Dmrgo :=
      { decodeFromBits := fun _ _ => none, encodeFullLC := fun _ => none,
        encodeBurst := fun _ => Vector.replicate 33 0 }
    let order : Enumeration UInt32 := .ranked UInt32.toNat fun _ _ => UInt32.toNat.inj
    let env : ReverseEnv := { now := 1000, byTuple := order, byPeer := order }
    newIPSCTranslator.translateToMMDVM dmrgo env 0x80 (0x80 :: List.replicate 29 0) =
      .error (.index 30 30) := by
  rfl

end Ipsc2Mmdvm.Ipsc
