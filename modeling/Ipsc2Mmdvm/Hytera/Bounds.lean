import Ipsc2Mmdvm.Hytera.Independence
import Ipsc2Mmdvm.Hytera.Server

namespace Ipsc2Mmdvm.Hytera

open Data Proto List

/-! Every read of a datagram lies behind a test of the length, but for one: a payload of no bytes
loses its last byte. -/

section

variable {data : Bytes}

theorem readHasNativeHyteraPrefix_eq (data : Bytes) : readHasNativeHyteraPrefix data = .ok (hasNativeHyteraPrefix data) := by
  simp only [readHasNativeHyteraPrefix, hasNativeHyteraPrefix]
  split
  case isTrue short => simp [pure, Except.pure, short]
  case isFalse long =>
    rw [checkedSlice_eq (Nat.zero_le 4) (by omega)]
    have enough : decide (data.length ≥ 4) = true := decide_eq_true (by omega)
    rw [enough, Bool.true_and]
    rfl

theorem readUint16_eq {i : Nat} (inside : i + 1 < data.length) : readUint16 data i = .ok (uint16At data i) := by
  rw [readUint16, index_eq_ok (by omega), index_eq_ok inside]
  rfl

theorem readHasHyteraDMRHeader_eq (data : Bytes) : readHasHyteraDMRHeader data = .ok (hasHyteraDMRHeader data) := by
  rw [readHasHyteraDMRHeader, readHasNativeHyteraPrefix_eq, hasHyteraDMRHeader]
  cases hasNativeHyteraPrefix data with
  | true => rfl
  | false =>
    by_cases short : data.length < 20
    · have tooShort : decide (data.length ≥ 20) = false := decide_eq_false (by omega)
      rw [tooShort]
      exact if_pos short
    · have enough : decide (data.length ≥ 20) = true := decide_eq_true (by omega)
      have read : readCompactHeader data = .ok (slice data 9 12 == [0x00, 0x05, 0x01] &&
          (data.getD 12 0 == 0x01 || data.getD 12 0 == 0x02) &&
          (uint16At data 16 == 0x1111 || uint16At data 16 == 0x2222)) := by
        rw [readCompactHeader, checkedSlice_eq (by decide) (by omega), index_eq_ok (by omega), readUint16_eq (by omega)]
        rfl
      rw [enough, Bool.true_and]
      exact (if_neg short).trans read

theorem scanFrom_inRange (left i : Nat) (inside : left = 0 ∨ i + left + 2 ≤ data.length) :
    (scanFrom data left i).InRange := by
  induction left generalizing i with
  | zero => exact inRange_pure _
  | succ left ih =>
    rw [scanFrom, index_eq_ok (by omega), index_eq_ok (by omega), index_eq_ok (by omega)]
    simp only [Except.bind, bind]
    split
    · exact inRange_pure _
    · exact ih (i + 1) (by omega)

theorem scan24BitDMRID_inRange : (scan24BitDMRID data).InRange := scanFrom_inRange _ 0 (by omega)

theorem readID24_inRange {low middle high : Nat} (first : low < data.length) (second : middle < data.length)
    (third : high < data.length) : (readID24 data low middle high).InRange := by
  rw [readID24, index_eq_ok first, index_eq_ok second, index_eq_ok third]
  exact inRange_pure _

theorem isShortIdentity_returns : (isShortIdentity data).Returns fun short => short = true → data.length = 14 := by
  simp only [isShortIdentity]
  split
  case isTrue => exact returns_pure nofun
  case isFalse exact =>
    rw [checkedSlice_eq (by decide) (by omega)]
    exact returns_pure fun _ => by omega

theorem isHRNPData_returns : (isHRNPData data).Returns fun hrnp => hrnp = true → 21 ≤ data.length := by
  simp only [isHRNPData]
  split
  case isTrue => exact returns_pure nofun
  case isFalse long =>
    rw [index_eq_ok (by omega), index_eq_ok (by omega)]
    exact returns_pure fun _ => by omega

theorem isNativeIdentity_returns : (isNativeIdentity data).Returns fun native => native = true → 72 ≤ data.length := by
  simp only [isNativeIdentity]
  split
  case isTrue => exact returns_pure nofun
  case isFalse long =>
    rw [readHasHyteraDMRHeader_eq]
    exact returns_pure fun _ => by omega

theorem parseRDACDMRIDDetailed_inRange (data : Bytes) : (parseRDACDMRIDDetailed data).InRange := by
  apply isShortIdentity_returns.bind_inRange
  intro short exact
  split
  case isTrue isShort =>
    have length := exact isShort
    exact readID24_inRange (by omega) (by omega) (by omega)
  case isFalse =>
    apply isHRNPData_returns.bind_inRange
    intro hrnp enough
    split
    case isTrue isHRNP =>
      have length := enough isHRNP
      exact readID24_inRange (by omega) (by omega) (by omega)
    case isFalse =>
      apply isNativeIdentity_returns.bind_inRange
      intro native long
      split
      case isTrue isNative =>
        have length := long isNative
        exact readID24_inRange (by omega) (by omega) (by omega)
      case isFalse =>
        split
        · exact inRange_pure _
        · exact scan24BitDMRID_inRange

theorem decodeHyteraRadioIPDMRID_inRange (data : Bytes) : (decodeHyteraRadioIPDMRID data).InRange := by
  simp only [decodeHyteraRadioIPDMRID]
  split
  case isTrue => exact inRange_pure _
  case isFalse long =>
    rw [index_eq_ok (by omega), index_eq_ok (by omega), index_eq_ok (by omega)]
    exact inRange_pure _

theorem parseRegistration_inRange (long : 21 ≤ data.length) : (parseRegistration data).InRange := by
  have length := @length_slice data 12 data.length le_rfl
  rw [parseRegistration, checkedSlice_eq (by omega) le_rfl]
  generalize slice data 12 data.length = hdap at length
  simp only [bind, Except.bind]
  rw [index_eq_ok (by omega), index_eq_ok (by omega), index_eq_ok (by omega)]
  dsimp only
  split
  · exact inRange_pure _
  rw [index_eq_ok (by omega), index_eq_ok (by omega)]
  dsimp only
  split
  · exact inRange_pure _
  rw [checkedSlice_eq (by decide) (by omega)]
  exact decodeHyteraRadioIPDMRID_inRange _

theorem parseHyteraDMRAppDMRID_inRange (data : Bytes) : (parseHyteraDMRAppDMRID data).InRange := by
  simp only [parseHyteraDMRAppDMRID]
  split
  case isTrue => exact inRange_pure _
  case isFalse long =>
    rw [index_eq_ok (by omega), index_eq_ok (by omega)]
    simp only [bind, Except.bind]
    split
    · exact inRange_pure _
    have shortened : (hrnpData data).InRange := by
      rw [hrnpData, readUint16_eq (by omega)]
      simp only [bind, Except.bind]
      split
      case isTrue within => exact checkedSlice_inRange_iff.mpr ⟨Nat.zero_le _, within.2⟩
      case isFalse => exact inRange_pure _
    obtain ⟨part, read⟩ := shortened
    rw [read]
    dsimp only
    split
    · exact inRange_pure _
    case isFalse stillLong => exact parseRegistration_inRange (by omega)

theorem increment_returns {i : Nat} (inside : i < data.length) :
    (increment data i).Returns fun stored => stored.length = data.length := by
  rw [increment, index_eq_ok inside]
  exact store_returns inside _

theorem isPing_returns : (isPing data).Returns fun ping => ping = true → 15 ≤ data.length := by
  simp only [isPing]
  split
  case isTrue => exact returns_pure nofun
  case isFalse long =>
    rw [checkedSlice_eq (by decide) (by omega)]
    exact returns_pure fun _ => by omega

theorem pingResponse_inRange (long : 15 ≤ data.length) : (pingResponse data).InRange := by
  apply (@store_returns data 12 (by omega) 0xFF).bind_inRange
  intro resp length
  exact (store_returns (by omega) _).inRange

theorem registrationResponse_inRange (long : 21 ≤ data.length) : (registrationResponse data).InRange := by
  apply (@store_returns data 3 (by omega) 0x50).bind_inRange
  intro marked length
  apply (@increment_returns marked 4 (by omega)).bind_inRange
  intro counted length
  apply (@store_returns counted 13 (by omega) 0x01).bind_inRange
  intro first length
  apply (@store_returns first 14 (by omega) 0x01).bind_inRange
  intro second length
  apply (@store_returns second 15 (by omega) 0x5A).bind_inRange
  intro third length
  exact inRange_pure _

theorem startupResponse_returns (long : 21 ≤ data.length) :
    (startupResponse data).Returns fun resp => resp.length = data.length + 1 := by
  apply (@increment_returns data 4 (by omega)).bind
  intro counted length
  apply (@store_returns counted 13 (by omega) 0x01).bind
  intro marked length
  refine returns_pure ?_
  rw [length_append, length_singleton]
  omega

theorem getRedirectPacket_inRange (long : 17 ≤ data.length) (targetPort : UInt16) :
    (getRedirectPacket data targetPort).InRange := by
  have length := @length_slice data 0 (data.length - 1) (by omega)
  rw [getRedirectPacket, if_neg (by omega), checkedSlice_eq (Nat.zero_le _) (by omega)]
  generalize slice data 0 (data.length - 1) = out at length
  apply (@store_returns out 4 (by omega) 0x0B).bind_inRange
  intro first kept
  apply (@store_returns first 12 (by omega) 0xFF).bind_inRange
  intro second kept
  apply (@store_returns second 13 (by omega) 0xFF).bind_inRange
  intro third kept
  apply (@store_returns third 14 (by omega) 0x01).bind_inRange
  intro fourth kept
  apply (@store_returns fourth 15 (by omega) 0x00).bind_inRange
  intro fifth kept
  exact inRange_pure _

variable (cfg : HyteraConfig) (clock : Nat → Time) (s : Server) (addr : UDPAddr)

theorem handleStartup_inRange (rdac : Bool) (long : 21 ≤ data.length) : (handleStartup cfg clock s data addr rdac).InRange := by
  apply (startupResponse_returns long).bind_inRange
  intro resp length
  apply Checked.InRange.bind (getRedirectPacket_inRange (by omega) _)
  intro redirect
  exact inRange_pure _

theorem handleP2PCommand_inRange (long : 21 ≤ data.length) : (handleP2PCommand cfg clock s data addr).InRange := by
  rw [handleP2PCommand, index_eq_ok (by omega)]
  simp only [bind, Except.bind]
  split
  · exact (registrationResponse_inRange long).bind fun _ => inRange_pure _
  split
  · exact handleStartup_inRange cfg clock s addr false long
  split
  · exact handleStartup_inRange cfg clock s addr true long
  · exact inRange_pure _

theorem handleP2P_inRange (data : Bytes) : (handleP2P cfg clock s data addr).InRange := by
  apply isPing_returns.bind_inRange
  intro ping long
  split
  case isTrue isPing => exact (pingResponse_inRange (long isPing)).bind fun _ => inRange_pure _
  case isFalse =>
    split
    case isTrue => exact inRange_pure _
    case isFalse long =>
      rw [checkedSlice_eq (by decide) (by omega)]
      simp only [bind, Except.bind]
      split
      · exact handleP2PCommand_inRange cfg clock _ addr (by omega)
      · exact inRange_pure _

def Decoded.checked : Decoded Inbound → Checked (Except DecodeError Inbound)
  | .ok inbound => .ok (.ok inbound)
  | .error reason => .ok (.error reason)
  | .panic => .error (.index 0 0)

theorem readSwapDMRPayload_eq (data : Bytes) : readSwapDMRPayload data = match swapDMRPayload data with
      | some payload => .ok payload
      | none => .error (.index 0 0) := by
  rw [readSwapDMRPayload, swapDMRPayload]
  split
  case isTrue => rfl
  case isFalse =>
    by_cases empty : data = []
    · rw [if_pos empty, empty]
      rfl
    · have length := length_swapPairs data
      have nonempty : swapPairs data ≠ [] := by
        intro swapped
        rw [swapped] at length
        exact empty (eq_nil_of_length_eq_zero length.symm)
      rw [if_neg empty, cutLast, if_neg nonempty, checkedSlice_eq (Nat.zero_le _) (by omega), slice, drop_zero,
        dropLast_eq_take]

theorem readPayload_eq (data : Bytes) (slotType : SlotType) (kind : UInt64 × UInt64) :
    readPayload data slotType kind = (parsePayload data slotType kind).checked := by
  simp only [readPayload, parsePayload]
  split
  case isTrue => rfl
  case isFalse long =>
    rw [index_eq_ok (by omega), index_eq_ok (by omega), checkedSlice_eq (by omega) (by omega),
      checkedSlice_eq (by omega) (by omega), checkedSlice_eq (by omega) (by omega)]
    simp only [bind, Except.bind, readSwapDMRPayload_eq]
    cases swapDMRPayload (slice data 26 (data.length - 12)) with
    | none => rfl
    | some payload =>
      simp only
      split
      case isTrue => rfl
      case isFalse =>
        rw [readHasNativeHyteraPrefix_eq, index_eq_ok (by omega)]
        rfl

theorem readInbound_eq (data : Bytes) : readInbound data = (parseInbound data).checked := by
  simp only [readInbound, parseInbound]
  split
  case isTrue => rfl
  case isFalse long =>
    rw [readHasHyteraDMRHeader_eq]
    simp only [bind, Except.bind]
    split
    case isTrue => rfl
    case isFalse =>
      rw [readUint16_eq (by omega)]
      dsimp only
      cases SlotType.ofUint16 (uint16At data 18) with
      | none => rfl
      | some slotType =>
        dsimp only
        cases decodeSlotType slotType with
        | none => rfl
        | some kind => exact readPayload_eq data slotType kind

def WithoutPayload (data : Bytes) : Prop :=
  data.length = 38 ∧ hasHyteraDMRHeader data = true ∧
    ∃ slotType kind, SlotType.ofUint16 (uint16At data 18) = some slotType ∧ decodeSlotType slotType = some kind

theorem parseInbound_eq_panic_iff (data : Bytes) : parseInbound data = .panic ↔ WithoutPayload data := by
  constructor
  · intro panicked
    obtain ⟨header, length⟩ := parseInbound_panic panicked
    refine ⟨length, header, ?_⟩
    rw [parseInbound, if_neg (by omega), header] at panicked
    cases slotType : SlotType.ofUint16 (uint16At data 18) with
    | none => simp [slotType] at panicked
    | some value =>
      cases kind : decodeSlotType value with
      | none => simp [slotType, kind] at panicked
      | some kinds => exact ⟨value, kinds, rfl, kind⟩
  · intro cut
    obtain ⟨length, header, slotType, kind, value, known⟩ := cut
    have empty : slice data 26 26 = [] := by rw [slice, drop_take, Nat.sub_self, take_zero]
    rw [parseInbound, if_neg (by omega), header]
    simp only [Bool.not_true, Bool.false_eq_true, if_false, value, known, parsePayload, length, empty]
    rfl

theorem decodeToMMDVM_inRange_iff (now : Time) (data : Bytes) :
    (s.decodeToMMDVM cfg data now).InRange ↔ ¬WithoutPayload data := by
  rw [Server.decodeToMMDVM, readInbound_eq, ← parseInbound_eq_panic_iff]
  cases parseInbound data with
  | ok | error => exact iff_of_true (inRange_pure _) nofun
  | panic => exact iff_of_false (not_inRange_error _) (not_not_intro rfl)

def overwrite (data : Bytes) (start : Nat) (bytes : Bytes) : Checked Bytes := do
  let _ ← checkedSlice data start (start + bytes.length)
  pure (writeAt data start bytes)

def writeTemplate (template : Bytes) (slotType : SlotType) (pkt : Packet) : Checked (Option Bytes) :=
  let tailStart := template.length - 12
  if tailStart < 26 then pure none
  else some <$> (templateWrites tailStart slotType pkt).foldlM (fun template write => overwrite template write.1 write.2) template

def writeStartupPacket (colorCode : Option UInt8) (templates : Templates) (slotType : SlotType) (pkt : Packet) :
    Checked (Option Bytes) :=
  match startupTemplate templates pkt.slot slotType with
  | none => pure (buildFixedStartupPacket slotType pkt (cfgColorCode colorCode))
  | some template => writeTemplate template slotType pkt

theorem length_writeAt {start : Nat} {bytes : Bytes} (inside : start + bytes.length ≤ data.length) :
    (writeAt data start bytes).length = data.length := by
  simp only [writeAt, length_append, length_take, length_drop]
  omega

theorem overwrite_eq {start : Nat} {bytes : Bytes} (inside : start + bytes.length ≤ data.length) :
    overwrite data start bytes = .ok (writeAt data start bytes) := by
  rw [overwrite, checkedSlice_eq (by omega) inside]
  rfl

theorem foldlM_overwrite (writes : List (Nat × Bytes)) (inside : ∀ write ∈ writes, write.1 + write.2.length ≤ data.length) :
    writes.foldlM (fun data write => overwrite data write.1 write.2) data =
      .ok (writes.foldl (fun data write => writeAt data write.1 write.2) data) := by
  induction writes generalizing data with
  | nil => rfl
  | cons write writes ih =>
    have here := inside write mem_cons_self
    rw [foldlM_cons, overwrite_eq here]
    apply ih
    intro later member
    rw [length_writeAt here]
    exact inside later (mem_cons_of_mem _ member)

theorem writeTemplate_eq (template : Bytes) (slotType : SlotType) (pkt : Packet) :
    writeTemplate template slotType pkt = .ok (fillTemplate template slotType pkt) := by
  simp only [writeTemplate, fillTemplate]
  split
  case isTrue => rfl
  case isFalse long =>
    rw [foldlM_overwrite]
    · rfl
    · simp only [templateWrites, putUint16, encodeID24LE, forall_mem_cons, length_cons, length_nil]
      exact ⟨by omega, by omega, by omega, by omega, by omega, by omega, nofun⟩

theorem writeStartupPacket_eq (colorCode : Option UInt8) (templates : Templates) (slotType : SlotType) (pkt : Packet) :
    writeStartupPacket colorCode templates slotType pkt = .ok (buildStartupPacket colorCode templates slotType pkt) := by
  rw [writeStartupPacket, buildStartupPacket]
  cases startupTemplate templates pkt.slot slotType with
  | none => rfl
  | some template => exact writeTemplate_eq template slotType pkt

/-- No read or write is out of range, in any state of the server, for any datagram on any of the
three ports and with any templates, unless the datagram lacks its payload. -/
theorem hytera_datagram_in_range_iff (colorCode : Option UInt8) (templates : Templates) :
    ((handleP2P cfg clock s data addr).InRange ∧ (s.decodeToMMDVM cfg data (clock 0)).InRange ∧
        (parseHyteraDMRAppDMRID data).InRange ∧ (parseRDACDMRIDDetailed data).InRange ∧
        ∀ slotType pkt, (writeStartupPacket colorCode templates slotType pkt).InRange) ↔
      ¬WithoutPayload data := by
  constructor
  · intro inRange
    exact (decodeToMMDVM_inRange_iff cfg s (clock 0) data).mp inRange.2.1
  · intro complete
    refine ⟨handleP2P_inRange cfg clock s addr data, (decodeToMMDVM_inRange_iff cfg s (clock 0) data).mpr complete,
      parseHyteraDMRAppDMRID_inRange data, parseRDACDMRIDDetailed_inRange data, ?_⟩
    intro slotType pkt
    exact ⟨_, writeStartupPacket_eq colorCode templates slotType pkt⟩

end

/-- A Voice LC header with the native prefix, 38 bytes long: 26 bytes of header and 12 of tail. -/
theorem datagram_of_38_bytes_panics : ({} : Server).decodeToMMDVM ⟨50000, 50001, 50002, 9000000⟩
      (List.replicate 4 0x5A ++ List.replicate 14 0x00 ++ [0x11, 0x11] ++ List.replicate 18 0x00) 1000 = .error (.index 0 0) := by
  rfl

end Ipsc2Mmdvm.Hytera
