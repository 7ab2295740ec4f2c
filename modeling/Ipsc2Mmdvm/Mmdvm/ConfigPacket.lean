import Ipsc2Mmdvm.Data.Fields
import Ipsc2Mmdvm.Mmdvm.Client
import Ipsc2Mmdvm.Mmdvm.Server
import Ipsc2Mmdvm.Web.Upstream

namespace Ipsc2Mmdvm.Mmdvm

open Data Proto List Nat

/-! The client writes sixteen fields one after the other, each at least as wide as it should be; the
server reads them at fixed offsets. -/

section

variable (cfg : ClientConfig)

def rptcFields : List Bytes :=
  [ascii "RPTC", putUint32 cfg.id, padRight 8 cfg.callsign, padZeros 9 cfg.rxFreq.toNat, padZeros 9 cfg.txFreq.toNat,
    padZeros 2 cfg.txPower.toNat, padZeros 2 cfg.colorCode.toNat, cfg.latitude, cfg.longitude, padZeros 3 cfg.height.toNat,
    padRight 20 cfg.location, padRight 19 cfg.description, padZeros 1 (if cfg.slots = 0 then 3 else cfg.slots).toNat,
    padRight 124 cfg.url, padRight 40 "20210921", padRight 40 "MMDVM_MMDVM_HS_Dual_Hat"]

def rptcWidths : List Nat := [4, 4, 8, 9, 9, 2, 2, 8, 9, 3, 20, 19, 1, 124, 40, 40]

theorem sendRPTC_eq_flatten : sendRPTC cfg = .send (rptcFields cfg).flatten := by
  simp only [sendRPTC, rptcFields, utf8_toString_eq, flatten_cons, flatten_nil, append_nil, append_assoc]

end

structure TextFits (width : Nat) (text : String) : Prop where
  isAscii : IsAscii text
  short : text.length ≤ width
  trimmed : EdgesAvoid isBlank (utf8 text)

theorem trimASCII_padRight_iff {width : Nat} {text : String} (isAscii : IsAscii text)
    (plain : EdgesAvoid (· == 0) (utf8 text)) :
    trimASCII (padRight width text) = utf8 text ↔ EdgesAvoid isBlank (utf8 text) := by
  have avoids : EdgesAvoid (· == 0) (padRight width text) := by
    apply plain.append (edgesAvoid_of_forall _)
    intro b member
    rw [eq_of_mem_replicate member]
    rfl
  have kept : trimZeros (padRight width text) = padRight width text := by
    have kept := (@trim_padded_iff (· == 0) _ [] (by simp)).mpr avoids
    rwa [append_nil] at kept
  have small : ∀ b ∈ padRight width text, b < 0x80 := by
    intro b member
    rw [padRight, mem_append] at member
    rcases member with letter | space
    · exact utf8_lt_of_isAscii isAscii b letter
    · rw [eq_of_mem_replicate space]
      decide
  rw [trimASCII, kept, trimSpace_eq small, padRight]
  apply trim_padded_iff
  intro b member
  rw [eq_of_mem_replicate member]
  rfl

theorem parseUintField_concat (data : Bytes) {d : Nat} (digit : d < 10) :
    parseUintField (data ++ [(digitChar d).toNat.toUInt8]) = parseUintField data * 10 + UInt64.ofNat d := by
  have inside : ∀ d : Fin 10, ¬((digitChar d).toNat.toUInt8 < 0x30 || (digitChar d).toNat.toUInt8 > 0x39) = true ∧
      ((digitChar d).toNat.toUInt8 - 0x30).toUInt64 = UInt64.ofNat d := by decide
  obtain ⟨shown, value⟩ := inside ⟨d, digit⟩
  rw [parseUintField, foldl_append, foldl_cons, foldl_nil, if_neg shown, value]
  rfl

theorem parseUintField_decimal (width n : Nat) :
    parseUintField ((decimal width n).map fun c => c.toNat.toUInt8) = UInt64.ofNat (n % 10 ^ width) := by
  induction width generalizing n with
  | zero =>
    rw [pow_zero, mod_one]
    rfl
  | succ width ih =>
    have last := mod_lt n (show 0 < 10 by decide)
    rw [decimal_concat, map_append, map_singleton, parseUintField_concat _ last, ih, pow_succ',
      mod_mul, add_comm, mul_comm, UInt64.ofNat_add, UInt64.ofNat_mul]
    rfl

theorem parseUintField_padZeros {width n : Nat} (small : n < 10 ^ (width + 1)) :
    parseUintField (padZeros (width + 1) n) = UInt64.ofNat n := by
  rw [padZeros_eq small, parseUintField_decimal, mod_eq_of_lt small]

structure NumbersFit (cfg : ClientConfig) : Prop where
  rxFreq : cfg.rxFreq.toNat < 10 ^ 9
  txFreq : cfg.txFreq.toNat < 10 ^ 9
  txPower : cfg.txPower.toNat < 10 ^ 2
  colorCode : cfg.colorCode.toNat < 10 ^ 2
  height : cfg.height.toNat < 10 ^ 3
  slots : (if cfg.slots = 0 then 3 else cfg.slots).toNat < 10 ^ 1

section

variable {cfg : ClientConfig} (eight : cfg.latitude.length = 8) (nine : cfg.longitude.length = 9)
include eight nine

theorem length_rptcFields_iff : (rptcFields cfg).flatten.length = 302 ↔ (rptcFields cfg).map length = rptcWidths := by
  have each : List.Forall₂ (· ≤ ·) rptcWidths ((rptcFields cfg).map length) := by
    simp only [rptcFields, rptcWidths, map_cons, map_nil, forall₂_cons, List.Forall₂.nil, width_le_padRight,
      width_le_padZeros, eight, nine, le_refl, and_true]
    exact ⟨le_refl 4, le_refl 4⟩
  rw [length_flatten]
  constructor
  · intro whole
    exact lengths_eq_of_sum_eq each whole
  · intro widths
    rw [widths]
    rfl

theorem rptcWidths_iff : (rptcFields cfg).map length = rptcWidths ↔
      NumbersFit cfg ∧ (IsAscii cfg.callsign ∧ cfg.callsign.length ≤ 8) ∧ (IsAscii cfg.location ∧ cfg.location.length ≤ 20) ∧
        (IsAscii cfg.description ∧ cfg.description.length ≤ 19) ∧ IsAscii cfg.url ∧ cfg.url.length ≤ 124 := by
  have software : (padRight 40 "20210921").length = 40 := rfl
  have package : (padRight 40 "MMDVM_MMDVM_HS_Dual_Hat").length = 40 := rfl
  have magic : (ascii "RPTC").length = 4 := rfl
  have id : (putUint32 cfg.id).length = 4 := rfl
  simp only [rptcFields, rptcWidths, map_cons, map_nil, cons.injEq, software, package, magic, id, eight, nine,
    length_padRight_eq_iff, length_padZeros_eq_iff, true_and, and_true]
  constructor
  · intro ⟨callsign, rxFreq, txFreq, txPower, colorCode, height, location, description, slots, url⟩
    exact ⟨⟨rxFreq, txFreq, txPower, colorCode, height, slots⟩, callsign, location, description, url⟩
  · intro ⟨numbers, callsign, location, description, url⟩
    exact ⟨callsign, numbers.rxFreq, numbers.txFreq, numbers.txPower, numbers.colorCode, numbers.height, location,
      description, numbers.slots, url⟩

end

/-- What the server has read is what was configured, the coordinates apart. -/
@[mk_iff]
structure Returned (cfg : ClientConfig) (info : PeerInfo) : Prop where
  dmrID : info.dmrID = cfg.id
  callsign : info.callsign = utf8 cfg.callsign
  rxFreq : info.rxFreq = cfg.rxFreq
  txFreq : info.txFreq = cfg.txFreq
  txPower : info.txPower = cfg.txPower
  colorCode : info.colorCode = cfg.colorCode
  height : info.height = cfg.height
  location : info.location = utf8 cfg.location
  description : info.description = utf8 cfg.description
  url : info.url = utf8 cfg.url
  slots : info.slots = if cfg.slots = 0 then 3 else cfg.slots

section

variable {cfg : ClientConfig}

theorem parseRPTCConfig_fields {data : Bytes} (packet : data = (rptcFields cfg).flatten)
    (widths : (rptcFields cfg).map length = rptcWidths) :
    ∃ model, parseRPTCConfig data =
      { dmrID := cfg.id
        callsign := trimASCII (padRight 8 cfg.callsign)
        rxFreq := parseUintField (padZeros 9 cfg.rxFreq.toNat)
        txFreq := parseUintField (padZeros 9 cfg.txFreq.toNat)
        txPower := (parseUintField (padZeros 2 cfg.txPower.toNat)).toUInt8
        colorCode := (parseUintField (padZeros 2 cfg.colorCode.toNat)).toUInt8
        height := (parseUintField (padZeros 3 cfg.height.toNat)).toUInt16
        location := trimASCII (padRight 20 cfg.location)
        description := trimASCII (padRight 19 cfg.description)
        slots := (parseUintField (padZeros 1 (if cfg.slots = 0 then 3 else cfg.slots).toNat)).toUInt8
        url := trimASCII (padRight 124 cfg.url)
        model } := by
  have length : data.length = 302 := by
    rw [packet, length_flatten, widths]
    rfl
  have id : uint32At data 4 = cfg.id := by
    rw [packet]
    exact uint32At_append (ascii "RPTC") _ cfg.id
  have field {i lo hi : Nat} {field : Bytes} (place : (rptcFields cfg)[i]? = some field)
      (start : (rptcWidths.take i).sum = lo) (stop : (rptcWidths.take (i + 1)).sum = hi) : slice data lo hi = field := by
    rw [packet]
    exact slice_flatten widths place start stop
  have callsign := @field 2 8 16 _ rfl rfl rfl
  have rxFreq := @field 3 16 25 _ rfl rfl rfl
  have txFreq := @field 4 25 34 _ rfl rfl rfl
  have txPower := @field 5 34 36 _ rfl rfl rfl
  have colorCode := @field 6 36 38 _ rfl rfl rfl
  have height := @field 9 55 58 _ rfl rfl rfl
  have location := @field 10 58 78 _ rfl rfl rfl
  have description := @field 11 78 97 _ rfl rfl rfl
  have slots := @field 12 97 98 _ rfl rfl rfl
  have url := @field 13 98 222 _ rfl rfl rfl
  refine ⟨(parseRPTCConfig data).model, ?_⟩
  simp only [parseRPTCConfig, length, callsign, rxFreq, txFreq, txPower, colorCode, height, location, description, slots, url,
    id, ge_iff_le, reduceLeDiff, reduceLT, if_true, if_false]

def Unpadded (text : String) : Prop := EdgesAvoid (fun b => b == 0x20 || b == 0) (utf8 text)

structure FieldsFit (cfg : ClientConfig) : Prop where
  numbers : NumbersFit cfg
  callsign : TextFits 8 cfg.callsign
  location : TextFits 20 cfg.location
  description : TextFits 19 cfg.description
  url : TextFits 124 cfg.url

theorem text_returned_iff {width : Nat} {text : String} (unpadded : Unpadded text) (isAscii : IsAscii text) :
    trimASCII (padRight width text) = utf8 text ↔ EdgesAvoid isBlank (utf8 text) := by
  apply trimASCII_padRight_iff isAscii (unpadded.mono _)
  intro b avoided
  exact (Bool.or_eq_false_iff.mp avoided).2

theorem returned_iff_trimmed {data : Bytes} (packet : data = (rptcFields cfg).flatten)
    (widths : (rptcFields cfg).map length = rptcWidths) (numbers : NumbersFit cfg) :
    Returned cfg (parseRPTCConfig data) ↔
      trimASCII (padRight 8 cfg.callsign) = utf8 cfg.callsign ∧ trimASCII (padRight 20 cfg.location) = utf8 cfg.location ∧
        trimASCII (padRight 19 cfg.description) = utf8 cfg.description ∧ trimASCII (padRight 124 cfg.url) = utf8 cfg.url := by
  have byte (b : UInt8) : (UInt64.ofNat b.toNat).toUInt8 = b := by simp
  have word (w : UInt16) : (UInt64.ofNat w.toNat).toUInt16 = w := by simp
  have rxFreq := parseUintField_padZeros numbers.rxFreq
  have txFreq := parseUintField_padZeros numbers.txFreq
  have txPower := parseUintField_padZeros numbers.txPower
  have colorCode := parseUintField_padZeros numbers.colorCode
  have height := parseUintField_padZeros numbers.height
  have slots := parseUintField_padZeros numbers.slots
  simp only [reduceAdd, zero_add] at rxFreq txFreq txPower colorCode height slots
  obtain ⟨model, parsed⟩ := parseRPTCConfig_fields packet widths
  simp only [parsed, returned_iff, rxFreq, txFreq, txPower, colorCode, height, slots, UInt64.ofNat_toNat, byte, word, true_and,
    and_true]

theorem rptc_returned_iff (eight : cfg.latitude.length = 8) (nine : cfg.longitude.length = 9) (callsign : Unpadded cfg.callsign)
    (location : Unpadded cfg.location) (description : Unpadded cfg.description) (url : Unpadded cfg.url) :
    ((rptcFields cfg).flatten.length = 302 ∧ Returned cfg (parseRPTCConfig (rptcFields cfg).flatten)) ↔ FieldsFit cfg := by
  rw [length_rptcFields_iff eight nine]
  constructor
  · intro ⟨widths, returned⟩
    obtain ⟨numbers, ⟨c, short⟩, ⟨l, shortL⟩, ⟨d, shortD⟩, u, shortU⟩ := (rptcWidths_iff eight nine).mp widths
    rw [returned_iff_trimmed rfl widths numbers, text_returned_iff callsign c, text_returned_iff location l,
      text_returned_iff description d, text_returned_iff url u] at returned
    obtain ⟨trimmedC, trimmedL, trimmedD, trimmedU⟩ := returned
    exact ⟨numbers, ⟨c, short, trimmedC⟩, ⟨l, shortL, trimmedL⟩, ⟨d, shortD, trimmedD⟩, ⟨u, shortU, trimmedU⟩⟩
  · intro ⟨numbers, c, l, d, u⟩
    have widths := (rptcWidths_iff eight nine).mpr
      ⟨numbers, ⟨c.isAscii, c.short⟩, ⟨l.isAscii, l.short⟩, ⟨d.isAscii, d.short⟩, u.isAscii, u.short⟩
    rw [returned_iff_trimmed rfl widths numbers, text_returned_iff callsign c.isAscii, text_returned_iff location l.isAscii,
      text_returned_iff description d.isAscii, text_returned_iff url u.isAscii]
    exact ⟨widths, c.trimmed, l.trimmed, d.trimmed, u.trimmed⟩

end

def clientConfig (cfg : Web.MMDVM) (latitude longitude : Bytes) : ClientConfig :=
  { id := cfg.id, password := utf8 cfg.password, callsign := cfg.callsign, rxFreq := cfg.rxFreq, txFreq := cfg.txFreq
    txPower := cfg.txPower, colorCode := cfg.colorCode, latitude, longitude, height := cfg.height, location := cfg.location
    description := cfg.description, url := cfg.url, slots := cfg.slots }

structure ConfigFits (cfg : Web.MMDVM) : Prop where
  callsign : TextFits 8 cfg.callsign
  rxFreq : cfg.rxFreq.toNat < 10 ^ 9
  txFreq : cfg.txFreq.toNat < 10 ^ 9
  txPower : cfg.txPower.toNat < 10 ^ 2
  height : cfg.height.toNat < 10 ^ 3
  location : TextFits 20 cfg.location
  description : TextFits 19 cfg.description
  slots : cfg.slots.toNat < 10
  url : TextFits 124 cfg.url

theorem slots_fit_iff (slots : UInt8) : (if slots = 0 then 3 else slots).toNat < 10 ^ 1 ↔ slots.toNat < 10 := by
  split
  case isTrue unset =>
    rw [unset]
    decide
  case isFalse => rfl

theorem fieldsFit_iff {cfg : Web.MMDVM} (small : cfg.colorCode ≤ 15) (latitude longitude : Bytes) :
    FieldsFit (clientConfig cfg latitude longitude) ↔ ConfigFits cfg := by
  have colorCode : cfg.colorCode.toNat < 10 ^ 2 := lt_of_le_of_lt (UInt8.le_iff_toNat_le.mp small) (by decide)
  constructor
  · intro ⟨numbers, callsign, location, description, url⟩
    exact ⟨callsign, numbers.rxFreq, numbers.txFreq, numbers.txPower, numbers.height, location, description,
      (slots_fit_iff _).mp numbers.slots, url⟩
  · intro fits
    exact ⟨⟨fits.rxFreq, fits.txFreq, fits.txPower, colorCode, fits.height, (slots_fit_iff _).mpr fits.slots⟩,
      fits.callsign, fits.location, fits.description, fits.url⟩

theorem config_packet_returned_iff {networks : List Web.MMDVM} {cfg : Web.MMDVM}
    (accepted : Web.validateMMDVMClients networks = none) (member : cfg ∈ networks) {latitude longitude : Bytes}
    (eight : latitude.length = 8) (nine : longitude.length = 9) (callsign : Unpadded cfg.callsign)
    (location : Unpadded cfg.location) (description : Unpadded cfg.description) (url : Unpadded cfg.url) :
    (∃ data, sendRPTC (clientConfig cfg latitude longitude) = .send data ∧ data.length = 302 ∧
      Returned (clientConfig cfg latitude longitude) (parseRPTCConfig data)) ↔ ConfigFits cfg := by
  rw [← fieldsFit_iff (Web.required_of_accepted accepted member).2.2.1 latitude longitude,
    ← @rptc_returned_iff (clientConfig cfg latitude longitude) eight nine callsign location description url, sendRPTC_eq_flatten]
  generalize (rptcFields (clientConfig cfg latitude longitude)).flatten = packet
  constructor
  · intro ⟨data, sent, length, returned⟩
    obtain rfl := ClientEffect.send.inj sent
    exact ⟨length, returned⟩
  · intro ⟨length, returned⟩
    exact ⟨packet, rfl, length, returned⟩

def repeaterAt (height : UInt16) : Web.MMDVM :=
  { sourceKey := "mmdvm-upstream:summit", name := "summit", callsign := "N0CALL", id := 460001, rxFreq := 438800000
    txFreq := 431200000, txPower := 10, colorCode := 1, latitude := 47, longitude := 10, height, location := "Summit"
    description := "Repeater", url := "", slots := 0, masterServer := "192.0.2.1:62031", password := "secret"
    tgRewrites := [], pcRewrites := [], typeRewrites := [], srcRewrites := [], passAllPC := [], passAllTG := [] }

theorem config_packet_returned_low :
    ∃ data, sendRPTC (clientConfig (repeaterAt 999) (ascii "+47.0000") (ascii "+010.0000")) = .send data ∧ data.length = 302 ∧
      Returned (clientConfig (repeaterAt 999) (ascii "+47.0000") (ascii "+010.0000")) (parseRPTCConfig data) :=
  (@config_packet_returned_iff [repeaterAt 999] _ (by decide +kernel) (List.mem_singleton.mpr rfl) _ _ rfl rfl
    (edgesAvoid_of_forall (by decide +kernel)) (edgesAvoid_of_forall (by decide +kernel))
    (edgesAvoid_of_forall (by decide +kernel)) (edgesAvoid_of_forall (by decide +kernel))).mpr
    { callsign := ⟨by decide +kernel, by decide +kernel, edgesAvoid_of_forall (by decide +kernel)⟩
      rxFreq := by decide +kernel
      txFreq := by decide +kernel
      txPower := by decide +kernel
      height := by decide +kernel
      location := ⟨by decide +kernel, by decide +kernel, edgesAvoid_of_forall (by decide +kernel)⟩
      description := ⟨by decide +kernel, by decide +kernel, edgesAvoid_of_forall (by decide +kernel)⟩
      slots := by decide +kernel
      url := ⟨by decide +kernel, by decide +kernel, edgesAvoid_of_forall (by decide +kernel)⟩ }

/-- A height of 1000 m is accepted.  It takes four digits, and the last one becomes the first
character of the location. -/
theorem config_packet_height_shifts : Web.validateMMDVMClients [repeaterAt 1000] = none ∧
      ∃ data, sendRPTC (clientConfig (repeaterAt 1000) (ascii "+47.0000") (ascii "+010.0000")) = .send data ∧
        data.length = 303 ∧ (parseRPTCConfig data).height = 100 ∧ (parseRPTCConfig data).location = ascii "0Summit" :=
  ⟨by decide +kernel, _, rfl, by decide +kernel, by decide +kernel, by decide +kernel⟩

end Ipsc2Mmdvm.Mmdvm
