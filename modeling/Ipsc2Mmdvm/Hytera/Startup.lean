import Ipsc2Mmdvm.Data.GoMap
import Ipsc2Mmdvm.Data.Text
import Ipsc2Mmdvm.Hytera.Codec

namespace Ipsc2Mmdvm.Hytera

open Data Proto

/-! Wakeup requests and sync packets precede a call and carry no sequence number.  Those that
repeaters send are kept as templates. -/

def timeslotRaw (slot : Bool) : Nat := if slot then 0x2222 else 0x1111

def slotMarker (slot : Bool) : UInt8 := if slot then 0x02 else 0x01

def zeros (n : Nat) : Bytes := List.replicate n 0x00

def callTypeByte (groupCall : Bool) : UInt8 := if groupCall then 0x01 else 0x00

def colorCodeByte (colorCode : UInt8) : UInt8 :=
  let cc := colorCode &&& 0x0F
  cc ||| cc <<< 4

def buildWakeupPacket (slot : Bool) (sourceID targetID : UInt64) (colorCode : UInt8) : Bytes :=
  ([0x5A, 0x5A, 0x5A, 0x5A, 0x00, 0x00, 0x00, 0x00, 0x42, 0x00, 0x05, 0x42] : Bytes) ++ [slotMarker slot, 0x00, 0x00, 0x00] ++
    putUint16 (timeslotRaw slot) ++
    [0xDD, 0xDD, colorCodeByte colorCode, colorCodeByte colorCode, 0x00, 0x00, 0x40] ++ zeros 11 ++
    [0x01, 0x00, 0x02, 0x00, 0x02, 0x00, 0x01] ++ zeros 13 ++
    [0xFF, 0xFF, 0xEF, 0x08, 0x2A, 0x00, 0x07, 0x00] ++ encodeID24LE targetID ++ encodeID24LE sourceID

def buildSyncPacket (slot : Bool) (sourceID targetID : UInt64) (groupCall : Bool) (colorCode : UInt8) : Bytes :=
  ([0x5A, 0x5A, 0x5A, 0x5A, 0x00, 0x00, 0x00, 0x00, 0x42, 0x00, 0x05, 0x01] : Bytes) ++ [slotMarker slot, 0x00, 0x00, 0x00] ++
    putUint16 (timeslotRaw slot) ++
    [0xEE, 0xEE, colorCodeByte colorCode, colorCodeByte colorCode, 0x11, 0x11, 0x40, 0x2F] ++ zeros 7 ++
    [(targetID >>> 16).toUInt8, 0x00, (targetID >>> 8).toUInt8, 0x00, targetID.toUInt8, 0x00,
      (sourceID >>> 16).toUInt8, 0x00, (sourceID >>> 8).toUInt8, 0x00, sourceID.toUInt8, 0x00] ++
    zeros 18 ++ [callTypeByte groupCall, 0x00] ++ encodeID24LE targetID ++ encodeID24LE sourceID

def buildFixedStartupPacket (slotType : SlotType) (pkt : Packet) (colorCode : UInt8) : Option Bytes :=
  let cc := colorCode &&& 0x0F
  if slotType = .wakeupRequest then some (buildWakeupPacket pkt.slot pkt.src pkt.dst cc)
  else if slotType = .sync then some (buildSyncPacket pkt.slot pkt.src pkt.dst pkt.groupCall cc)
  else none

abbrev Templates := GoMap String Bytes

def hex04 (n : Nat) : String :=
  String.ofList [hexDigit (n / 4096 % 16), hexDigit (n / 256 % 16), hexDigit (n / 16 % 16), hexDigit (n % 16)]

def startupTemplateKey (slot : Bool) (slotType : SlotType) : String :=
  (if slot then "ts2" else "ts1") ++ ":" ++ hex04 slotType.toUint16

def cacheStartupTemplate (templates : Templates) (slot : Bool) (slotType : SlotType) (data : Bytes) : Templates :=
  if data.length < 72 then templates
  else templates.insert (startupTemplateKey slot slotType) data

def startupTemplate (templates : Templates) (slot : Bool) (slotType : SlotType) : Option Bytes :=
  (templates.lookup (startupTemplateKey slot slotType)).or (templates.lookup (startupTemplateKey (!slot) slotType))

def writeAt (data : Bytes) (start : Nat) (bytes : Bytes) : Bytes :=
  data.take start ++ bytes ++ data.drop (start + bytes.length)

def templateWrites (tailStart : Nat) (slotType : SlotType) (pkt : Packet) : List (Nat × Bytes) :=
  [(12, [slotMarker pkt.slot]), (16, putUint16 (timeslotRaw pkt.slot)), (18, putUint16 slotType.toUint16),
    (tailStart + 2, [callTypeByte pkt.groupCall]), (tailStart + 4, encodeID24LE pkt.dst), (tailStart + 8, encodeID24LE pkt.src)]

def fillTemplate (template : Bytes) (slotType : SlotType) (pkt : Packet) : Option Bytes :=
  let tailStart := template.length - 12
  if tailStart < 26 then none
  else some ((templateWrites tailStart slotType pkt).foldl (fun template write => writeAt template write.1 write.2) template)

section

variable (cfg : Option UInt8) (templates : Templates)

def buildStartupPacket (slotType : SlotType) (pkt : Packet) : Option Bytes :=
  match startupTemplate templates pkt.slot slotType with
  | none => buildFixedStartupPacket slotType pkt (cfgColorCode cfg)
  | some template => fillTemplate template slotType pkt

def buildStartupPacketForRoute (slotType : SlotType) (pkt : Packet) (fromMoto : Bool) (motoColorCode : UInt8) : Option Bytes :=
  if fromMoto then buildFixedStartupPacket slotType pkt motoColorCode
  else buildStartupPacket cfg templates slotType pkt

end

end Ipsc2Mmdvm.Hytera
