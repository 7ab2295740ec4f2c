import Ipsc2Mmdvm.Data.Clock
import Ipsc2Mmdvm.Data.GoMap
import Ipsc2Mmdvm.Data.Text
import Ipsc2Mmdvm.Data.Transitions
import Ipsc2Mmdvm.Dmr.LinkControl
import Ipsc2Mmdvm.Dmr.VoiceBurst
import Ipsc2Mmdvm.Proto.Packet

namespace Ipsc2Mmdvm.Nrl

open Data Dmr Proto

/-! Each identity that speaks has an encoder state.  A step handles one received packet, or is the
part of `handleDMRPacket` that purges idle states, under the lock of the session. -/

def streamIdleTimeout : Duration := 1500 * millisecond

def pcmFrameSize : Nat := 160

/-- What the session calls: the vocoder library, the answers of `rand.Int31` in the order of
the calls, and the case table of Unicode. -/
structure Runtime (σ : Type) where
  newVocoder : Except String σ
  encode : σ → List Int16 → σ × Except String Bytes
  int31 : Nat → UInt32
  toUpper : String → String

structure DeviceConfig where
  slot : Int
  targetTG : UInt32
  colorCode : UInt8
deriving DecidableEq

/-- A decoded packet.  The callsigns are the runes of the received bytes; a byte outside UTF-8 is
U+FFFD, which is what `strings.ToUpper` makes of it. -/
structure VoicePacket where
  type : UInt8
  dmrID : UInt32
  callsign : String
  ssid : UInt8
  originalCallsign : String
  data : List UInt8
deriving DecidableEq

structure EncodeState (σ : Type) where
  vocoder : σ
  streamID : UInt32
  sequence : UInt32 := 0
  voiceSeq : UInt8 := 0
  pcmBuffer : List Int16 := []
  ambeFrames : List Bytes := []
  lastSeen : Time := 0
  headerSent : Bool := false
  srcID : UInt32

structure Session (σ : Type) where
  encoders : GoMap String (EncodeState σ) := ∅
  drawn : Nat := 0
  closed : Bool := false

def rawAlaw2linear (code : UInt8) : Int16 :=
  let code := code ^^^ 0x55
  let iexp := (code &&& 0x70) >>> 4
  let mant := (code &&& 0x0F).toUInt16.toInt16
  let mant := if iexp > 0 then mant + 16 else mant
  let mant := (mant <<< 4) + 0x08
  let mant := if iexp > 1 then mant <<< (iexp - 1).toUInt16.toInt16 else mant
  if code &&& 0x80 != 0 then mant else -mant

def alawToLinear (code : UInt8) : Int16 := rawAlaw2linear code

def streamPacket (srcID dstID : UInt32) (slot : Int) (streamID seq : UInt32) (frameType dtypeOrVSeq : UInt64)
    (dmrData : DMRData) : Packet where
  signature := dmrd
  seq := (seq &&& 0xFF).toUInt64
  src := srcID.toUInt64
  dst := dstID.toUInt64
  slot := slot == 2
  groupCall := true
  frameType := frameType
  dtypeOrVSeq := dtypeOrVSeq
  streamID := streamID.toUInt64
  dmrData := dmrData

def lcPacket (dataType : UInt8) (srcID dstID : UInt32) (slot : Int) (colorCode : UInt8) (streamID seq : UInt32) : Packet :=
  streamPacket srcID dstID slot streamID seq 2 dataType.toUInt64
    (buildLCDataBurst (buildStandardLCBytesForDataType srcID.toUInt64 dstID.toUInt64 true 0x20 dataType) dataType colorCode)

def newHeaderPacket (srcID dstID : UInt32) (slot : Int) (colorCode : UInt8) (streamID seq : UInt32) : Packet :=
  lcPacket dataTypeVoiceLCHeader srcID dstID slot colorCode streamID seq

def newTerminatorPacket (srcID dstID : UInt32) (slot : Int) (colorCode : UInt8) (streamID seq : UInt32) : Packet :=
  lcPacket dataTypeTerminatorWithLC srcID dstID slot colorCode streamID seq

def newVoicePacket (srcID dstID : UInt32) (slot : Int) (colorCode : UInt8) (streamID seq : UInt32) (voiceSeq : UInt8)
    (ambe0 ambe1 ambe2 : Bytes) : Packet :=
  streamPacket srcID dstID slot streamID seq (if voiceSeq = 0 then 1 else 0) voiceSeq.toUInt64
    (assembleVoiceBurst ambe0 ambe1 ambe2 voiceSeq srcID dstID colorCode)

section

variable {σ : Type} (rt : Runtime σ) (cfg : DeviceConfig)

def Runtime.randomStreamID (draw : Nat) : UInt32 := if rt.int31 draw = 0 then 1 else rt.int31 draw

def encodeFrame (state : EncodeState σ) : EncodeState σ × List Packet :=
  let framePCM := state.pcmBuffer.take pcmFrameSize
  let rest := state.pcmBuffer.drop pcmFrameSize
  match rt.encode state.vocoder framePCM with
  | (vocoder, .error _) => ({ state with vocoder, pcmBuffer := rest }, [])
  | (vocoder, .ok ambe) =>
    let frames := state.ambeFrames ++ [ambe]
    if frames.length < 3 then ({ state with vocoder, pcmBuffer := rest, ambeFrames := frames }, [])
    else
      ({ state with
          vocoder
          pcmBuffer := rest
          sequence := state.sequence + 1
          voiceSeq := (state.voiceSeq + 1) % 6
          ambeFrames := [] },
        [newVoicePacket state.srcID cfg.targetTG cfg.slot cfg.colorCode state.streamID state.sequence state.voiceSeq
          (frames.getD 0 []) (frames.getD 1 []) (frames.getD 2 [])])

def encodeLoop : Nat → EncodeState σ → EncodeState σ × List Packet
  | 0, state => (state, [])
  | fuel + 1, state =>
    if state.pcmBuffer.length < pcmFrameSize then (state, [])
    else
      let (state, packets) := encodeFrame rt cfg state
      let (state, more) := encodeLoop fuel state
      (state, packets ++ more)

def sendHeader (state : EncodeState σ) : EncodeState σ × List Packet :=
  if state.headerSent then (state, [])
  else
    ({ state with sequence := state.sequence + 1, headerSent := true },
      [newHeaderPacket state.srcID cfg.targetTG cfg.slot cfg.colorCode state.streamID state.sequence])

def encodeVoice (now : Time) (data : List UInt8) (state : EncodeState σ) : EncodeState σ × List Packet :=
  let state := { state with lastSeen := now, pcmBuffer := state.pcmBuffer ++ data.map alawToLinear }
  let (state, header) := sendHeader cfg state
  let (state, voice) := encodeLoop rt cfg state.pcmBuffer.length state
  (state, header ++ voice)

def emitTerminatorLocked (state : EncodeState σ) : List Packet :=
  if !state.headerSent || cfg.targetTG == 0 then []
  else [newTerminatorPacket state.srcID cfg.targetTG cfg.slot cfg.colorCode state.streamID state.sequence]

def EncodeState.idle (now : Time) (state : EncodeState σ) : Bool :=
  decide (streamIdleTimeout < Time.sub now state.lastSeen)

def expireLocked (now : Time) (order : Enumeration String) (s : Session σ) : Session σ × List Packet :=
  ({ s with encoders := s.encoders.deleteWhere fun _ state => state.idle now },
    (order.order s.encoders.keys).flatMap fun key =>
      match s.encoders.lookup key with
      | some state => if state.idle now then emitTerminatorLocked cfg state else []
      | none => [])

def selectState (s : Session σ) (key : String) (srcID : UInt32) : Option (EncodeState σ × Nat) :=
  match s.encoders.lookup key with
  | some state => some (state, s.drawn)
  | none =>
    match rt.newVocoder with
    | .error _ => none
    | .ok vocoder => some ({ vocoder, streamID := rt.randomStreamID s.drawn, srcID }, s.drawn + 1)

def restartIfIdle (now : Time) (selected : EncodeState σ × Nat) : EncodeState σ × Nat :=
  let (state, drawn) := selected
  if state.idle now then
    ({ state with
        streamID := rt.randomStreamID drawn
        sequence := 0
        voiceSeq := 0
        pcmBuffer := []
        ambeFrames := []
        headerSent := false },
      drawn + 1)
  else (state, drawn)

def resolveInboundDMRID (inboundIDFunc : Option (UInt32 → String → UInt32)) (dmrid : UInt32) (originalCallsign : String) :
    UInt32 :=
  match inboundIDFunc with
  | none => dmrid
  | some resolve => resolve dmrid originalCallsign

def sourceID (inboundIDFunc : Option (UInt32 → String → UInt32)) (pkt : VoicePacket) : UInt32 :=
  let srcID := resolveInboundDMRID inboundIDFunc pkt.dmrID pkt.originalCallsign
  if srcID = 0 then pkt.dmrID else srcID

def encoderKey (srcID : UInt32) (pkt : VoicePacket) : String :=
  let original := trimText pkt.originalCallsign
  let identity := if original = "" then trimText pkt.callsign else original
  toString srcID.toNat ++ ":" ++ rt.toUpper identity ++ ":" ++ toString pkt.ssid.toNat

def handleVoiceLocked (now : Time) (order : Enumeration String) (key : String) (srcID : UInt32) (data : List UInt8)
    (s : Session σ) : Session σ × List Packet :=
  let (s, terminators) := expireLocked cfg now order s
  match selectState rt s key srcID with
  | none => (s, terminators)
  | some selected =>
    let (state, drawn) := restartIfIdle rt now selected
    let (state, packets) := encodeVoice rt cfg now data state
    ({ s with encoders := s.encoders.insert key state, drawn }, terminators ++ packets)

def handleNRLPacket (inboundIDFunc : Option (UInt32 → String → UInt32)) (now : Time) (order : Enumeration String)
    (pkt : VoicePacket) (s : Session σ) : Session σ × List Packet :=
  let srcID := sourceID inboundIDFunc pkt
  if srcID = 0 then (s, [])
  else if cfg.targetTG = 0 then (s, [])
  else if s.closed then (s, [])
  else handleVoiceLocked rt cfg now order (encoderKey rt srcID pkt) srcID pkt.data s

/-- `expire` is a `handleDMRPacket` that gets to `expireLocked`; one that does not leaves the
encoders alone. -/
inductive Event where
  | receive (inboundIDFunc : Option (UInt32 → String → UInt32)) (now : Time) (order : Enumeration String) (pkt : VoicePacket)
  | expire (now : Time) (order : Enumeration String)
  | close

def Event.handle (s : Session σ) : Event → Session σ × List Packet
  | .receive inboundIDFunc now order pkt =>
    if pkt.type ≠ 1 ∧ pkt.type ≠ 9 then (s, []) else handleNRLPacket rt cfg inboundIDFunc now order pkt s
  | .expire now order => if s.closed then (s, []) else expireLocked cfg now order s
  | .close => ({ s with closed := true }, [])

structure Trace (σ : Type) where
  session : Session σ := {}
  sent : List Packet := []

def Trace.step (trace : Trace σ) (event : Event) : Trace σ :=
  let (session, packets) := event.handle rt cfg trace.session
  ⟨session, trace.sent ++ packets⟩

def run (events : List Event) : Trace σ := runFrom (Trace.step rt cfg) {} events

end

end Ipsc2Mmdvm.Nrl
