import Ipsc2Mmdvm.Ipsc.Forward
import Ipsc2Mmdvm.Nrl.G711
import Ipsc2Mmdvm.Nrl.Protocol
import Ipsc2Mmdvm.Nrl.Session

namespace Ipsc2Mmdvm.Nrl

open Data Proto

/-! Each stream has a decoder with a buffer, out of which payloads of 500 bytes are written.  Every
function runs under the lock of the session. -/

def voicePayloadSize : Nat := 500

/-- What the session calls for one packet: the vocoder library, the DMR library with the tables
of the AMBE code, the bridge and the connection.  `write` answers the writes to the socket in
the order of the session. -/
structure Line (σ : Type) where
  newVocoder : Except String σ
  decode : σ → Bytes → σ × Except String (Vector Int16 160)
  decodeFromBytes : DMRData → Ipsc.DecodedBurst
  encodeAMBEFrame : Vector Bool 49 → Vector Bool 72
  connected : Bool
  callsign : String
  ssid : UInt8
  localIP : Option Bytes
  resolveCallsign : UInt32 → String
  write : Nat → Option String
  toUpper : String → String

structure DecodeState (σ : Type) where
  number : Nat
  vocoder : σ
  lastSeen : Time := 0
  srcDMRID : UInt32 := 0
  buffer : Bytes := []

structure Receiver (σ : Type) where
  decoders : GoMap String (DecodeState σ) := ∅
  made : Nat := 0
  count : UInt16 := 0
  writes : Nat := 0
  closed : Bool := false

inductive WriteError where
  | closed
  | deviceCallsign
  | sourceDMRID
  | sourceCallsign (srcDMRID : UInt32)
  | socket (reason : String)
deriving DecidableEq

def WriteError.error : WriteError → String
  | .closed => "nrl session closed"
  | .deviceCallsign => "nrl device callsign is empty"
  | .sourceDMRID => "source dmrid is empty"
  | .sourceCallsign srcDMRID => "source callsign is empty for dmrid " ++ toString srcDMRID.toNat
  | .socket reason => reason

inductive DecoderAction where
  | samples (decoder : Nat) (alaw : Bytes)
  | write (decoder : Nat) (srcDMRID : UInt32) (payload : Bytes) (result : Except WriteError Bytes)

section

variable {σ : Type} (line : Line σ)

def voicePacket (count : UInt16) (srcDMRID : UInt32) (originalCallsign : String) (payload : Bytes) : Bytes :=
  encodeVoicePacket line.toUpper line.callsign line.ssid count srcDMRID originalCallsign payload
    ((line.localIP.map to4).getD (List.replicate 4 0))

def writeVoicePacketLocked (s : Receiver σ) (srcDMRID : UInt32) (payload : Bytes) :
    Receiver σ × Except WriteError Bytes :=
  if !line.connected then (s, .error .closed)
  else if trimText line.callsign = "" then (s, .error .deviceCallsign)
  else if srcDMRID = 0 then (s, .error .sourceDMRID)
  else
    let originalCallsign := line.resolveCallsign srcDMRID
    if trimText originalCallsign = "" then (s, .error (.sourceCallsign srcDMRID))
    else
      let packet := voicePacket line s.count srcDMRID originalCallsign payload
      ({ s with count := s.count + 1, writes := s.writes + 1 },
        match line.write s.writes with
        | some reason => .error (.socket reason)
        | none => .ok packet)

/-- `none` is the run-time error of a slice with a negative length. -/
def flushDecoderLocked (s : Receiver σ) (key : String) (remove : Bool) : Option (Receiver σ × List DecoderAction) :=
  match s.decoders.lookup key with
  | none => some (s, [])
  | some state =>
    if state.buffer = [] then
      some (if remove then { s with decoders := s.decoders.erase key } else s, [])
    else if voicePayloadSize < state.buffer.length then none
    else
      let payload := state.buffer ++ List.replicate (voicePayloadSize - state.buffer.length) 0xD5
      let (s, result) := writeVoicePacketLocked line s state.srcDMRID payload
      let decoders :=
        if remove then s.decoders.erase key else s.decoders.insert key { state with buffer := [] }
      some ({ s with decoders }, [.write state.number state.srcDMRID payload result])

def DecodeState.idle (now : Time) (state : DecodeState σ) : Bool :=
  decide (streamIdleTimeout < Time.sub now state.lastSeen)

def expireDecoders (now : Time) : List String → Receiver σ → Option (Receiver σ × List DecoderAction)
  | [], s => some (s, [])
  | key :: keys, s =>
    match s.decoders.lookup key with
    | none => expireDecoders now keys s
    | some state =>
      if state.idle now then
        (flushDecoderLocked line s key true).bind fun flushed =>
          (expireDecoders now keys flushed.1).map fun rest => (rest.1, flushed.2 ++ rest.2)
      else expireDecoders now keys s

def ambeFrameBytes (decodedBits : Vector Bool 49) : Bytes :=
  (packBits 9 (line.encodeAMBEFrame decodedBits).toList).toList

def alawOf : Except String (Vector Int16 160) → Bytes
  | .error _ => []
  | .ok pcm => pcm.toList.map linearToAlaw

def decodeFrames : List (Vector Bool 49) → DecodeState σ → DecodeState σ × Bytes
  | [], state => (state, [])
  | frame :: frames, state =>
    let (vocoder, pcm) := line.decode state.vocoder (ambeFrameBytes line frame)
    let (state, more) := decodeFrames frames { state with vocoder, buffer := state.buffer ++ alawOf pcm }
    (state, alawOf pcm ++ more)

/-- The loop that writes full payloads and stops at the first error.  A round takes 500 bytes, so
the length of the buffer is enough fuel. -/
def sendPayloads (srcDMRID : UInt32) : Nat → Receiver σ → DecodeState σ →
    Receiver σ × DecodeState σ × List DecoderAction × Bool
  | 0, s, state => (s, state, [], true)
  | fuel + 1, s, state =>
    if state.buffer.length < voicePayloadSize then (s, state, [], true)
    else
      let payload := state.buffer.take voicePayloadSize
      let state := { state with buffer := state.buffer.drop voicePayloadSize }
      match writeVoicePacketLocked line s srcDMRID payload with
      | (s, .error reason) => (s, state, [.write state.number srcDMRID payload (.error reason)], false)
      | (s, .ok packet) =>
        let (s, state, more, sent) := sendPayloads srcDMRID fuel s state
        (s, state, .write state.number srcDMRID payload (.ok packet) :: more, sent)

def selectDecoder (s : Receiver σ) (key : String) : Option (Receiver σ × DecodeState σ) :=
  match s.decoders.lookup key with
  | some state => some (s, state)
  | none =>
    match line.newVocoder with
    | .error _ => none
    | .ok vocoder => some ({ s with made := s.made + 1 }, { number := s.made, vocoder })

def decoderKey (pkt : Packet) : String :=
  toString pkt.src.toNat ++ ":" ++ toString pkt.slot ++ ":" ++ toString pkt.streamID.toNat

abbrev Handled (σ : Type) := Option (Receiver σ × List DecoderAction × Bool)

def expireAnd (now : Time) (order : Enumeration String) (s : Receiver σ) (earlier : List DecoderAction) (taken : Bool) :
    Handled σ :=
  (expireDecoders line now (order.order s.decoders.keys) s).map fun rest => (rest.1, earlier ++ rest.2, taken)

def handleVoiceBurst (s : Receiver σ) (now : Time) (order : Enumeration String) (pkt : Packet) (burst : Ipsc.DecodedBurst) :
    Handled σ :=
  match selectDecoder line s (decoderKey pkt) with
  | none => some (s, [], false)
  | some (s, state) =>
    let (state, alaw) :=
      decodeFrames line burst.frames.toList { state with lastSeen := now, srcDMRID := pkt.src.toUInt32 }
    let (s, state, writes, sent) := sendPayloads line pkt.src.toUInt32 state.buffer.length s state
    let s := { s with decoders := s.decoders.insert (decoderKey pkt) state }
    let actions := .samples state.number alaw :: writes
    if sent then expireAnd line now order s actions true else some (s, actions, false)

def handleDMRPacket (s : Receiver σ) (now : Time) (order : Enumeration String) (pkt : Packet) : Handled σ :=
  if s.closed then some (s, [], false)
  else if pkt.frameType = 2 ∧ pkt.dtypeOrVSeq = 2 then
    (flushDecoderLocked line s (decoderKey pkt) true).map fun flushed => (flushed.1, flushed.2, true)
  else if pkt.frameType ≠ 0 ∧ pkt.frameType ≠ 1 then expireAnd line now order s [] false
  else
    let burst := line.decodeFromBytes pkt.dmrData
    if burst.isData then expireAnd line now order s [] false else handleVoiceBurst line s now order pkt burst

end

inductive DecoderEvent (σ : Type) where
  | packet (line : Line σ) (now : Time) (order : Enumeration String) (pkt : Packet)
  | expire (line : Line σ) (now : Time) (order : Enumeration String)
  | close

section

variable {σ : Type}

def DecoderEvent.handle (s : Receiver σ) : DecoderEvent σ → Handled σ
  | .packet line now order pkt => handleDMRPacket line s now order pkt
  | .expire line now order => if s.closed then some (s, [], false) else expireAnd line now order s [] false
  | .close => some ({ s with closed := true }, [], false)

end

end Ipsc2Mmdvm.Nrl
