import Ipsc2Mmdvm.Nrl.Session

namespace Ipsc2Mmdvm.Nrl.Reconfigured

open Data Proto

/-! `ensureSession` stores a new configuration without the lock of the session, so a replacement can
fall between any two accesses.  The functions are those of the session, with every access on its
own. -/

/-- The configuration in force, and for each of the next accesses the configuration that is
stored before it, if any. -/
structure Setting where
  cfg : DeviceConfig
  upcoming : List (Option DeviceConfig) := []

def Setting.read (setting : Setting) : DeviceConfig × Setting :=
  match setting.upcoming with
  | [] => (setting.cfg, setting)
  | change :: upcoming =>
    let cfg := change.getD setting.cfg
    (cfg, ⟨cfg, upcoming⟩)

def Setting.readFields (setting : Setting) : DeviceConfig × Setting :=
  let (first, setting) := setting.read
  let (second, setting) := setting.read
  let (third, setting) := setting.read
  (⟨second.slot, first.targetTG, third.colorCode⟩, setting)

def Setting.last (setting : Setting) : DeviceConfig :=
  setting.upcoming.foldl (fun cfg change => change.getD cfg) setting.cfg

section

variable {σ : Type} (rt : Runtime σ)

def emitTerminatorLocked (state : EncodeState σ) (setting : Setting) : List Packet × Setting :=
  if !state.headerSent then ([], setting)
  else
    let (cfg, setting) := setting.read
    if cfg.targetTG == 0 then ([], setting)
    else
      let (cfg, setting) := setting.readFields
      ([newTerminatorPacket state.srcID cfg.targetTG cfg.slot cfg.colorCode state.streamID state.sequence], setting)

def expireEncoder (encoders : GoMap String (EncodeState σ)) (now : Time) (key : String) (setting : Setting) :
    List Packet × Setting :=
  match encoders.lookup key with
  | some state => if state.idle now then emitTerminatorLocked state setting else ([], setting)
  | none => ([], setting)

def expireEncoders (encoders : GoMap String (EncodeState σ)) (now : Time) : List String → Setting → List Packet × Setting
  | [], setting => ([], setting)
  | key :: keys, setting =>
    let (packets, setting) := expireEncoder encoders now key setting
    let (more, setting) := expireEncoders encoders now keys setting
    (packets ++ more, setting)

def expireLocked (now : Time) (order : Enumeration String) (s : Session σ) (setting : Setting) :
    Session σ × List Packet × Setting :=
  let (packets, setting) := expireEncoders s.encoders now (order.order s.encoders.keys) setting
  ({ s with encoders := s.encoders.deleteWhere fun _ state => state.idle now }, packets, setting)

def sendHeader (state : EncodeState σ) (setting : Setting) : EncodeState σ × List Packet × Setting :=
  if state.headerSent then (state, [], setting)
  else
    let (cfg, setting) := setting.readFields
    let (state, packets) := Nrl.sendHeader cfg state
    (state, packets, setting)

def encodeFrame (state : EncodeState σ) (setting : Setting) : EncodeState σ × List Packet × Setting :=
  let (cfg, next) := setting.readFields
  let (state, packets) := Nrl.encodeFrame rt cfg state
  (state, packets, bif packets.isEmpty then setting else next)

def encodeLoop : Nat → EncodeState σ → Setting → EncodeState σ × List Packet × Setting
  | 0, state, setting => (state, [], setting)
  | fuel + 1, state, setting =>
    if state.pcmBuffer.length < pcmFrameSize then (state, [], setting)
    else
      let (state, packets, setting) := encodeFrame rt state setting
      let (state, more, setting) := encodeLoop fuel state setting
      (state, packets ++ more, setting)

def encodeVoice (now : Time) (data : List UInt8) (state : EncodeState σ) (setting : Setting) :
    EncodeState σ × List Packet × Setting :=
  let state := { state with lastSeen := now, pcmBuffer := state.pcmBuffer ++ data.map alawToLinear }
  let (state, header, setting) := sendHeader state setting
  let (state, voice, setting) := encodeLoop rt state.pcmBuffer.length state setting
  (state, header ++ voice, setting)

/-- A packet that has passed the checks of `handleNRLPacket` and waits for the lock. -/
structure Waiting where
  now : Time
  order : Enumeration String
  key : String
  srcID : UInt32
  data : List UInt8

/-- `handleNRLPacket` up to the lock.  `readLoop` drops packets of other types. -/
def handleNRLPacket (cfg : DeviceConfig) (inboundIDFunc : Option (UInt32 → String → UInt32)) (now : Time)
    (order : Enumeration String) (pkt : VoicePacket) : Option Waiting :=
  let srcID := sourceID inboundIDFunc pkt
  if pkt.type ≠ 1 ∧ pkt.type ≠ 9 then none
  else if srcID = 0 then none
  else if cfg.targetTG = 0 then none
  else some ⟨now, order, encoderKey rt srcID pkt, srcID, pkt.data⟩

def handleVoiceLocked (w : Waiting) (s : Session σ) (setting : Setting) : Session σ × List Packet × Setting :=
  let (s, terminators, setting) := expireLocked w.now w.order s setting
  match selectState rt s w.key w.srcID with
  | none => (s, terminators, setting)
  | some selected =>
    let (state, drawn) := restartIfIdle rt w.now selected
    let (state, packets, setting) := encodeVoice rt w.now w.data state setting
    ({ s with encoders := s.encoders.insert w.key state, drawn }, terminators ++ packets, setting)

structure State (σ : Type) where
  cfg : DeviceConfig
  session : Session σ := {}
  waiting : Option Waiting := none
  sent : List Packet := []

/-- `receive` is a packet up to the lock and `enter` the rest of it; `expire` is a
`handleDMRPacket` that gets to `expireLocked`.  The last two come with the replacements while
they hold the lock. -/
inductive Event where
  | configure (cfg : DeviceConfig)
  | receive (inboundIDFunc : Option (UInt32 → String → UInt32)) (now : Time) (order : Enumeration String) (pkt : VoicePacket)
  | enter (upcoming : List (Option DeviceConfig))
  | expire (now : Time) (order : Enumeration String) (upcoming : List (Option DeviceConfig))
  | close

def State.leave (s : State σ) (waiting : Option Waiting) (result : Session σ × List Packet × Setting) : State σ where
  cfg := result.2.2.last
  session := result.1
  waiting := waiting
  sent := s.sent ++ result.2.1

def State.step (s : State σ) : Event → State σ
  | .configure cfg => { s with cfg }
  | .receive inboundIDFunc now order pkt =>
    match s.waiting with
    | some _ => s
    | none => { s with waiting := handleNRLPacket rt s.cfg inboundIDFunc now order pkt }
  | .enter upcoming =>
    match s.waiting with
    | none => s
    | some w =>
      if s.session.closed then s.leave none (s.session, [], ⟨s.cfg, upcoming⟩)
      else s.leave none (handleVoiceLocked rt w s.session ⟨s.cfg, upcoming⟩)
  | .expire now order upcoming =>
    if s.session.closed then s.leave s.waiting (s.session, [], ⟨s.cfg, upcoming⟩)
    else s.leave s.waiting (expireLocked now order s.session ⟨s.cfg, upcoming⟩)
  | .close => { s with session := { s.session with closed := true } }

end

end Ipsc2Mmdvm.Nrl.Reconfigured
