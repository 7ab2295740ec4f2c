import Ipsc2Mmdvm.Nrl.Reconfiguration
import Ipsc2Mmdvm.Nrl.Talkspurts

namespace Ipsc2Mmdvm.Nrl.Reconfigured

open Data Dmr Proto List GoMap

/-! Every packet is built from the configuration of its moment.  A talkspurt keeps its destination
and ends with a terminator while replacements of the configuration keep the talkgroup and the slot,
and may lose both otherwise. -/

def target (cfg : DeviceConfig) : UInt32 × Bool := (cfg.targetTG, cfg.slot == 2)

def Addressed (dest : UInt32 × Bool) (packet : Packet) : Prop := packet.dst = dest.1.toUInt64 ∧ packet.slot = dest.2

def IsHeader (packet : Packet) : Prop :=
  packet.frameType = 2 ∧ packet.dtypeOrVSeq = dataTypeVoiceLCHeader.toUInt64

instance (packet : Packet) : Decidable (IsHeader packet) := inferInstanceAs (Decidable (_ ∧ _))

def Headed (sent : List Packet) (id : UInt64) : Prop := ∃ header ∈ sent, IsHeader header ∧ header.streamID = id

/-- Every packet has a header with its stream identifier, and the destination and the slot of
each one. -/
def KeepsDestination (sent : List Packet) : Prop :=
  ∀ packet ∈ sent, Headed sent packet.streamID ∧
    ∀ header ∈ sent, IsHeader header → header.streamID = packet.streamID →
      packet.dst = header.dst ∧ packet.slot = header.slot

instance (sent : List Packet) (id : UInt64) : Decidable (Headed sent id) :=
  inferInstanceAs (Decidable (∃ header ∈ sent, _))

instance (sent : List Packet) : Decidable (KeepsDestination sent) := inferInstanceAs (Decidable (∀ packet ∈ sent, _))

def Terminated (sent : List Packet) (id : UInt64) : Prop :=
  ∃ last ∈ sent, last.isTerminator = true ∧ last.streamID = id

instance (sent : List Packet) (id : UInt64) : Decidable (Terminated sent id) :=
  inferInstanceAs (Decidable (∃ last ∈ sent, _))

section

variable {σ : Type} (rt : Runtime σ)

def Event.purge (s : State σ) : Event → Option Time
  | .enter _ => if s.session.closed then none else s.waiting.map Waiting.now
  | .expire now _ _ => if s.session.closed then none else some now
  | _ => none

/-- Every encoder state that expires in the step after its header gets a terminator. -/
def Ends (s : State σ) (event : Event) : Prop :=
  ∀ now key state, event.purge s = some now → s.session.encoders.lookup key = some state → state.idle now = true →
    state.headerSent = true → ∃ packet ∈ (s.step rt event).sent.drop s.sent.length,
      packet.isTerminator = true ∧ packet.streamID = state.streamID.toUInt64

def State.Busy (s : State σ) : Prop :=
  s.waiting.isSome = true ∨ ∃ key state, s.session.encoders.lookup key = some state ∧ state.headerSent = true

def Event.replacements : Event → List DeviceConfig
  | .configure cfg => [cfg]
  | .enter upcoming => upcoming.reduceOption
  | .expire _ _ upcoming => upcoming.reduceOption
  | _ => []

/-- Replacements keep the talkgroup and the slot while the session is busy, and the identifiers
that the generator answers next have not been used. -/
structure Steady (s : State σ) (event : Event) : Prop where
  keeps : s.Busy → ∀ cfg ∈ event.replacements, target cfg = target s.cfg
  fresh : ∀ upcoming, event = .enter upcoming → ∀ packet ∈ s.sent,
    packet.streamID ≠ (rt.randomStreamID s.session.drawn).toUInt64 ∧
      packet.streamID ≠ (rt.randomStreamID (s.session.drawn + 1)).toUInt64

structure Setting.Keeps (dest : UInt32 × Bool) (setting : Setting) : Prop where
  inForce : target setting.cfg = dest
  later : ∀ cfg ∈ setting.upcoming.reduceOption, target cfg = dest

structure Sends (dest : UInt32 × Bool) (own : UInt64 → Prop) (packets : List Packet) (setting : Setting) : Prop where
  addressed : ∀ packet ∈ packets, Addressed dest packet
  owned : ∀ packet ∈ packets, own packet.streamID
  keeps : setting.Keeps dest

def Suits (talkgroup : UInt32 → Prop) (slot : Bool → Prop) (cfg : DeviceConfig) : Prop :=
  talkgroup cfg.targetTG ∧ slot (cfg.slot == 2)

structure Setting.Every (talkgroup : UInt32 → Prop) (slot : Bool → Prop) (setting : Setting) : Prop where
  inForce : Suits talkgroup slot setting.cfg
  later : ∀ cfg ∈ setting.upcoming.reduceOption, Suits talkgroup slot cfg

structure Emits (talkgroup : UInt32 → Prop) (slot : Bool → Prop) (own : UInt64 → Prop) (packets : List Packet)
    (setting : Setting) : Prop where
  aimed : ∀ packet ∈ packets, (∃ tg, talkgroup tg ∧ packet.dst = tg.toUInt64) ∧ slot packet.slot
  owned : ∀ packet ∈ packets, own packet.streamID
  every : setting.Every talkgroup slot

variable {rt} {dest : UInt32 × Bool} {setting : Setting} {own : UInt64 → Prop} {packets more : List Packet} {id : UInt64}
  {talkgroup : UInt32 → Prop} {slot : Bool → Prop} {cfg : DeviceConfig} {now : Time} {key : String} {state : EncodeState σ} {order : Enumeration String}
  {waiting : Option Waiting} {session : Session σ} {event : Event} {upcoming : List (Option DeviceConfig)}

section

variable (every : setting.Every talkgroup slot)

include every

theorem Setting.Every.read : Suits talkgroup slot setting.read.1 ∧ setting.read.2.Every talkgroup slot := by
  obtain ⟨cfg, upcoming⟩ := setting
  cases upcoming with
  | nil => exact ⟨every.inForce, every⟩
  | cons change upcoming =>
    cases change with
    | none => exact ⟨every.inForce, every.inForce, every.later⟩
    | some replaced =>
      have first := every.later replaced mem_cons_self
      exact ⟨first, first, fun cfg member => every.later cfg (mem_cons_of_mem replaced member)⟩

theorem Setting.Every.readFields :
    Suits talkgroup slot setting.readFields.1 ∧ setting.readFields.2.Every talkgroup slot := by
  obtain ⟨first, every⟩ := every.read
  obtain ⟨second, every⟩ := every.read
  exact ⟨⟨first.1, second.2⟩, every.read.2⟩

theorem Setting.Every.last : Suits talkgroup slot setting.last := by
  obtain ⟨cfg, upcoming⟩ := setting
  induction upcoming generalizing cfg with
  | nil => exact every.inForce
  | cons change upcoming ih => exact ih _ (Setting.Every.read every).2

theorem Setting.Every.nothing : Emits talkgroup slot own [] setting := ⟨nofun, nofun, every⟩

theorem Setting.Every.one (suits : Suits talkgroup slot cfg)
    (srcID streamID seq : UInt32) (frameType dtypeOrVSeq : UInt64) (dmrData : DMRData) :
    Emits talkgroup slot (· = streamID.toUInt64)
      [streamPacket srcID cfg.targetTG cfg.slot streamID seq frameType dtypeOrVSeq dmrData] setting :=
  ⟨forall_mem_singleton.mpr ⟨⟨_, suits.1, rfl⟩, suits.2⟩, forall_mem_singleton.mpr rfl, every⟩

end

theorem Emits.append {next : Setting} (first : Emits talkgroup slot own packets setting)
    (second : Emits talkgroup slot own more next) : Emits talkgroup slot own (packets ++ more) next :=
  ⟨forall_mem_append.mpr ⟨first.aimed, second.aimed⟩, forall_mem_append.mpr ⟨first.owned, second.owned⟩, second.every⟩

theorem Emits.mono {other : UInt64 → Prop} (emits : Emits talkgroup slot own packets setting)
    (implies : ∀ id, own id → other id) : Emits talkgroup slot other packets setting :=
  ⟨emits.aimed, fun packet member => implies _ (emits.owned packet member), emits.every⟩

theorem Terminated.mono (terminated : Terminated packets id) (subset : ∀ packet ∈ packets, packet ∈ more) :
    Terminated more id := by
  obtain ⟨last, member, kind⟩ := terminated
  exact ⟨last, subset last member, kind⟩

theorem not_isHeader_newTerminatorPacket (srcID dstID : UInt32) (slot : Int) (colorCode : UInt8) (streamID seq : UInt32) :
    ¬IsHeader (newTerminatorPacket srcID dstID slot colorCode streamID seq) := by
  intro header
  have kind : dataTypeTerminatorWithLC.toUInt64 = dataTypeVoiceLCHeader.toUInt64 := header.2
  exact absurd kind (by decide)

theorem emitTerminatorLocked_emits (every : setting.Every talkgroup slot) (state : EncodeState σ) :
    Emits talkgroup slot (· = state.streamID.toUInt64) (emitTerminatorLocked state setting).1
        (emitTerminatorLocked state setting).2 ∧
      ((∀ tg, talkgroup tg → tg ≠ 0) → state.headerSent = true →
        Terminated (emitTerminatorLocked state setting).1 state.streamID.toUInt64) ∧
      ∀ packet ∈ (emitTerminatorLocked state setting).1, ¬IsHeader packet := by
  obtain ⟨checked, every'⟩ := every.read
  obtain ⟨built, every''⟩ := every'.readFields
  simp only [emitTerminatorLocked]
  cases headerSent : state.headerSent with
  | false => exact ⟨every.nothing, by simp, by simp⟩
  | true =>
    by_cases unbound : setting.read.1.targetTG = 0
    · simp only [unbound]
      exact ⟨every'.nothing, fun bound => absurd unbound (bound _ checked.1), by simp⟩
    · have some : (setting.read.1.targetTG == 0) = false := beq_false_of_ne unbound
      simp only [some, Bool.not_true, Bool.false_eq_true, if_false]
      refine ⟨every''.one built .., fun _ _ => ⟨_, mem_singleton_self _, rfl, rfl⟩, ?_⟩
      exact forall_mem_singleton.mpr (not_isHeader_newTerminatorPacket _ _ _ _ _ _)

def Known (encoders : GoMap String (EncodeState σ)) (id : UInt64) : Prop :=
  ∃ key state, encoders.lookup key = some state ∧ state.streamID.toUInt64 = id

section

variable (every : setting.Every talkgroup slot)

include every

theorem expireEncoder_emits (encoders : GoMap String (EncodeState σ)) (now : Time) (key : String) :
    Emits talkgroup slot (Known encoders) (expireEncoder encoders now key setting).1 (expireEncoder encoders now key setting).2 ∧
      ((∀ tg, talkgroup tg → tg ≠ 0) → ∀ state, encoders.lookup key = some state → state.idle now = true →
        state.headerSent = true → Terminated (expireEncoder encoders now key setting).1 state.streamID.toUInt64) ∧
      ∀ packet ∈ (expireEncoder encoders now key setting).1, ¬IsHeader packet := by
  simp only [expireEncoder]
  cases found : encoders.lookup key with
  | none => exact ⟨every.nothing, by simp, by simp⟩
  | some state =>
    simp only
    obtain ⟨emits, ends, noHeader⟩ := emitTerminatorLocked_emits every state
    split
    · refine ⟨emits.mono fun id same => ⟨key, state, found, same.symm⟩, fun bound other same _ headerSent => ?_, noHeader⟩
      cases same
      exact ends bound headerSent
    · rename_i fresh
      refine ⟨every.nothing, fun _ other same idle => ?_, by simp⟩
      cases same
      exact absurd idle fresh

theorem expireEncoders_emits (encoders : GoMap String (EncodeState σ)) (now : Time) (keys : List String) :
    Emits talkgroup slot (Known encoders) (expireEncoders encoders now keys setting).1
        (expireEncoders encoders now keys setting).2 ∧
      ((∀ tg, talkgroup tg → tg ≠ 0) → ∀ key ∈ keys, ∀ state, encoders.lookup key = some state → state.idle now = true →
        state.headerSent = true → Terminated (expireEncoders encoders now keys setting).1 state.streamID.toUInt64) ∧
      ∀ packet ∈ (expireEncoders encoders now keys setting).1, ¬IsHeader packet := by
  induction keys generalizing setting with
  | nil => exact ⟨every.nothing, by simp, by simp [expireEncoders]⟩
  | cons first keys ih =>
    obtain ⟨emits, ends, noHeader⟩ := expireEncoder_emits every encoders now first
    obtain ⟨emits', ends', noHeader'⟩ := ih emits.every
    refine ⟨emits.append emits', fun bound key member state found idle headerSent => ?_,
      forall_mem_append.mpr ⟨noHeader, noHeader'⟩⟩
    obtain rfl | later := mem_cons.mp member
    · exact (ends bound state found idle headerSent).mono fun packet => mem_append_left _
    · exact (ends' bound key later state found idle headerSent).mono fun packet => mem_append_right _

theorem expireLocked_emits (now : Time) (order : Enumeration String) (s : Session σ) :
    Emits talkgroup slot (Known s.encoders) (expireLocked now order s setting).2.1 (expireLocked now order s setting).2.2 ∧
      ((∀ tg, talkgroup tg → tg ≠ 0) → ∀ key state, s.encoders.lookup key = some state → state.idle now = true →
        state.headerSent = true → Terminated (expireLocked now order s setting).2.1 state.streamID.toUInt64) ∧
      ∀ packet ∈ (expireLocked now order s setting).2.1, ¬IsHeader packet := by
  obtain ⟨emits, ends, noHeader⟩ := expireEncoders_emits every s.encoders now (order.order s.encoders.keys)
  refine ⟨emits, fun bound key state found => ?_, noHeader⟩
  exact ends bound key (order.mem_order.mpr (mem_keys_iff.mpr ⟨state, found⟩)) state found

theorem sendHeader_emits (state : EncodeState σ) :
    Emits talkgroup slot (· = state.streamID.toUInt64) (sendHeader state setting).2.1 (sendHeader state setting).2.2 ∧
      (sendHeader state setting).1.streamID = state.streamID ∧ (sendHeader state setting).1.headerSent = true ∧
      (state.headerSent = false → Headed (sendHeader state setting).2.1 state.streamID.toUInt64) := by
  obtain ⟨built, every'⟩ := every.readFields
  simp only [sendHeader]
  cases headerSent : state.headerSent with
  | true => exact ⟨every.nothing, rfl, headerSent, by simp⟩
  | false =>
    simp only [Nrl.sendHeader, headerSent, Bool.false_eq_true, if_false]
    exact ⟨every'.one built .., trivial, trivial, fun _ => ⟨_, mem_singleton_self _, ⟨rfl, rfl⟩, rfl⟩⟩

theorem encodeFrame_emits (state : EncodeState σ) :
    Emits talkgroup slot (· = state.streamID.toUInt64) (encodeFrame rt state setting).2.1 (encodeFrame rt state setting).2.2 ∧
      (encodeFrame rt state setting).1.streamID = state.streamID ∧
      (encodeFrame rt state setting).1.headerSent = state.headerSent := by
  obtain ⟨built, every'⟩ := every.readFields
  simp only [encodeFrame, Nrl.encodeFrame]
  split
  · exact ⟨every.nothing, rfl, rfl⟩
  · split
    · exact ⟨every.nothing, rfl, rfl⟩
    · exact ⟨every'.one built .., rfl, rfl⟩

theorem encodeLoop_emits (fuel : Nat) (state : EncodeState σ) :
    Emits talkgroup slot (· = state.streamID.toUInt64) (encodeLoop rt fuel state setting).2.1
        (encodeLoop rt fuel state setting).2.2 ∧
      (encodeLoop rt fuel state setting).1.streamID = state.streamID ∧
      (encodeLoop rt fuel state setting).1.headerSent = state.headerSent := by
  induction fuel generalizing state setting with
  | zero => exact ⟨every.nothing, rfl, rfl⟩
  | succ fuel ih =>
    simp only [encodeLoop]
    split
    · exact ⟨every.nothing, rfl, rfl⟩
    · obtain ⟨frame, streamID, headerSent⟩ := @encodeFrame_emits σ rt setting talkgroup slot every state
      obtain ⟨rest, streamID', headerSent'⟩ := ih frame.every (encodeFrame rt state setting).1
      rw [streamID] at rest
      exact ⟨frame.append rest, streamID'.trans streamID, headerSent'.trans headerSent⟩

theorem encodeVoice_emits (now : Time) (data : List UInt8) (state : EncodeState σ) :
    Emits talkgroup slot (· = state.streamID.toUInt64) (encodeVoice rt now data state setting).2.1
        (encodeVoice rt now data state setting).2.2 ∧
      (encodeVoice rt now data state setting).1.streamID = state.streamID ∧
      (encodeVoice rt now data state setting).1.headerSent = true ∧
      (state.headerSent = false → Headed (encodeVoice rt now data state setting).2.1 state.streamID.toUInt64) := by
  simp only [encodeVoice]
  generalize begun : { state with lastSeen := now, pcmBuffer := state.pcmBuffer ++ data.map alawToLinear } = buffered
  have same : buffered.streamID = state.streamID ∧ buffered.headerSent = state.headerSent := by
    rw [← begun]
    exact ⟨rfl, rfl⟩
  obtain ⟨header, streamID, headerSent, headed⟩ := sendHeader_emits every buffered
  obtain ⟨voice, streamID', headerSent'⟩ := @encodeLoop_emits σ rt _ _ _ header.every
    (sendHeader buffered setting).1.pcmBuffer.length (sendHeader buffered setting).1
  rw [streamID] at voice
  rw [← same.1, ← same.2]
  refine ⟨header.append voice, streamID'.trans streamID, headerSent'.trans headerSent, fun unsent => ?_⟩
  obtain ⟨packet, member, kind⟩ := headed unsent
  exact ⟨packet, mem_append_left _ member, kind⟩

end

theorem Setting.Keeps.every (keeps : setting.Keeps dest) : setting.Every (· = dest.1) (· = dest.2) :=
  ⟨Prod.mk.inj keeps.inForce, fun cfg member => Prod.mk.inj (keeps.later cfg member)⟩

theorem Setting.Keeps.last (keeps : setting.Keeps dest) : target setting.last = dest :=
  Prod.ext keeps.every.last.1 keeps.every.last.2

theorem Emits.sends (emits : Emits (· = dest.1) (· = dest.2) own packets setting) : Sends dest own packets setting where
  addressed packet member := by
    obtain ⟨⟨tg, rfl, same⟩, slot⟩ := emits.aimed packet member
    exact ⟨same, slot⟩
  owned := emits.owned
  keeps := ⟨Prod.ext emits.every.inForce.1 emits.every.inForce.2, fun cfg member =>
    Prod.ext (emits.every.later cfg member).1 (emits.every.later cfg member).2⟩

theorem restartIfIdle_selectState {s : Session σ} {srcID : UInt32} {selected : EncodeState σ × Nat}
    (chosen : selectState rt s key srcID = some selected) (now : Time) :
    s.encoders.lookup key = some (restartIfIdle rt now selected).1 ∨
      ((restartIfIdle rt now selected).1.headerSent = false ∧
        ((restartIfIdle rt now selected).1.streamID = rt.randomStreamID s.drawn ∨
          (restartIfIdle rt now selected).1.streamID = rt.randomStreamID (s.drawn + 1))) := by
  simp only [selectState] at chosen
  split at chosen
  · rename_i state found
    cases chosen
    simp only [restartIfIdle]
    split
    · exact .inr ⟨rfl, .inl rfl⟩
    · exact .inl found
  · split at chosen
    · cases chosen
    · cases chosen
      simp only [restartIfIdle]
      split
      · exact .inr ⟨rfl, .inr rfl⟩
      · exact .inr ⟨rfl, .inl rfl⟩

theorem lookup_expired {s : Session σ} (found : (expireLocked now order s setting).1.encoders.lookup key = some state) :
    s.encoders.lookup key = some state :=
  (lookup_deleteWhere_eq_some.mp found).1

theorem Headed.mono {sent : List Packet} {id : UInt64} (headed : Headed sent id) (subset : ∀ packet ∈ sent, packet ∈ more) :
    Headed more id := by
  obtain ⟨header, member, kind⟩ := headed
  exact ⟨header, subset header member, kind⟩

variable (rt) in
def Begun (drawn : Nat) (packets : List Packet) (id : UInt64) : Prop :=
  (id = (rt.randomStreamID drawn).toUInt64 ∨ id = (rt.randomStreamID (drawn + 1)).toUInt64) ∧ Headed packets id

theorem handleVoiceLocked_sends (keeps : setting.Keeps dest) (w : Waiting) (s : Session σ)
    (live : ∀ key state, s.encoders.lookup key = some state → state.headerSent = true) :
    let result := handleVoiceLocked rt w s setting
    Sends dest (fun id => Known s.encoders id ∨ Begun rt s.drawn result.2.1 id) result.2.1 result.2.2 ∧
      (∀ key state, result.1.encoders.lookup key = some state → state.headerSent = true ∧
        (Known s.encoders state.streamID.toUInt64 ∨ Begun rt s.drawn result.2.1 state.streamID.toUInt64)) ∧
      ∀ packet ∈ (expireLocked w.now w.order s setting).2.1, packet ∈ result.2.1 := by
  intro result
  have expired := (expireLocked_emits keeps.every w.now w.order s).1
  have purged : ∀ key state, (expireLocked w.now w.order s setting).1.encoders.lookup key = some state →
      state.headerSent = true ∧ Known s.encoders state.streamID.toUInt64 := fun key state found =>
    ⟨live key state (lookup_expired found), key, state, lookup_expired found, rfl⟩
  cases chosen : selectState rt (expireLocked w.now w.order s setting).1 w.key w.srcID with
  | none =>
    have same : result = expireLocked w.now w.order s setting := by
      simp only [result, handleVoiceLocked, chosen]
    rw [same]
    refine ⟨(expired.mono fun id known => .inl known).sends, fun key state found => ?_, fun _ member => member⟩
    exact ⟨(purged key state found).1, .inl (purged key state found).2⟩
  | some selected =>
    let state := (restartIfIdle rt w.now selected).1
    obtain ⟨voice, streamID, headerSent, headed⟩ := @encodeVoice_emits σ rt _ _ _ expired.every w.now w.data state
    have packets : result.2.1 = (expireLocked w.now w.order s setting).2.1 ++
        (encodeVoice rt w.now w.data state (expireLocked w.now w.order s setting).2.2).2.1 := by
      simp only [result, handleVoiceLocked, chosen, state]
    have later : result.2.2 = (encodeVoice rt w.now w.data state (expireLocked w.now w.order s setting).2.2).2.2 := by
      simp only [result, handleVoiceLocked, chosen, state]
    have encoders : result.1.encoders = (expireLocked w.now w.order s setting).1.encoders.insert w.key
        (encodeVoice rt w.now w.data state (expireLocked w.now w.order s setting).2.2).1 := by
      simp only [result, handleVoiceLocked, chosen, state]
    -- The stream of the packet is a live one, or new and opened by its header.
    have origin : Known s.encoders state.streamID.toUInt64 ∨ Begun rt s.drawn result.2.1 state.streamID.toUInt64 := by
      obtain found | ⟨unsent, drawn⟩ := restartIfIdle_selectState chosen w.now
      · exact .inl (purged w.key state found).2
      · refine .inr ⟨?_, (headed unsent).mono fun packet member => ?_⟩
        · exact drawn.imp (congrArg UInt32.toUInt64) (congrArg UInt32.toUInt64)
        · rw [packets]
          exact mem_append_right _ member
    refine ⟨?_, ?_, fun packet member => ?_⟩
    · have whole := (expired.mono fun id known => .inl known).append (voice.mono fun id same => same ▸ origin)
      rw [← packets, ← later] at whole
      exact whole.sends
    · intro key other found
      rw [encoders, lookup_insert_eq_some] at found
      rcases found with ⟨_, rfl⟩ | ⟨_, found⟩
      · exact ⟨headerSent, streamID ▸ origin⟩
      · exact ⟨(purged key other found).1, .inl (purged key other found).2⟩
    · rw [packets]
      exact mem_append_left _ member

structure Kept (s : State σ) : Prop where
  bound : s.Busy → s.cfg.targetTG ≠ 0
  live : ∀ key state, s.session.encoders.lookup key = some state → state.headerSent = true
  headed : ∀ id, Known s.session.encoders id → Headed s.sent id
  aimed : ∀ packet ∈ s.sent, Known s.session.encoders packet.streamID → Addressed (target s.cfg) packet
  destination : KeepsDestination s.sent

variable {s : State σ}

theorem Kept.busy_of_known (kept : Kept s) {id : UInt64} (known : Known s.session.encoders id) : s.Busy := by
  obtain ⟨key, state, found, -⟩ := known
  exact .inr ⟨key, state, found, kept.live key state found⟩

theorem targetTG_of_target {other : DeviceConfig} (same : target cfg = target other) : cfg.targetTG = other.targetTG :=
  congrArg Prod.fst same

theorem Kept.reconfigure (kept : Kept s) (keeps : s.Busy → target cfg = target s.cfg) : Kept { s with cfg } where
  bound busy := by
    rw [targetTG_of_target (keeps busy)]
    exact kept.bound busy
  live := kept.live
  headed := kept.headed
  aimed packet member known := by
    rw [keeps (kept.busy_of_known known)]
    exact kept.aimed packet member known
  destination := kept.destination

theorem Addressed.same {first second : Packet} (left : Addressed dest first) (right : Addressed dest second) :
    first.dst = second.dst ∧ first.slot = second.slot :=
  ⟨left.1.trans right.1.symm, left.2.trans right.2.symm⟩

theorem Kept.leave (kept : Kept s) (bound : s.cfg.targetTG ≠ 0) {result : Session σ × List Packet × Setting}
    {begun : UInt64 → Prop} (opened : ∀ id, begun id → (∀ packet ∈ s.sent, packet.streamID ≠ id) ∧ Headed result.2.1 id)
    (sends : Sends (target s.cfg) (fun id => Known s.session.encoders id ∨ begun id) result.2.1 result.2.2)
    (live : ∀ key state, result.1.encoders.lookup key = some state → state.headerSent = true ∧
      (Known s.session.encoders state.streamID.toUInt64 ∨ begun state.streamID.toUInt64)) :
    Kept (s.leave waiting result) := by
  have same : target (s.leave waiting result).cfg = target s.cfg := sends.keeps.last
  have older : ∀ packet ∈ s.sent, packet ∈ (s.leave waiting result).sent := fun _ => mem_append_left _
  have newer : ∀ packet ∈ result.2.1, packet ∈ (s.leave waiting result).sent := fun _ => mem_append_right _
  have headed : ∀ id, Known s.session.encoders id ∨ begun id → Headed (s.leave waiting result).sent id := by
    intro id origin
    obtain known | new := origin
    · exact (kept.headed id known).mono older
    · exact (opened id new).2.mono newer
  -- An older packet of a stream that still sends went to the same target.
  have aimed : ∀ packet ∈ s.sent, Known s.session.encoders packet.streamID ∨ begun packet.streamID →
      Addressed (target s.cfg) packet := by
    intro packet member origin
    obtain known | new := origin
    · exact kept.aimed packet member known
    · exact absurd rfl ((opened _ new).1 packet member)
  refine ⟨?_, ?_, ?_, ?_, ?_⟩
  · intro _
    rw [targetTG_of_target same]
    exact bound
  · exact fun key state found => (live key state found).1
  · intro id known
    obtain ⟨key, state, found, rfl⟩ := known
    exact headed _ (live key state found).2
  · intro packet member known
    obtain ⟨key, state, found, stream⟩ := known
    rw [same]
    obtain old | new := mem_append.mp member
    · exact aimed packet old (stream ▸ (live key state found).2)
    · exact sends.addressed packet new
  · intro packet member
    obtain old | new := mem_append.mp member
    · refine ⟨(kept.destination packet old).1.mono older, fun header headerMember kind stream => ?_⟩
      obtain oldHeader | newHeader := mem_append.mp headerMember
      · exact (kept.destination packet old).2 header oldHeader kind stream
      · exact (aimed packet old (stream ▸ sends.owned header newHeader)).same (sends.addressed header newHeader)
    · refine ⟨headed _ (sends.owned packet new), fun header headerMember kind stream => ?_⟩
      obtain oldHeader | newHeader := mem_append.mp headerMember
      · exact (sends.addressed packet new).same (aimed header oldHeader (stream ▸ sends.owned packet new))
      · exact (sends.addressed packet new).same (sends.addressed header newHeader)

theorem targetTG_of_waiting {inboundIDFunc : Option (UInt32 → String → UInt32)} {pkt : VoicePacket}
    (passed : (handleNRLPacket rt cfg inboundIDFunc now order pkt).isSome = true) : cfg.targetTG ≠ 0 := by
  simp only [handleNRLPacket] at passed
  split at passed
  · cases passed
  · split at passed
    · cases passed
    · split at passed
      · cases passed
      · rename_i bound
        exact bound

theorem expireLocked_of_idle (idle : ∀ key, session.encoders.lookup key = none) (now : Time) (order : Enumeration String) :
    expireLocked now order session setting =
      ({ session with encoders := session.encoders.deleteWhere fun _ state => state.idle now }, [], setting) := by
  have keys : order.order session.encoders.keys = [] := by
    rw [eq_nil_iff_forall_not_mem]
    intro key member
    obtain ⟨state, found⟩ := mem_keys_iff.mp (order.mem_order.mp member)
    rw [idle key] at found
    cases found
  simp only [expireLocked, keys, expireEncoders]

theorem Kept.leave_silent (kept : Kept s) {setting : Setting} (busy : waiting.isSome = true → s.Busy)
    (live : ∀ key state, session.encoders.lookup key = some state → s.session.encoders.lookup key = some state)
    (keeps : s.Busy → target setting.last = target s.cfg) : Kept (s.leave waiting (session, [], setting)) := by
  have known : ∀ id, Known session.encoders id → Known s.session.encoders id := by
    intro id known
    obtain ⟨key, state, found, stream⟩ := known
    exact ⟨key, state, live key state found, stream⟩
  have before : (s.leave waiting (session, [], setting)).Busy → s.Busy := by
    intro after
    obtain waits | ⟨key, state, found, headerSent⟩ := after
    · exact busy waits
    · exact .inr ⟨key, state, live key state found, headerSent⟩
  have sent : (s.leave waiting (session, [], setting)).sent = s.sent := append_nil _
  refine ⟨?_, ?_, ?_, ?_, ?_⟩
  · intro after
    have same : target (s.leave waiting (session, [], setting)).cfg = target s.cfg := keeps (before after)
    rw [targetTG_of_target same]
    exact kept.bound (before after)
  · exact fun key state found => kept.live key state (live key state found)
  · rw [sent]
    exact fun id found => kept.headed id (known id found)
  · rw [sent]
    intro packet member found
    have same : target (s.leave waiting (session, [], setting)).cfg = target s.cfg :=
      keeps (kept.busy_of_known (known _ found))
    rw [same]
    exact kept.aimed packet member (known _ found)
  · rw [sent]
    exact kept.destination

theorem Steady.within (steady : Steady rt s event) (busy : s.Busy) (inside : event.replacements = upcoming.reduceOption) :
    Setting.Keeps (target s.cfg) ⟨s.cfg, upcoming⟩ :=
  ⟨rfl, fun cfg member => steady.keeps busy cfg (inside ▸ member)⟩

theorem Kept.enter (kept : Kept s) {w : Waiting} (waits : s.waiting = some w) (steady : Steady rt s (.enter upcoming)) :
    Kept (s.leave none (handleVoiceLocked rt w s.session ⟨s.cfg, upcoming⟩)) := by
  have busy : s.Busy := .inl (by rw [waits]; rfl)
  obtain ⟨sends, live, -⟩ := @handleVoiceLocked_sends σ rt _ _ (steady.within busy rfl) w s.session kept.live
  refine kept.leave (kept.bound busy) (fun id begun => ⟨fun packet member same => ?_, begun.2⟩) sends live
  obtain ⟨first, second⟩ := steady.fresh upcoming rfl packet member
  exact begun.1.elim (fun drawn => first (same.trans drawn)) fun drawn => second (same.trans drawn)

theorem Kept.expire (kept : Kept s) (steady : Steady rt s (.expire now order upcoming)) :
    Kept (s.leave s.waiting (expireLocked now order s.session ⟨s.cfg, upcoming⟩)) := by
  by_cases busy : s.Busy
  · have emits := (expireLocked_emits (steady.within busy rfl).every now order s.session).1
    refine @Kept.leave σ _ s kept (kept.bound busy) (expireLocked now order s.session ⟨s.cfg, upcoming⟩) (fun _ => False)
      nofun (emits.mono fun id known => .inl known).sends fun key state found => ?_
    have before := lookup_expired found
    exact ⟨kept.live key state before, .inl ⟨key, state, before, rfl⟩⟩
  · have idle : ∀ key, s.session.encoders.lookup key = none := by
      intro key
      cases found : s.session.encoders.lookup key with
      | none => rfl
      | some state => exact absurd (.inr ⟨key, state, found, kept.live key state found⟩) busy
    rw [expireLocked_of_idle idle]
    apply kept.leave_silent
    · exact fun waits => .inl waits
    · exact fun key state found => (lookup_deleteWhere_eq_some.mp found).1
    · exact fun working => absurd working busy

theorem Kept.step (kept : Kept s) (steady : Steady rt s event) : Kept (s.step rt event) := by
  cases event with
  | configure cfg => exact kept.reconfigure fun busy => steady.keeps busy cfg (mem_singleton_self cfg)
  | receive inboundIDFunc now order pkt =>
    simp only [State.step]
    split
    · exact kept
    · refine ⟨fun busy => ?_, kept.live, kept.headed, kept.aimed, kept.destination⟩
      obtain passed | working := busy
      · exact targetTG_of_waiting passed
      · exact kept.bound (.inr working)
  | enter upcoming =>
    simp only [State.step]
    split
    · exact kept
    · rename_i w waits
      split
      · exact kept.leave_silent (by simp) (fun _ _ found => found) fun busy => (steady.within busy rfl).last
      · exact kept.enter waits steady
  | expire now order upcoming =>
    simp only [State.step]
    split
    · exact kept.leave_silent .inl (fun _ _ found => found) fun busy => (steady.within busy rfl).last
    · exact kept.expire steady
  | close => exact ⟨kept.bound, kept.live, kept.headed, kept.aimed, kept.destination⟩

theorem Kept.ends (kept : Kept s) (steady : Steady rt s event) : Ends rt s event := by
  intro now key state purge found idle headerSent
  have busy : s.Busy := .inr ⟨key, state, found, headerSent⟩
  have bound : ∀ tg, tg = (target s.cfg).1 → tg ≠ 0 := fun tg same => same ▸ kept.bound busy
  cases event with
  | configure | receive | close => cases purge
  | enter upcoming =>
    simp only [Event.purge] at purge
    split at purge
    · cases purge
    · rename_i opened
      obtain ⟨w, waits, rfl⟩ := Option.map_eq_some_iff.mp purge
      obtain ⟨-, -, subset⟩ := @handleVoiceLocked_sends σ rt _ _ (steady.within busy rfl) w s.session kept.live
      obtain ⟨packet, member, terminator⟩ :=
        (expireLocked_emits (steady.within busy rfl).every w.now w.order s.session).2.1 bound key state found idle headerSent
      refine ⟨packet, ?_, terminator⟩
      simp only [State.step, waits, if_neg opened, State.leave, drop_left]
      exact subset packet member
  | expire time order upcoming =>
    simp only [Event.purge] at purge
    split at purge
    · cases purge
    · rename_i opened
      cases purge
      obtain ⟨packet, member, terminator⟩ :=
        (expireLocked_emits (steady.within busy rfl).every now order s.session).2.1 bound key state found idle headerSent
      refine ⟨packet, ?_, terminator⟩
      simp only [State.step, if_neg opened, State.leave, drop_left]
      exact member

theorem kept_start (cfg : DeviceConfig) : Kept ({ cfg } : State σ) where
  bound busy := by
    obtain waits | ⟨key, state, found, -⟩ := busy
    · cases waits
    · cases found
  live key state found := by cases found
  headed id known := by
    obtain ⟨key, state, found, -⟩ := known
    cases found
  aimed packet member := by cases member
  destination packet member := by cases member

end

/-- For every session, with its configuration replaced at any moment: if replacements keep the
talkgroup and the slot while a packet waits for the lock or a stream lacks its terminator, and
no identifier is drawn twice, then all packets of a stream go where its header went, and no
stream expires without a terminator. -/
theorem nrl_talkspurts_keep_destination {σ : Type} (rt : Runtime σ) (cfg : DeviceConfig) (events : List Event)
    (steady : EachStep (State.step rt) (Steady rt) { cfg } events) :
    EachState (State.step rt) (fun s => KeepsDestination s.sent) { cfg } events ∧
      EachStep (State.step rt) (Ends rt) { cfg } events := by
  have kept := steady.eachState (fun s event kept steady => Kept.step kept steady) (kept_start cfg)
  refine ⟨kept.mono fun s kept => kept.destination, ?_⟩
  exact steady.of_invariant (fun s event kept steady => Kept.step kept steady)
    (fun s event kept steady => Kept.ends kept steady) (kept_start cfg)

theorem not_ends_of_silent {σ : Type} {rt : Runtime σ} {s : State σ} {now : Time} {order : Enumeration String}
    {upcoming : List (Option DeviceConfig)} (opened : s.session.closed = false) (key : String)
    (expired : (s.session.encoders.lookup key).map (fun state => (state.idle now, state.headerSent)) = some (true, true))
    (silent : (s.step rt (.expire now order upcoming)).sent.length = s.sent.length) :
    ¬Ends rt s (.expire now order upcoming) := by
  intro ends
  obtain ⟨state, found, both⟩ := Option.map_eq_some_iff.mp expired
  have purge : Event.purge s (.expire now order upcoming) = some now := by
    simp only [Event.purge, opened, Bool.false_eq_true, if_false]
  obtain ⟨packet, member, -⟩ := ends now key state purge found (congrArg Prod.fst both) (congrArg Prod.snd both)
  rw [drop_of_length_le (Nat.le_of_eq silent)] at member
  cases member

def speech (now : Time) : List Event :=
  [.receive none now (.increasing String) ⟨1, 4601234, "BH4AAA", 10, "", List.replicate 500 0x55⟩, .enter []]

theorem nrl_talkspurts_keep_destination_new_colour :
    let events := speech 2000000000 ++ [.configure ⟨2, 46001, 7⟩] ++ speech 2060000000 ++
      [.expire 4060000000 (.increasing String) [some ⟨2, 46001, 9⟩]]
    (runFrom (State.step plainRuntime) { cfg := ⟨2, 46001, 1⟩ } events).sent.length = 4 ∧
      EachState (State.step plainRuntime) (fun s => KeepsDestination s.sent) { cfg := ⟨2, 46001, 1⟩ } events ∧
      EachStep (State.step plainRuntime) (Ends plainRuntime) { cfg := ⟨2, 46001, 1⟩ } events := by
  intro events
  have strict : EachStep (State.step plainRuntime) (fun s event =>
      (∀ cfg ∈ event.replacements, target cfg = target s.cfg) ∧ ∀ packet ∈ s.sent,
        packet.streamID ≠ (plainRuntime.randomStreamID s.session.drawn).toUInt64 ∧
          packet.streamID ≠ (plainRuntime.randomStreamID (s.session.drawn + 1)).toUInt64)
      { cfg := ⟨2, 46001, 1⟩ } events := by
    decide +kernel
  have steady : EachStep (State.step plainRuntime) (Steady plainRuntime) { cfg := ⟨2, 46001, 1⟩ } events :=
    @EachStep.of_invariant _ _ _ _ _ _ (fun _ => True) strict (fun _ _ _ _ => trivial) _
      (fun s event _ met => ⟨fun _ => met.1, fun _ _ => met.2⟩) trivial
  exact ⟨by decide +kernel, nrl_talkspurts_keep_destination plainRuntime ⟨2, 46001, 1⟩ events steady⟩

/-- A replacement in the middle of a talkspurt: with another talkgroup the next voice packet leaves
the stream, and without a talkgroup the stream expires in silence. -/
theorem nrl_talkspurt_loses_destination :
    let begun : State Unit := runFrom (State.step plainRuntime) { cfg := ⟨2, 46001, 1⟩ } (speech 2000000000)
    let moved := runFrom (State.step plainRuntime) (begun.step plainRuntime (.configure ⟨2, 46002, 1⟩)) (speech 2060000000)
    let cleared := begun.step plainRuntime (.configure ⟨2, 0, 1⟩)
    ¬KeepsDestination moved.sent ∧ ¬Ends plainRuntime cleared (.expire 4060000000 (.increasing String) []) := by
  intro begun moved cleared
  refine ⟨by decide +kernel, ?_⟩
  exact not_ends_of_silent (by decide +kernel) "4601234:BH4AAA:10" (by decide +kernel) (by decide +kernel)

end Ipsc2Mmdvm.Nrl.Reconfigured
