import Ipsc2Mmdvm.Nrl.Destination

namespace Ipsc2Mmdvm.Nrl.Reconfigured

open Data Dmr Proto GoMap List

/-! An encoder state gets its terminator when it expires, and only then: `close` drops the states
that are left. -/

def AllEnded (sent : List Packet) : Prop := ∀ header ∈ sent, IsHeader header → Terminated sent header.streamID

instance (sent : List Packet) : Decidable (AllEnded sent) := inferInstanceAs (Decidable (∀ header ∈ sent, _))

structure Setting.Bound (setting : Setting) : Prop where
  inForce : setting.cfg.targetTG ≠ 0
  later : ∀ cfg ∈ setting.upcoming.reduceOption, cfg.targetTG ≠ 0

section

variable {σ : Type} {rt : Runtime σ} {setting : Setting} {sent more packets : List Packet} {id : UInt64}
  {state next : EncodeState σ} {key : String}

theorem Setting.Bound.every (bound : setting.Bound) : setting.Every (· ≠ 0) fun _ => True :=
  ⟨⟨bound.inForce, trivial⟩, fun cfg member => ⟨bound.later cfg member, trivial⟩⟩

theorem Setting.Every.bound (every : setting.Every (· ≠ 0) fun _ => True) : setting.Bound :=
  ⟨every.inForce.1, fun cfg member => (every.later cfg member).1⟩

theorem Setting.Bound.last (bound : setting.Bound) : setting.last.targetTG ≠ 0 := bound.every.last.1

structure Speaks (state next : EncodeState σ) (packets : List Packet) (setting : Setting) : Prop where
  owned : ∀ packet ∈ packets, packet.streamID = state.streamID.toUInt64
  stream : next.streamID = state.streamID
  headerSent : state.headerSent = true → next.headerSent = true
  bound : setting.Bound

structure Covers (encoders : GoMap String (EncodeState σ)) (sent : List Packet) : Prop where
  live : ∀ key state, encoders.lookup key = some state → state.headerSent = true
  covered : ∀ header ∈ sent, IsHeader header → Terminated sent header.streamID ∨ Known encoders header.streamID

variable {s : Session σ}

theorem Covers.expire (covers : Covers s.encoders sent) (bound : setting.Bound) (now : Time) (order : Enumeration String) :
    Covers (expireLocked now order s setting).1.encoders (sent ++ (expireLocked now order s setting).2.1) ∧
      (expireLocked now order s setting).2.2.Bound := by
  obtain ⟨emits, ends, noHeader⟩ := expireLocked_emits bound.every now order s
  refine ⟨⟨fun key state found => covers.live key state (lookup_expired found), fun header member kind => ?_⟩, emits.every.bound⟩
  obtain earlier | new := mem_append.mp member
  · obtain terminated | ⟨key, state, found, stream⟩ := covers.covered header earlier kind
    · exact .inl (terminated.mono fun packet => mem_append_left _)
    · cases idle : state.idle now with
      | true =>
        have ended := ends (fun _ bound => bound) key state found idle (covers.live key state found)
        rw [stream] at ended
        exact .inl (ended.mono fun packet => mem_append_right _)
      | false => exact .inr ⟨key, state, lookup_deleteWhere_eq_some.mpr ⟨found, idle⟩, stream⟩
  · exact absurd kind (noHeader header new)

theorem idle_expired {now : Time} {order : Enumeration String}
    (found : (expireLocked now order s setting).1.encoders.lookup key = some state) : state.idle now = false := by
  have kept : (s.encoders.deleteWhere fun _ state => state.idle now).lookup key = some state := found
  exact (lookup_deleteWhere_eq_some.mp kept).2

theorem restartIfIdle_of_purged {now : Time} {srcID : UInt32} {selected : EncodeState σ × Nat}
    (purged : ∀ state, s.encoders.lookup key = some state → state.idle now = false)
    (chosen : selectState rt s key srcID = some selected) :
    s.encoders.lookup key = some (restartIfIdle rt now selected).1 ∨ s.encoders.lookup key = none := by
  simp only [selectState] at chosen
  split at chosen
  · rename_i state found
    cases chosen
    have fresh := purged state found
    left
    simp only [restartIfIdle, fresh, Bool.false_eq_true, if_false, found]
  · rename_i missing
    exact .inr missing

theorem Covers.speak {encoders : GoMap String (EncodeState σ)} (covers : Covers encoders sent)
    (origin : encoders.lookup key = some state ∨ encoders.lookup key = none) (speaks : Speaks state next packets setting)
    (headerSent : next.headerSent = true) :
    Covers (encoders.insert key next) (sent ++ packets) := by
  have own : Known (encoders.insert key next) state.streamID.toUInt64 :=
    ⟨key, next, by rw [lookup_insert_eq, if_pos rfl], by rw [speaks.stream]⟩
  refine ⟨fun other found present => ?_, fun header member kind => ?_⟩
  · rcases lookup_insert_eq_some.mp present with ⟨_, rfl⟩ | ⟨_, present⟩
    · exact headerSent
    · exact covers.live other found present
  · obtain earlier | new := mem_append.mp member
    · obtain terminated | ⟨other, known, found, stream⟩ := covers.covered header earlier kind
      · exact .inl (terminated.mono fun packet => mem_append_left _)
      · right
        by_cases same : other = key
        · subst same
          obtain found' | missing := origin
          · cases found.symm.trans found'
            exact stream ▸ own
          · cases found.symm.trans missing
        · exact ⟨other, known, by rw [lookup_insert_eq, if_neg same, found], stream⟩
    · rw [speaks.owned header new]
      exact .inr own

theorem Covers.handleVoiceLocked (covers : Covers s.encoders sent) (bound : setting.Bound) (w : Waiting) :
    Covers (handleVoiceLocked rt w s setting).1.encoders (sent ++ (handleVoiceLocked rt w s setting).2.1) ∧
      (handleVoiceLocked rt w s setting).2.2.Bound := by
  obtain ⟨covers', bound'⟩ := covers.expire bound w.now w.order
  cases chosen : selectState rt (expireLocked w.now w.order s setting).1 w.key w.srcID with
  | none =>
    simp only [Reconfigured.handleVoiceLocked, chosen]
    exact ⟨covers', bound'⟩
  | some selected =>
    have origin := restartIfIdle_of_purged (fun state found => idle_expired found) chosen
    obtain ⟨emits, stream, headerSent, -⟩ :=
      @encodeVoice_emits σ rt _ _ _ bound'.every w.now w.data (restartIfIdle rt w.now selected).1
    simp only [Reconfigured.handleVoiceLocked, chosen]
    rw [← append_assoc]
    have bound := emits.every.bound
    exact ⟨covers'.speak origin ⟨emits.owned, stream, fun _ => headerSent, bound⟩ headerSent, bound⟩

structure Covered (s : State σ) : Prop where
  bound : s.cfg.targetTG ≠ 0
  covers : Covers s.session.encoders s.sent

theorem Covered.step {s : State σ} (covered : Covered s) {event : Event}
    (replaced : ∀ cfg ∈ event.replacements, cfg.targetTG ≠ 0) : Covered (s.step rt event) := by
  cases event with
  | configure cfg => exact ⟨replaced cfg (mem_singleton_self cfg), covered.covers⟩
  | receive inboundIDFunc now order pkt =>
    simp only [State.step]
    split
    · exact covered
    · exact ⟨covered.bound, covered.covers⟩
  | enter upcoming =>
    have bound : Setting.Bound ⟨s.cfg, upcoming⟩ := ⟨covered.bound, replaced⟩
    simp only [State.step]
    split
    · exact covered
    · rename_i w waits
      split
      · exact ⟨bound.last, by simpa [State.leave] using covered.covers⟩
      · obtain ⟨covers, bound'⟩ := @Covers.handleVoiceLocked σ rt _ _ _ covered.covers bound w
        exact ⟨bound'.last, covers⟩
  | expire now order upcoming =>
    have bound : Setting.Bound ⟨s.cfg, upcoming⟩ := ⟨covered.bound, replaced⟩
    simp only [State.step]
    split
    · exact ⟨bound.last, by simpa [State.leave] using covered.covers⟩
    · obtain ⟨covers, bound'⟩ := covered.covers.expire bound now order
      exact ⟨bound'.last, covers⟩
  | close => exact ⟨covered.bound, covered.covers⟩

theorem covered_start {cfg : DeviceConfig} (bound : cfg.targetTG ≠ 0) : Covered ({ cfg } : State σ) where
  bound := bound
  covers := ⟨fun _ _ found => (nomatch found), fun _ member => (nomatch member)⟩

theorem covered_runFrom {s : State σ} (covered : Covered s) {events : List Event}
    (replaced : ∀ event ∈ events, ∀ cfg ∈ event.replacements, cfg.targetTG ≠ 0) :
    Covered (runFrom (State.step rt) s events) := by
  induction events generalizing s with
  | nil => exact covered
  | cons event events ih =>
    exact ih (covered.step (replaced event mem_cons_self)) fun later member =>
      replaced later (mem_cons_of_mem event member)

theorem sent_step_of_closed {s : State σ} (closed : s.session.closed = true) (event : Event) :
    (s.step rt event).session.closed = true ∧ (s.step rt event).sent = s.sent := by
  cases event with
  | configure cfg => exact ⟨closed, rfl⟩
  | receive inboundIDFunc now order pkt =>
    simp only [State.step]
    split <;> exact ⟨closed, rfl⟩
  | enter upcoming =>
    simp only [State.step]
    split
    · exact ⟨closed, rfl⟩
    · rw [if_pos closed]
      exact ⟨closed, append_nil _⟩
  | expire now order upcoming =>
    simp only [State.step]
    rw [if_pos closed]
    exact ⟨closed, append_nil _⟩
  | close => exact ⟨rfl, rfl⟩

theorem sent_runFrom_of_closed {s : State σ} (closed : s.session.closed = true) (events : List Event) :
    (runFrom (State.step rt) s events).sent = s.sent := by
  induction events generalizing s with
  | nil => rfl
  | cons event events ih =>
    obtain ⟨stays, same⟩ := @sent_step_of_closed σ rt s closed event
    exact (ih stays).trans same

end

/-- For every session whose configurations all have a talkgroup: if no encoder state is left when
it is closed, every stream with a header has its terminator by then.  Whatever is left, nothing
is sent later. -/
theorem nrl_close_ends_calls {σ : Type} (rt : Runtime σ) (cfg : DeviceConfig) (bound : cfg.targetTG ≠ 0)
    (events later : List Event) (replaced : ∀ event ∈ events, ∀ cfg ∈ event.replacements, cfg.targetTG ≠ 0) :
    let before : State σ := runFrom (State.step rt) { cfg } events
    let after := before.step rt .close
    ((∀ key, before.session.encoders.lookup key = none) → AllEnded after.sent) ∧
      (runFrom (State.step rt) after later).sent = after.sent := by
  intro before after
  refine ⟨fun idle header member kind => ?_, sent_runFrom_of_closed rfl later⟩
  have covered : Covered before := covered_runFrom (covered_start bound) replaced
  obtain terminated | ⟨key, state, found, -⟩ := covered.covers.covered header member kind
  · exact terminated
  · cases (idle key).symm.trans found

theorem lookup_of_card_keys {σ : Type} {encoders : GoMap String (EncodeState σ)} (empty : encoders.keys.card = 0) (key : String) :
    encoders.lookup key = none := by
  cases found : encoders.lookup key with
  | none => rfl
  | some state =>
    have listed : key ∈ encoders.keys := mem_keys_iff.mpr ⟨state, found⟩
    rw [Finset.card_eq_zero.mp empty] at listed
    cases listed

theorem nrl_close_ends_calls_expired : (runFrom (State.step plainRuntime) { cfg := ⟨2, 46001, 1⟩ }
        (speech 2000000000 ++ [.expire 4060000000 (.increasing String) []])).sent.length = 3 ∧
      AllEnded ((runFrom (State.step plainRuntime) { cfg := ⟨2, 46001, 1⟩ }
        (speech 2000000000 ++ [.expire 4060000000 (.increasing String) []])).step plainRuntime .close).sent := by
  have ends := (nrl_close_ends_calls plainRuntime ⟨2, 46001, 1⟩ (by decide)
    (speech 2000000000 ++ [.expire 4060000000 (.increasing String) []]) [] (by decide +kernel)).1
  exact ⟨by decide +kernel, ends (lookup_of_card_keys (by decide +kernel))⟩

/-- A session that is closed in the middle of a talkspurt. -/
theorem nrl_close_leaves_call :
    let before : State Unit := runFrom (State.step plainRuntime) { cfg := ⟨2, 46001, 1⟩ } (speech 2000000000)
    ¬AllEnded (before.step plainRuntime .close).sent := by
  decide +kernel

end Ipsc2Mmdvm.Nrl.Reconfigured
