import Ipsc2Mmdvm.Mmdvm.ServerSteps

namespace Ipsc2Mmdvm.Mmdvm

open Data Proto Option

/-! `Reaches` says what a handler can do to the session table: a session of the new table was in the
old one with the same state, or the handler put it there or into its state itself. -/

def Reaches (before after : Sessions) (entered : Ref → ServerState → Prop) : Prop :=
  before.next ≤ after.next ∧ ∀ key sess, after.find key = some sess →
    (∃ old, before.find old = some sess ∧ (after.deref sess).state = (before.deref sess).state) ∨
      entered sess (after.deref sess).state

section

variable {sessions middle after : Sessions} {entered later : Ref → ServerState → Prop} {f : Session → Session}
  {state : ServerState} {addr : UDPAddr}

theorem Reaches.refl : Reaches sessions sessions entered := ⟨le_rfl, fun key _ present => .inl ⟨key, present, rfl⟩⟩

theorem Reaches.mono (reaches : Reaches sessions after entered)
    (weaker : ∀ sess state, entered sess state → later sess state) : Reaches sessions after later :=
  ⟨reaches.1, fun key sess present => (reaches.2 key sess present).imp_right (weaker _ _)⟩

theorem Reaches.trans (first : Reaches sessions middle fun _ _ => False)
    (second : Reaches middle after entered) : Reaches sessions after entered := by
  refine ⟨le_trans first.1 second.1, fun key sess present => ?_⟩
  rcases second.2 key sess present with ⟨old, known, same⟩ | new
  · rcases first.2 old sess known with ⟨older, known', same'⟩ | impossible
    · exact .inl ⟨older, known', same.trans same'⟩
    · exact impossible.elim
  · exact .inr new

theorem reaches_modify {target : Ref} (sets : (f (sessions.deref target)).state = state) :
    Reaches sessions (sessions.modify target f) fun sess state' => sess = target ∧ state' = state := by
  refine ⟨le_rfl, fun key sess present => ?_⟩
  by_cases same : sess = target
  · subst same
    exact .inr ⟨rfl, by simp [sets]⟩
  · exact .inl ⟨key, present, by simp [same]⟩

theorem reaches_modify_keeping {target : Ref} (keeps : (f (sessions.deref target)).state = (sessions.deref target).state) :
    Reaches sessions (sessions.modify target f) fun _ _ => False := by
  refine ⟨le_rfl, fun key sess present => .inl ⟨key, present, ?_⟩⟩
  by_cases same : sess = target
  · subst same
    simp [keeps]
  · simp [same]

theorem reaches_delete (key : String) : Reaches sessions (sessions.delete key) fun _ _ => False := by
  refine ⟨le_rfl, fun other sess present => .inl ⟨other, ?_, by simp⟩⟩
  simp only [PtrMap.find_delete] at present
  split at present
  · cases present
  · exact present

theorem Reaches.store {key old : String} {sess : Ref} (reaches : Reaches sessions middle fun _ _ => False)
    (known : sessions.find old = some sess)
    (same : (middle.deref sess).state = (sessions.deref sess).state) :
    Reaches sessions (middle.store key sess) fun _ _ => False := by
  have stored : sess < middle.next := lt_of_lt_of_le (PtrMap.lt_next known) reaches.1
  refine ⟨by simpa [PtrMap.store, stored] using reaches.1, fun other found present => ?_⟩
  rw [PtrMap.find_store stored] at present
  split at present
  · cases present
    exact .inl ⟨old, known, by simpa using same⟩
  · simpa using reaches.2 other found present

theorem reaches_enter (sets : ∀ sess, (f sess).state = state) : Reaches sessions (enter sessions addr f)
      fun sess state' => sess = (sessions.find addr.string).getD sessions.next ∧ state' = state := by
  simp only [enter, getOrCreateSessionLocked]
  cases known : sessions.find addr.string with
  | some target =>
    exact (reaches_modify_keeping rfl).trans (reaches_modify (sets _))
  | none =>
    refine ⟨by simp [PtrMap.store, PtrMap.alloc, PtrMap.modify], fun key sess present => ?_⟩
    rw [PtrMap.find_modify, PtrMap.find_store (Nat.lt_succ_self _)] at present
    split at present
    · cases present
      exact .inr ⟨rfl, by simp [sets]⟩
    · have older : sess ≠ sessions.next := (PtrMap.lt_next (m := sessions) present).ne
      exact .inl ⟨key, present, by simp [older]⟩

theorem reaches_rebind {oldKey : String} {sess : Ref} (known : sessions.find oldKey = some sess) :
    Reaches sessions (rebindSessionLocked sessions oldKey addr sess) fun _ _ => False := by
  simp only [rebindSessionLocked]
  split
  · exact .refl
  · refine .store (.trans ?_ (reaches_modify_keeping rfl)) known ?_
    · split
      · exact reaches_delete oldKey
      · exact .refl
    · split <;> simp

theorem reaches_boundSession {bound : Sessions} {order : Enumeration String} {dmrid : UInt32} {found : Option Ref}
    (result : boundSession sessions order addr dmrid = (bound, found)) :
    Reaches sessions bound fun _ _ => False := by
  rcases boundSession_cases result with ⟨rfl, _⟩ | ⟨old, sess, known, _, rfl, _⟩
  · exact .refl
  · exact reaches_rebind known

theorem reaches_setOffline (key : String) : Reaches sessions (setOffline sessions key).1 fun _ _ => False := by
  simp only [setOffline]
  split
  · exact .refl
  · exact reaches_delete key

end

section

variable (cfg : ServerConfig) (sha256 : Bytes → Digest)

def Entered (sessions : Sessions) (event : ServerEvent) (sess : Ref) : ServerState → Prop
  | .idle => False
  | .sentChallenge => True
  | .awaitConfig => acceptedAuth cfg sha256 sessions event = some sess
  | .ready => ∃ addr, acceptedConfig event = some addr ∧
      sess = (sessions.find addr.string).getD sessions.next

variable {cfg sha256} {h : Server} {sessions : Sessions} {event : ServerEvent} {result : Sessions × List Effect}

theorem ServerStep.reaches (step : ServerStep cfg sha256 h event result) :
    Reaches h.sessions result.1 (Entered cfg sha256 h.sessions event) := by
  have nothing (after : Sessions) (reaches : Reaches h.sessions after fun _ _ => False) :
      Reaches h.sessions after (Entered cfg sha256 h.sessions event) := reaches.mono fun _ _ => False.elim
  cases step with
  | ignored | refused => exact .refl
  | offline key => exact nothing _ (reaches_setOffline key)
  | challenged challenge =>
    refine (reaches_enter fun _ => rfl).mono fun _ _ enters => ?_
    rw [enters.2]
    trivial
  | authenticated sess known accepted =>
    refine (reaches_enter fun _ => rfl).mono fun _ _ enters => ?_
    rw [enters.2, enters.1, known]
    exact accepted
  | configured info accepted =>
    refine (reaches_enter fun _ => rfl).mono fun _ _ enters => ?_
    rw [enters.2]
    exact ⟨_, accepted, enters.1⟩
  | pinged found _ touched | forwarded found _ touched =>
    exact nothing _ ((reaches_boundSession found).trans (reaches_modify_keeping (by rw [touched]; rfl)))

def Quiet (effects : List Effect) : Prop :=
  ∀ sess sourceKey pkt, .handleOutboundPacketFrom sess sourceKey pkt ∉ effects

theorem quiet_setOffline (key : String) : Quiet (setOffline sessions key).2 := by
  simp only [setOffline]
  split <;> simp [Quiet]

theorem ServerStep.ready {sess : Ref} {sourceKey : String} {pkt : Packet} (step : ServerStep cfg sha256 h event result)
    (forwards : .handleOutboundPacketFrom sess sourceKey pkt ∈ result.2) :
    ∃ key, h.sessions.find key = some sess ∧ (h.sessions.deref sess).state = .ready := by
  cases step with
  | ignored => cases forwards
  | offline key => exact absurd forwards (quiet_setOffline key sess sourceKey pkt)
  | refused => simp [sendNAK] at forwards
  | challenged => simp at forwards
  | authenticated | configured => simp [sendACK] at forwards
  | pinged => simp at forwards
  | forwarded found ready =>
    simp only [List.mem_cons, List.not_mem_nil, reduceCtorEq, or_false, false_or,
      Effect.handleOutboundPacketFrom.injEq] at forwards
    obtain ⟨rfl, -, -⟩ := forwards
    rcases boundSession_cases found with ⟨rfl, known⟩ | ⟨old, other, known, ready, _, same⟩
    · exact ⟨_, known.symm, ready⟩
    · cases same
      exact ⟨old, known, ready⟩

variable (cfg sha256) {a : Audit}

structure Audit where
  server : Server
  authenticated : List Ref

def Audit.new : Audit := ⟨newMMDVMServer, []⟩

def Audit.step (a : Audit) (event : ServerEvent) : Audit where
  server := (a.server.handle cfg sha256 event).1
  authenticated := (acceptedAuth cfg sha256 a.server.sessions event).toList ++ a.authenticated

def Audit.Passed (a : Audit) (state : ServerState) : Prop :=
  ∀ key sess, a.server.sessions.find key = some sess →
    (a.server.sessions.deref sess).state = state → sess ∈ a.authenticated

def Audit.ForwardsAuthenticated (a : Audit) (event : ServerEvent) : Prop :=
  ∀ sess sourceKey pkt,
    .handleOutboundPacketFrom sess sourceKey pkt ∈ (a.server.handle cfg sha256 event).2 →
      sess ∈ a.authenticated

def Audit.ConfigAuthenticated (a : Audit) (event : ServerEvent) : Prop :=
  ∀ addr, acceptedConfig event = some addr →
    ∃ sess ∈ a.authenticated, a.server.sessions.find addr.string = some sess

/-- An RPTC is accepted while the session of its address waits for one or is ready. -/
def Audit.ConfigExpected (a : Audit) (event : ServerEvent) : Prop :=
  ((acceptedConfig event).all fun addr => (a.server.sessions.find addr.string).any fun sess =>
    (a.server.sessions.deref sess).state == .awaitConfig ||
      (a.server.sessions.deref sess).state == .ready) = true

instance (a : Audit) (event : ServerEvent) : Decidable (a.ConfigExpected event) :=
  inferInstanceAs (Decidable (_ = true))

structure Audit.Sound (a : Audit) : Prop where
  allocated : ∀ sess ∈ a.authenticated, sess < a.server.sessions.next
  awaiting : a.Passed .awaitConfig

theorem acceptedAuth_allocated {event : ServerEvent} {sess : Ref}
    (accepted : acceptedAuth cfg sha256 sessions event = some sess) : sess < sessions.next := by
  cases event with
  | datagram addr data env =>
    simp only [acceptedAuth] at accepted
    split at accepted
    · exact PtrMap.lt_next (filter_eq_some_iff.mp accepted).1
    · cases accepted
  | tick | expire => cases accepted

theorem acceptedAuth_of_config {addr : UDPAddr} (config : acceptedConfig event = some addr) :
    acceptedAuth cfg sha256 sessions event = none := by
  obtain ⟨data, env, rfl, _, four, _⟩ := acceptedConfig_cases config
  have different : ascii "RPTC" ≠ ascii "RPTK" := by decide
  simp [acceptedAuth, four, different]

theorem handle_config {addr : UDPAddr} (config : acceptedConfig event = some addr) :
    ∃ sess, sess = (h.sessions.find addr.string).getD h.sessions.next ∧
      (h.handle cfg sha256 event).1.sessions.find addr.string = some sess ∧
      ((h.handle cfg sha256 event).1.sessions.deref sess).state = .ready := by
  obtain ⟨data, env, rfl, long, valid, dispatched⟩ := handlePacket_config cfg sha256 config
  have found := getOrCreateSessionLocked_find h.sessions addr
  refine ⟨_, (getOrCreateSessionLocked_sess h.sessions addr), ?_, ?_⟩ <;>
    simp [Server.handle, dispatched, handleConfig, show ¬ data.length < 8 by omega, valid, found]

theorem Audit.reaches_step (a : Audit) (event : ServerEvent) :
    Reaches a.server.sessions (a.step cfg sha256 event).server.sessions (Entered cfg sha256 a.server.sessions event) :=
  (serverStep_handle cfg sha256 a.server event).reaches

theorem Audit.Sound.step (sound : a.Sound) (event : ServerEvent) : (a.step cfg sha256 event).Sound := by
  have reaches := a.reaches_step cfg sha256 event
  refine ⟨fun sess member => lt_of_lt_of_le ?_ reaches.1, fun key sess present state => ?_⟩
  · rcases List.mem_append.mp member with new | old
    · exact acceptedAuth_allocated cfg sha256 (by simpa using new)
    · exact sound.allocated sess old
  · rcases reaches.2 key sess present with ⟨old, known, same⟩ | entered
    · exact List.mem_append_right _ (sound.awaiting old sess known (same.symm.trans state))
    · rw [state] at entered
      exact List.mem_append_left _ (mem_toList.mpr entered)

theorem Audit.passed_step_iff (sound : a.Sound) (passed : a.Passed .ready) (event : ServerEvent) :
    (a.step cfg sha256 event).Passed .ready ↔ a.ConfigAuthenticated event := by
  constructor
  · intro passed' addr config
    obtain ⟨sess, same, present, ready⟩ := handle_config cfg sha256 (h := a.server) config
    have member := passed' addr.string sess present ready
    simp only [Audit.step, acceptedAuth_of_config cfg sha256 config, toList_none, List.nil_append] at member
    refine ⟨sess, member, ?_⟩
    cases known : a.server.sessions.find addr.string with
    | some old => simp [same, known]
    | none =>
      have fresh := sound.allocated sess member
      rw [same, known, getD_none] at fresh
      exact absurd fresh (lt_irrefl _)
  · intro configured key sess present ready
    rcases (a.reaches_step cfg sha256 event).2 key sess present with
      ⟨old, known, same⟩ | entered
    · exact List.mem_append_right _ (passed old sess known (same.symm.trans ready))
    · rw [ready] at entered
      obtain ⟨addr, config, same⟩ := entered
      obtain ⟨owner, member, known⟩ := configured addr config
      rw [known, getD_some] at same
      exact List.mem_append_right _ (same ▸ member)

theorem Audit.ConfigExpected.authenticated {event : ServerEvent} (expected : a.ConfigExpected event) (sound : a.Sound)
    (passed : a.Passed .ready) :
    a.ConfigAuthenticated event := by
  intro addr config
  rw [Audit.ConfigExpected, config, all_some, any_eq_true] at expected
  obtain ⟨sess, known, state⟩ := expected
  rw [Bool.or_eq_true, beq_iff_eq, beq_iff_eq] at state
  rcases state with awaiting | ready
  · exact ⟨sess, sound.awaiting addr.string sess known awaiting, known⟩
  · exact ⟨sess, passed addr.string sess known ready, known⟩

theorem Audit.forwards_of_passed (passed : a.Passed .ready) (event : ServerEvent) :
    a.ForwardsAuthenticated cfg sha256 event := by
  intro sess sourceKey pkt forwards
  obtain ⟨key, known, ready⟩ := (serverStep_handle cfg sha256 a.server event).ready forwards
  exact passed key sess known ready

theorem Audit.sound_new : Audit.new.Sound :=
  ⟨by simp [Audit.new], fun key sess present => by simp [Audit.new, newMMDVMServer] at present⟩

theorem Audit.passed_new (state : ServerState) : Audit.new.Passed state :=
  fun key sess present => by simp [Audit.new, newMMDVMServer] at present

end

/-- In every run of the server from an empty session table in which an RPTC is
accepted only while the session of its address waits for one or is ready: in
each state reached every ready session has passed `handleAuth`, and each packet
forwarded was received for a session that has. -/
theorem ready_sessions_authenticated (cfg : ServerConfig) (sha256 : Bytes → Digest)
    (events : List ServerEvent)
    (expected : EachStep (Audit.step cfg sha256) Audit.ConfigExpected Audit.new events) :
    EachState (Audit.step cfg sha256) (Audit.Passed · .ready) Audit.new events ∧
      EachStep (Audit.step cfg sha256) (Audit.ForwardsAuthenticated cfg sha256) Audit.new events := by
  have preserved (a : Audit) (event : ServerEvent) (safe : a.Sound ∧ a.Passed .ready)
      (configured : a.ConfigExpected event) :
      (a.step cfg sha256 event).Sound ∧ (a.step cfg sha256 event).Passed .ready := by
    obtain ⟨sound, passed⟩ := safe
    refine ⟨sound.step cfg sha256 event, ?_⟩
    exact (Audit.passed_step_iff cfg sha256 sound passed event).mpr (configured.authenticated sound passed)
  have invariant := expected.eachState preserved ⟨Audit.sound_new, Audit.passed_new .ready⟩
  exact ⟨invariant.mono fun a safe => safe.2,
    invariant.eachStep fun a event safe => Audit.forwards_of_passed cfg sha256 safe.2 event⟩

theorem ready_sessions_authenticated_login :
    let cfg : ServerConfig := { name := "master", id := 9, password := ascii "secret" }
    let digest : Digest :=
      #v[0x30, 0x7D, 0x90, 0xCD, 0xB5, 0x88, 0x45, 0x33, 0x37, 0x59, 0x59,
        0xFB, 0xA5, 0x51, 0x78, 0x2B, 0x1D, 0x36, 0xA4, 0xB4, 0xB0, 0x44,
        0x5D, 0x01, 0x04, 0xDC, 0x63, 0xA5, 0xEC, 0xDC, 0xF3, 0x33]
    let sha256 : Bytes → Digest := fun _ => digest
    let env : Env :=
      { clock := fun _ => 1000, challenge := some #v[1, 2, 3, 4], order := .increasing String }
    let addr : UDPAddr := { ip := "192.0.2.1", port := 62031 }
    let moved : UDPAddr := { ip := "192.0.2.1", port := 62032 }
    let voice : Packet := { signature := dmrd, src := 3, dst := 91, repeater := 1, groupCall := true }
    let events : List ServerEvent :=
      [.datagram addr (ascii "RPTL" ++ [0, 0, 0, 1]) env,
        .datagram addr (ascii "RPTK" ++ [0, 0, 0, 1] ++ digest.toList) env,
        .datagram addr (ascii "RPTC" ++ [0, 0, 0, 1]) env,
        .datagram addr voice.encode env,
        .datagram moved (ascii "RPTPING" ++ [0, 0, 0, 1]) env]
    let a := runFrom (Audit.step cfg sha256) Audit.new events
    (a.server.sessions.find moved.string = some 0 ∧ (a.server.sessions.deref 0).state = .ready) ∧
      EachState (Audit.step cfg sha256) (Audit.Passed · .ready) Audit.new events ∧
        EachStep (Audit.step cfg sha256) (Audit.ForwardsAuthenticated cfg sha256) Audit.new events :=
  ⟨by decide +kernel, ready_sessions_authenticated _ _ _ (by decide +kernel)⟩

/-- The hotspot at `addr` sends a configuration for DMR ID 1 and nothing else,
and its next packet is forwarded. -/
theorem unauthenticated_packet_forwarded :
    let cfg : ServerConfig := { name := "master", id := 9, password := ascii "secret" }
    let addr : UDPAddr := { ip := "192.0.2.1", port := 62031 }
    let env : Env :=
      { clock := fun _ => 1000, challenge := none, order := .increasing String }
    let config : ServerEvent := .datagram addr (ascii "RPTC" ++ [0, 0, 0, 1]) env
    let voice : Packet := { signature := dmrd, src := 3, dst := 91, repeater := 1, groupCall := true }
    let sha256 : Bytes → Digest := fun _ => Vector.replicate 32 0
    let a := runFrom (Audit.step cfg sha256) Audit.new [config]
    a.server.sessions.find addr.string = some 0 ∧
      (a.server.sessions.deref 0).state = .ready ∧ a.authenticated = [] ∧
      .handleOutboundPacketFrom 0 "mmdvm:master:1" voice ∈
        (a.server.handle cfg sha256 (.datagram addr voice.encode env)).2 := by
  decide

end Ipsc2Mmdvm.Mmdvm
