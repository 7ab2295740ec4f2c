import Ipsc2Mmdvm.Data.Transitions
import Ipsc2Mmdvm.Hytera.Bounds

namespace Ipsc2Mmdvm.Hytera

open Data Proto Server GoMap Finmap

/-! Entries expire by the time their repeater was last seen.  The P2P and DMR ports note that time
whenever they enter an address; the RDAC port does not. -/

def Server.HasEntry (s : Server) (key : String) : Prop :=
  key ∈ s.repeaterP2PAddr.keys ∨ key ∈ s.repeaterDMRAddr.keys ∨ key ∈ s.repeaterRDACAddr.keys

def Server.Listed (s : Server) : Prop := ∀ key, s.HasEntry key → key ∈ s.peerLastSeen.keys

/-- `taken` is the answer of the NRL bridge: the server does not see a datagram that it takes. -/
inductive ServerEvent where
  | p2p (taken : Bool) (clock : Nat → Time) (data : Bytes) (addr : UDPAddr)
  | dmr (taken : Bool) (clock : Nat → Time) (data : Bytes) (addr : UDPAddr)
  | rdac (clock : Nat → Time) (data : Bytes) (addr : UDPAddr)
  | identify (addr : UDPAddr) (now : Time)
  | expire (order : Enumeration String) (now : Time)

def Server.afterwards (s : Server) (result : Checked (Server × List Effect)) : Server :=
  match result with
  | .ok (after, _) => after
  | .error _ => s

def Server.step (cfg : HyteraConfig) (s : Server) : ServerEvent → Server
  | .p2p taken clock data addr => if taken then s else s.afterwards (handleP2P cfg clock s data addr)
  | .dmr taken clock data addr => if taken then s else s.afterwards (dmrLoop cfg clock s data addr)
  | .rdac clock data addr => s.afterwards (rdacLoop clock s data addr)
  | .identify addr now => (startRDACIdentification s addr now).1
  | .expire order now => (expireStalePeers order s now).1

def ServerEvent.ReceivedFrom (key : String) (time : Time) : ServerEvent → Prop
  | .p2p _ clock _ addr => addr.ip = key ∧ ∃ n, clock n = time
  | .dmr _ clock _ addr => addr.ip = key ∧ ∃ n, clock n = time
  | .rdac clock _ addr => addr.ip = key ∧ ∃ n, clock n = time
  | .identify _ _ => False
  | .expire _ _ => False

def SameTables (s after : Server) : Prop :=
  after.repeaterP2PAddr = s.repeaterP2PAddr ∧ after.repeaterDMRAddr = s.repeaterDMRAddr ∧
    after.repeaterRDACAddr = s.repeaterRDACAddr ∧ after.peerLastSeen = s.peerLastSeen

def Refreshes (clock : Nat → Time) (key : String) (s after : Server) : Prop :=
  SameTables s after ∨
    (∃ n, after.peerLastSeen = s.peerLastSeen.insert key (clock n)) ∧ ∀ other, after.HasEntry other → other = key ∨ s.HasEntry other

section

variable {s after : Server} {clock : Nat → Time} {data : Bytes} {addr : UDPAddr} {key : String}

theorem SameTables.hasEntry (same : SameTables s after) : after.HasEntry key ↔ s.HasEntry key := by
  obtain ⟨p2p, dmr, rdac, -⟩ := same
  simp only [Server.HasEntry, p2p, dmr, rdac]

theorem SameTables.listed_iff (same : SameTables s after) : after.Listed ↔ s.Listed := by
  simp only [Server.Listed, same.hasEntry, same.2.2.2]

theorem mem_keys_insert {V : Type} {table : GoMap String V} {value : V} {other : String} :
    other ∈ (table.insert key value).keys ↔ other = key ∨ other ∈ table.keys := by
  rw [mem_keys, mem_insert, mem_keys]

theorem mem_keys_of_insertMissing {table : GoMap String UDPAddr} {value : UDPAddr} {other : String}
    (member : other ∈ (insertMissing table key value).keys) : other = key ∨ other ∈ table.keys := by
  rw [insertMissing] at member
  split at member
  · exact .inr member
  · exact mem_keys_insert.mp member

theorem Refreshes.listed (refreshes : Refreshes clock key s after) (listed : s.Listed) : after.Listed := by
  obtain same | ⟨⟨n, noted⟩, entries⟩ := refreshes
  · exact same.listed_iff.mpr listed
  · intro other entry
    rw [noted, mem_keys_insert]
    exact (entries other entry).imp_right (listed other)

theorem register_refreshes : Refreshes clock addr.ip s (s.register clock addr) := by
  refine .inr ⟨⟨1, rfl⟩, ?_⟩
  intro other entry
  simp only [Server.HasEntry, register, markP2PAssociation, setSession, seen, mem_keys_insert] at entry
  simp only [Server.HasEntry]
  tauto

theorem startup_refreshes (cfg : HyteraConfig) (rdac : Bool) : Refreshes clock addr.ip s (s.startup cfg clock rdac addr) := by
  cases rdac with
  | false =>
    refine .inr ⟨⟨2, rfl⟩, ?_⟩
    intro other entry
    simp only [Server.HasEntry, startup, markP2PAssociation, setSession, seen, mem_keys_insert,
      Bool.false_eq_true, if_false] at entry
    simp only [Server.HasEntry]
    tauto
  | true =>
    refine .inr ⟨⟨2, rfl⟩, ?_⟩
    intro other entry
    simp only [Server.HasEntry, startup, markP2PAssociation, setSession, seen, mem_keys_insert, if_true] at entry
    have missing := @mem_keys_of_insertMissing addr.ip s.repeaterDMRAddr ⟨addr.ip, cfg.dmrPort.toNat, ""⟩ other
    simp only [Server.HasEntry]
    tauto

theorem handleP2PCommand_refreshes (cfg : HyteraConfig) :
    (handleP2PCommand cfg clock s data addr).Ensures fun result => Refreshes clock addr.ip s result.1 := by
  have startup (rdac : Bool) :
      (handleStartup cfg clock s data addr rdac).Ensures fun result => Refreshes clock addr.ip s result.1 := by
    apply ensures_bind
    intro resp _
    apply ensures_bind
    intro redirect _
    exact ensures_pure (startup_refreshes cfg rdac)
  apply ensures_bind
  intro packetType _
  split
  · apply ensures_bind
    intro resp _
    exact ensures_pure register_refreshes
  split
  · exact startup false
  split
  · exact startup true
  · exact ensures_pure (.inl ⟨rfl, rfl, rfl, rfl⟩)

theorem handleP2P_refreshes (cfg : HyteraConfig) :
    (handleP2P cfg clock s data addr).Ensures fun result => Refreshes clock addr.ip s result.1 := by
  apply ensures_bind
  intro ping _
  split
  · apply ensures_bind
    intro resp _
    refine ensures_pure (.inr ⟨⟨0, rfl⟩, ?_⟩)
    intro other entry
    simp only [Server.HasEntry, markP2PAssociation, setSession, seen, mem_keys_insert] at entry
    simp only [Server.HasEntry]
    tauto
  split
  · exact ensures_pure (.inl ⟨rfl, rfl, rfl, rfl⟩)
  · apply ensures_bind
    intro mark _
    split
    · exact handleP2PCommand_refreshes cfg
    · exact ensures_pure (.inl ⟨rfl, rfl, rfl, rfl⟩)

theorem sameTables_cacheTemplate (data : Bytes) : SameTables s (s.cacheTemplate data) := by
  simp only [cacheTemplate]
  split
  · exact ⟨rfl, rfl, rfl, rfl⟩
  split
  · exact ⟨rfl, rfl, rfl, rfl⟩
  split <;> exact ⟨rfl, rfl, rfl, rfl⟩

theorem decodeToMMDVM_sameTables (cfg : HyteraConfig) (now : Time) :
    (s.decodeToMMDVM cfg data now).Ensures fun result => SameTables s result.1 := by
  apply ensures_bind
  intro parsed _
  cases parsed with
  | error | ok => exact ensures_pure (sameTables_cacheTemplate data)

theorem refreshDMR_refreshes : Refreshes clock addr.ip s (s.refreshDMR clock data addr) := by
  simp only [refreshDMR]
  split
  · refine .inr ⟨⟨0, rfl⟩, ?_⟩
    intro other entry
    simp only [Server.HasEntry, seen, mem_keys_insert] at entry
    simp only [Server.HasEntry]
    tauto
  · exact .inr ⟨⟨0, rfl⟩, fun other entry => .inr entry⟩

theorem Refreshes.trans_same {middle : Server} (refreshes : Refreshes clock key s middle) (same : SameTables middle after) :
    Refreshes clock key s after := by
  obtain unchanged | ⟨⟨n, noted⟩, entries⟩ := refreshes
  · obtain ⟨p2p, dmr, rdac, seen⟩ := same
    obtain ⟨p2p', dmr', rdac', seen'⟩ := unchanged
    exact .inl ⟨p2p.trans p2p', dmr.trans dmr', rdac.trans rdac', seen.trans seen'⟩
  · exact .inr ⟨⟨n, same.2.2.2.trans noted⟩, fun other entry => entries other (same.hasEntry.mp entry)⟩

theorem dmrLoop_refreshes (cfg : HyteraConfig) :
    (dmrLoop cfg clock s data addr).Ensures fun result => Refreshes clock addr.ip s result.1 := by
  apply ensures_bind
  intro dmrid _
  refine Checked.Ensures.bind (decodeToMMDVM_sameTables cfg (clock 1)) ?_
  intro result same
  have refreshes := refreshDMR_refreshes.trans_same same
  obtain ⟨after, result⟩ := result
  cases result with
  | ok | error | panic => exact ensures_pure refreshes

theorem sameTables_startRDACIdentification (addr : UDPAddr) (now : Time) :
    SameTables s (startRDACIdentification s addr now).1 := by
  simp only [startRDACIdentification]
  split
  · exact ⟨rfl, rfl, rfl, rfl⟩
  split
  · exact ⟨rfl, rfl, rfl, rfl⟩
  split <;> exact ⟨rfl, rfl, rfl, rfl⟩

theorem rdacLoop_returns (clock : Nat → Time) (data : Bytes) (addr : UDPAddr) (s : Server) :
    (rdacLoop clock s data addr).Returns fun result =>
      SameTables (if data = [] then s else { s with repeaterRDACAddr := s.repeaterRDACAddr.insert addr.ip (plainAddr addr) })
        result.1 := by
  obtain ⟨dmrid, parsed⟩ := parseRDACDMRIDDetailed_inRange data
  simp only [rdacLoop]
  split
  · exact returns_pure ⟨rfl, rfl, rfl, rfl⟩
  · have handshake (s : Server) :
        (handleRDACHandshake clock s data addr).Returns fun result => SameTables s result.1 := by
      simp only [handleRDACHandshake]
      split
      · exact returns_pure (sameTables_startRDACIdentification addr (clock 0))
      split
      · split <;> exact returns_pure ⟨rfl, rfl, rfl, rfl⟩
      · split <;> exact returns_pure ⟨rfl, rfl, rfl, rfl⟩
      · split
        · rw [finishIdentification, parsed]
          cases dmrid <;> exact returns_pure ⟨rfl, rfl, rfl, rfl⟩
        · exact returns_pure ⟨rfl, rfl, rfl, rfl⟩
      · exact returns_pure ⟨rfl, rfl, rfl, rfl⟩
    refine (handshake _).bind ?_
    intro result same
    rw [parsed]
    exact returns_pure same

theorem mem_keys_deleteWhere {V : Type} {table : GoMap String V} {stale : String → Bool} :
    key ∈ (table.deleteWhere fun key _ => stale key).keys ↔ key ∈ table.keys ∧ stale key = false := by
  simp only [mem_keys_iff, lookup_deleteWhere_eq_some, exists_and_right]

theorem expireStalePeers_listed (order : Enumeration String) (now : Time) (listed : s.Listed) :
    (expireStalePeers order s now).1.Listed := by
  intro key entry
  simp only [Server.HasEntry, expireStalePeers, mem_keys_deleteWhere, ← or_and_right] at entry ⊢
  exact ⟨listed key entry.1, entry.2⟩

def ServerEvent.KeepsListed (s : Server) : ServerEvent → Prop
  | .rdac _ data addr => data ≠ [] → addr.ip ∈ s.peerLastSeen.keys
  | _ => True

theorem afterwards_refreshes {result : Checked (Server × List Effect)}
    (ensures : result.Ensures fun result => Refreshes clock key s result.1) : Refreshes clock key s (s.afterwards result) := by
  cases computed : result with
  | error reason => exact .inl ⟨rfl, rfl, rfl, rfl⟩
  | ok pair => exact ensures pair computed

theorem step_rdac (cfg : HyteraConfig) : SameTables
    (if data = [] then s else { s with repeaterRDACAddr := s.repeaterRDACAddr.insert addr.ip (plainAddr addr) })
    (s.step cfg (.rdac clock data addr)) := by
  obtain ⟨result, computed, same⟩ := rdacLoop_returns clock data addr s
  rw [step, computed]
  exact same

theorem step_listed_iff (cfg : HyteraConfig) (listed : s.Listed) (event : ServerEvent) :
    (s.step cfg event).Listed ↔ event.KeepsListed s := by
  cases event with
  | p2p taken clock data addr =>
    refine iff_of_true ?_ trivial
    cases taken with
    | true => exact listed
    | false => exact (afterwards_refreshes (handleP2P_refreshes cfg)).listed listed
  | dmr taken clock data addr =>
    refine iff_of_true ?_ trivial
    cases taken with
    | true => exact listed
    | false => exact (afterwards_refreshes (dmrLoop_refreshes cfg)).listed listed
  | rdac clock data addr =>
    rw [(step_rdac cfg).listed_iff, ServerEvent.KeepsListed]
    split
    case isTrue empty => exact iff_of_true listed (absurd empty)
    case isFalse nonempty =>
      constructor
      · intro entered _
        exact entered addr.ip (.inr (.inr (mem_keys_insert.mpr (.inl rfl))))
      · intro known key entry
        simp only [Server.HasEntry, mem_keys_insert] at entry
        obtain p2p | dmr | same | rdac := entry
        · exact listed key (.inl p2p)
        · exact listed key (.inr (.inl dmr))
        · exact same ▸ known nonempty
        · exact listed key (.inr (.inr rdac))
  | identify addr now => exact iff_of_true ((sameTables_startRDACIdentification addr now).listed_iff.mpr listed) trivial
  | expire order now => exact iff_of_true (expireStalePeers_listed order now listed) trivial

theorem Refreshes.seen (refreshes : Refreshes clock addr.ip s after) {time : Time}
    (noted : after.peerLastSeen.lookup key = some time) :
    s.peerLastSeen.lookup key = some time ∨ (addr.ip = key ∧ ∃ n, clock n = time) := by
  obtain same | ⟨⟨n, inserted⟩, -⟩ := refreshes
  · exact .inl (same.2.2.2 ▸ noted)
  · rw [inserted, lookup_insert_eq_some] at noted
    exact noted.symm.imp And.right fun own => ⟨own.1.symm, n, own.2.symm⟩

theorem step_seen (cfg : HyteraConfig) (event : ServerEvent) {time : Time}
    (noted : (s.step cfg event).peerLastSeen.lookup key = some time) :
    s.peerLastSeen.lookup key = some time ∨ event.ReceivedFrom key time := by
  cases event with
  | p2p taken clock data addr =>
    cases taken with
    | true => exact .inl noted
    | false => exact (afterwards_refreshes (handleP2P_refreshes cfg)).seen noted
  | dmr taken clock data addr =>
    cases taken with
    | true => exact .inl noted
    | false => exact (afterwards_refreshes (dmrLoop_refreshes cfg)).seen noted
  | rdac clock data addr =>
    refine .inl ?_
    rw [(step_rdac cfg).2.2.2] at noted
    split at noted <;> exact noted
  | identify addr now => exact .inl ((sameTables_startRDACIdentification addr now).2.2.2 ▸ noted)
  | expire order now => exact .inl (lookup_deleteWhere_eq_some.mp noted).1

theorem run_seen (cfg : HyteraConfig) {events : List ServerEvent} {time : Time}
    (noted : (runFrom (step cfg) {} events).peerLastSeen.lookup key = some time) :
    ∃ event ∈ events, event.ReceivedFrom key time := by
  induction events using List.reverseRecOn with
  | nil => cases noted
  | append_singleton events event ih =>
    rw [runFrom_append] at noted
    obtain before | received := step_seen cfg event noted
    · obtain ⟨earlier, member, received⟩ := ih before
      exact ⟨earlier, List.mem_append_left _ member, received⟩
    · exact ⟨event, by simp, received⟩

def Silent (events : List ServerEvent) (key : String) (now : Time) : Prop :=
  ∀ event ∈ events, ∀ time, event.ReceivedFrom key time → hyteraPeerTimeout < Time.sub now time

theorem expire_removes (cfg : HyteraConfig) {events : List ServerEvent} (order : Enumeration String) {now : Time}
    (listed : (runFrom (step cfg) {} events).Listed) (silent : Silent events key now) :
    ¬(runFrom (step cfg) {} (events ++ [.expire order now])).HasEntry key := by
  intro entry
  rw [runFrom_append] at entry
  have remains := expireStalePeers_listed order now listed key entry
  simp only [expireStalePeers, mem_keys_deleteWhere] at remains
  obtain ⟨known, fresh⟩ := remains
  obtain ⟨time, noted⟩ := mem_keys_iff.mp known
  obtain ⟨event, member, received⟩ := run_seen cfg noted
  rw [noted] at fresh
  exact absurd (silent event member time received) (of_decide_eq_false fresh)

end

/-- Every entry of an address is listed in every state reached, and entries of a silent repeater
are removed, exactly if the datagrams on the RDAC port come from listed repeaters. -/
theorem hytera_entries_expire_iff (cfg : HyteraConfig) (events : List ServerEvent) :
    (EachState (Server.step cfg) Server.Listed {} events ∧
        ∀ before order now after key, events = before ++ .expire order now :: after → Silent before key now →
          ¬(runFrom (Server.step cfg) {} (before ++ [.expire order now])).HasEntry key) ↔
      EachStep (Server.step cfg) (fun s event => event.KeepsListed s) {} events := by
  have initial : Server.Listed {} := fun key entry => by simp [Server.HasEntry] at entry
  have states := @eachState_iff_eachStep _ _ _ (fun s event => event.KeepsListed s) (Server.step cfg) Server.Listed events
    (fun _ => True) (fun _ _ _ => trivial) (fun _ event _ listed => step_listed_iff cfg listed event)
    trivial initial
  rw [← states]
  refine and_iff_left_of_imp ?_
  intro listed before order now after key split silent
  rw [states, split, eachStep_append] at listed
  exact expire_removes cfg order
    (runFrom_invariant (fun _ event listed keeps => (step_listed_iff cfg listed event).mpr keeps) initial listed.1) silent

/-- The first datagram of a repeater is a heartbeat on the RDAC port; an hour later its address is
still there. -/
theorem rdac_entry_stays :
    let s := runFrom (Server.step ⟨50000, 50001, 50002, 9000000⟩) {}
      [.rdac (fun _ => 1000) [0x00] ⟨"192.0.2.9", 50002, ""⟩, .expire (.increasing String) (Time.add 1000 (60 * minute))]
    "192.0.2.9" ∈ s.repeaterRDACAddr.keys ∧ "192.0.2.9" ∉ s.peerLastSeen.keys := by
  decide +kernel

end Ipsc2Mmdvm.Hytera
