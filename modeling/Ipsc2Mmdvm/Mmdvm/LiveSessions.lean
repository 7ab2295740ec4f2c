import Ipsc2Mmdvm.Data.Text
import Ipsc2Mmdvm.Mmdvm.ServerAuth

namespace Ipsc2Mmdvm.Mmdvm

open Data Proto PtrMap Function

/-! Sessions are found by address, hotspots are told apart by DMR ID.  No session is stored under
two addresses, so the table is a map from addresses to sessions. -/

def isTarget (sourceKey : String) (sess : Session) : Bool :=
  sess.state == .ready && sess.info.sourceKey == sourceKey

def sendPacketToPeer (sessions : Sessions) (order : Enumeration String) (pkt : Packet)
    (sourceKey : String) : Option Effect :=
  if sourceKey = "" then none
  else
    (sessions.findWhere order fun _ sess => isTarget sourceKey sess).map
      fun (_, sess) => .sendRaw (sessions.deref sess).addr pkt.encode

abbrev Hotspots := String → Option Session

structure WellKeyed (sessions : Sessions) : Prop where
  unshared : sessions.Unshared
  named : sessions.find "" = none

section Table

variable {sessions : Sessions} {key : String} {sess : Ref}

section

variable (keyed : WellKeyed sessions)

include keyed

theorem WellKeyed.enter (addr : UDPAddr) (f : Session → Session) : WellKeyed (enter sessions addr f) := by
  simp only [Mmdvm.enter, getOrCreateSessionLocked]
  cases found : sessions.find addr.string with
  | some sess => exact ⟨keyed.unshared, keyed.named⟩
  | none =>
    refine ⟨keyed.unshared.create addr.string { addr }, ?_⟩
    rw [find_modify, find_create, if_neg (addr.string_ne_empty).symm]
    exact keyed.named

theorem WellKeyed.view_enter (addr : UDPAddr) (f : Session → Session) : (Mmdvm.enter sessions addr f).view =
      update sessions.view addr.string (some (f { (sessions.view addr.string).getD { addr } with addr })) := by
  simp only [Mmdvm.enter, getOrCreateSessionLocked]
  cases found : sessions.find addr.string with
  | some sess =>
    rw [(keyed.unshared.modify sess _).view_modify found, keyed.unshared.view_modify found]
    simp [view_of_find found]
  | none =>
    have created : ((sessions.alloc { addr }).store addr.string sessions.next).find addr.string =
        some sessions.next := by
      rw [find_create, if_pos rfl]
    rw [(keyed.unshared.create addr.string { addr }).view_modify created, view_create]
    simp [view, found]

theorem WellKeyed.delete (key : String) : WellKeyed (sessions.delete key) :=
  ⟨keyed.unshared.delete key, by simp [keyed.named]⟩

theorem WellKeyed.modify (sess : Ref) (f : Session → Session) : WellKeyed (sessions.modify sess f) :=
  ⟨keyed.unshared.modify sess f, keyed.named⟩

theorem WellKeyed.store (addr : UDPAddr) (known : sess < sessions.next)
    (fresh : ∀ other, sessions.find other = some sess → other = addr.string) :
    WellKeyed (sessions.store addr.string sess) := by
  refine ⟨keyed.unshared.store known fresh, ?_⟩
  rw [find_store known, if_neg addr.string_ne_empty.symm]
  exact keyed.named

theorem WellKeyed.rebind (addr : UDPAddr) (found : sessions.find key = some sess) :
    WellKeyed (rebindSessionLocked sessions key addr sess) ∧ (rebindSessionLocked sessions key addr sess).view =
        update (update sessions.view key none) addr.string (some { sessions.deref sess with addr }) := by
  have known : sess < sessions.next := lt_next found
  have named : key ≠ "" := by
    intro empty
    rw [empty, keyed.named] at found
    cases found
  simp only [rebindSessionLocked, if_neg addr.string_ne_empty, ne_eq, named, not_false_eq_true, true_and]
  split
  · have gone := keyed.unshared.absent_delete found
    refine ⟨((keyed.delete key).modify sess _).store addr known fun other at' => absurd at' (gone other), ?_⟩
    rw [view_store (by exact known), view_modify_of_absent gone, view_delete]
    simp
  · rename_i same
    have same : key = addr.string := Classical.not_not.mp same
    subst same
    refine ⟨(keyed.modify sess _).store addr known fun other at' => keyed.unshared at' found, ?_⟩
    rw [view_store (by exact known), keyed.unshared.view_modify found]
    simp

end

end Table

def hotspotKey (cfg : ServerConfig) (dmrid : UInt32) : String :=
  "mmdvm:" ++ cfg.name ++ ":" ++ toString dmrid.toNat

theorem hotspotKey_inj (cfg : ServerConfig) {dmrid other : UInt32} :
    hotspotKey cfg dmrid = hotspotKey cfg other ↔ dmrid = other := by
  simp only [hotspotKey, String.append_right_inj]
  exact toString_nat_inj.trans UInt32.toNat_inj

structure Identified (cfg : ServerConfig) (sess : Session) : Prop where
  dmrID : sess.info.dmrID ≠ 0
  sourceKey : sess.info.sourceKey = hotspotKey cfg sess.info.dmrID
  online : sess.info.online = true

def AllIdentified (cfg : ServerConfig) (table : Hotspots) : Prop :=
  ∀ key sess, table key = some sess → sess.state = .ready → Identified cfg sess

def OnePerID (table : Hotspots) : Prop :=
  ∀ key key' sess sess', table key = some sess → table key' = some sess' →
    sess.state = .ready → sess'.state = .ready → sess.info.dmrID = sess'.info.dmrID → key = key'

inductive Change (before : Hotspots) : Hotspots → Prop
  | kept : Change before before
  | entered (key : String) (sess : Session) (busy : sess.state ≠ .ready) :
      Change before (Function.update before key (some sess))
  | heard (old key : String) (sess sess' : Session) (found : before old = some sess)
      (ready : sess.state = .ready) (dmrID : sess'.info.dmrID = sess.info.dmrID)
      (sourceKey : sess'.info.sourceKey = sess.info.sourceKey)
      (online : sess.info.online = true → sess'.info.online = true) :
      Change before (Function.update (Function.update before old none) key (some sess'))

section Changes

variable {cfg : ServerConfig} {before after : Hotspots} {key : String} {sess : Session}

theorem update_eq_some {other : String} {entry : Option Session} : update before key entry other = some sess ↔
      (other = key ∧ entry = some sess) ∨ (other ≠ key ∧ before other = some sess) := by
  by_cases same : other = key
  · subst same
    simp
  · simp [same]

theorem Change.identified (change : Change before after) (identified : AllIdentified cfg before) :
    AllIdentified cfg after := by
  intro key sess at' ready
  cases change with
  | kept => exact identified key sess at' ready
  | entered =>
    rename_i entered busy
    rcases update_eq_some.mp at' with own | other
    · cases own.2
      exact absurd ready busy
    · exact identified key sess other.2 ready
  | heard old _ heard =>
    rename_i found was dmrID sourceKey online
    rcases update_eq_some.mp at' with own | other
    · cases own.2
      have known := identified old heard found was
      exact ⟨dmrID ▸ known.dmrID, by rw [sourceKey, dmrID, known.sourceKey], online known.online⟩
    · rcases update_eq_some.mp other.2 with gone | kept
      · cases gone.2
      · exact identified key sess kept.2 ready

theorem Change.ready_origin (change : Change before after) :
    ∃ origin : String → String, ∀ key sess, after key = some sess → sess.state = .ready →
      (∃ was, before (origin key) = some was ∧ was.state = .ready ∧ was.info.dmrID = sess.info.dmrID) ∧
        ∀ other sess', after other = some sess' → origin other = origin key → other = key := by
  cases change with
  | kept =>
    refine ⟨id, fun key sess at' ready => ⟨⟨sess, at', ready, rfl⟩, ?_⟩⟩
    intro other sess' _ same
    exact same
  | entered entry entered busy =>
    refine ⟨id, fun key sess at' ready => ⟨?_, fun other sess' _ same => same⟩⟩
    rcases update_eq_some.mp at' with own | other
    · cases own.2
      exact absurd ready busy
    · exact ⟨sess, other.2, ready, rfl⟩
  | heard old entry was heard found ready dmrID =>
    refine ⟨fun key => if key = entry then old else key, fun key sess at' ready' => ?_⟩
    have elsewhere : ∀ other sess, other ≠ entry →
        update (update before old none) entry (some heard) other = some sess →
        other ≠ old ∧ before other = some sess := by
      intro other sess differs at''
      rw [update_of_ne differs] at at''
      rcases update_eq_some.mp at'' with gone | kept
      · cases gone.2
      · exact kept
    by_cases own : key = entry
    · subst own
      rw [update_self] at at'
      cases at'
      refine ⟨⟨was, by simpa using found, ready, dmrID.symm⟩, ?_⟩
      intro other sess' at'' same
      by_contra differs
      simp only [if_neg differs, if_true] at same
      exact (elsewhere other sess' differs at'').1 same
    · obtain ⟨kept, at₀⟩ := elsewhere key sess own at'
      refine ⟨⟨sess, by simpa [own] using at₀, ready', rfl⟩, ?_⟩
      intro other sess' at'' same
      simp only [if_neg own] at same
      split at same
      · exact absurd same.symm kept
      · exact same

theorem Change.onePerID (change : Change before after) (unique : OnePerID before) : OnePerID after := by
  obtain ⟨origin, origins⟩ := change.ready_origin
  intro key key' sess sess' at' at'' ready ready' same
  obtain ⟨⟨was, found, wasReady, wasID⟩, apart⟩ := origins key sess at' ready
  obtain ⟨⟨was', found', wasReady', wasID'⟩, _⟩ := origins key' sess' at'' ready'
  have same := unique _ _ was was' found found' wasReady wasReady' (by rw [wasID, wasID', same])
  exact (apart key' sess' at'' same.symm).symm

end Changes

structure Outcome (sessions : Sessions) (result : Sessions × List Effect) : Prop where
  keyed : WellKeyed result.1
  change : Change sessions.view result.1.view
  quiet : ∀ info, .emitPeer info ∈ result.2 → info.online = true

section Handlers

variable {cfg : ServerConfig} {sessions : Sessions} {effects : List Effect}

theorem Outcome.refl (keyed : WellKeyed sessions) (quiet : ∀ info, .emitPeer info ∉ effects) :
    Outcome sessions (sessions, effects) :=
  ⟨keyed, .kept, fun info emitted => absurd emitted (quiet info)⟩

theorem Outcome.enter (keyed : WellKeyed sessions) (addr : UDPAddr) {f : Session → Session}
    (busy : ∀ sess, (f sess).state ≠ .ready) (quiet : ∀ info, .emitPeer info ∉ effects) :
    Outcome sessions (enter sessions addr f, effects) := by
  refine ⟨keyed.enter addr f, ?_, fun info emitted => absurd emitted (quiet info)⟩
  rw [keyed.view_enter addr f]
  exact .entered _ _ (busy _)

theorem setOffline_spec (keyed : WellKeyed sessions) (key : String) : WellKeyed (setOffline sessions key).1 ∧
      (setOffline sessions key).1.view = update sessions.view key none ∧
      ∀ info, .emitPeer info ∈ (setOffline sessions key).2 ↔ ∃ sess, sessions.view key = some sess ∧
          info = ({ sess.info with online := false } : PeerInfo).statusString := by
  simp only [setOffline]
  cases found : sessions.find key with
  | none =>
    have absent : sessions.view key = none := by simp [view, found]
    refine ⟨keyed, ?_, by simp [absent]⟩
    rw [← absent, update_eq_self]
  | some sess => exact ⟨keyed.delete key, view_delete, by simp [view_of_find found]⟩

structure Bound (sessions : Sessions) (addr : UDPAddr) (bound : Sessions) (sess : Ref) : Prop where
  keyed : WellKeyed bound
  found : bound.find addr.string = some sess
  heard : ∃ old was, sessions.view old = some was ∧ was.state = .ready ∧ (bound.deref sess).info = was.info ∧
    bound.view = Function.update (Function.update sessions.view old none) addr.string (some (bound.deref sess))

section

variable {order : Enumeration String} {addr : UDPAddr} {dmrid : UInt32} {bound : Sessions} {sess : Ref}

theorem bound_rebind (keyed : WellKeyed sessions) {old : String} (found : sessions.find old = some sess)
    (ready : (sessions.deref sess).state = .ready) :
    Bound sessions addr (rebindSessionLocked sessions old addr sess) sess := by
  obtain ⟨rebound, view⟩ := keyed.rebind addr found
  have known : sess < sessions.next := lt_next found
  have stored : (rebindSessionLocked sessions old addr sess).find addr.string = some sess := by
    simp only [rebindSessionLocked, if_neg addr.string_ne_empty]
    split <;> rw [find_store (by exact known), if_pos rfl]
  have moved := view_of_find stored
  rw [view, update_self, Option.some.injEq] at moved
  refine ⟨rebound, stored, old, _, view_of_find found, ready, ?_, ?_⟩
  · rw [← moved]
  · rw [view, moved]

theorem boundSession_bound (keyed : WellKeyed sessions)
    (result : boundSession sessions order addr dmrid = (bound, some sess))
    (ready : (bound.deref sess).state = .ready) : Bound sessions addr bound sess := by
  have stays (found : sessions.find addr.string = some sess) (ready : (sessions.deref sess).state = .ready) :
      Bound sessions addr sessions sess := by
    have view := view_of_find found
    refine ⟨keyed, found, addr.string, _, view, ready, rfl, ?_⟩
    rw [update_idem, ← view, update_eq_self]
  rcases boundSession_cases result with ⟨rfl, known⟩ | ⟨old, other, known, wasReady, rfl, same⟩
  · exact stays known.symm ready
  · cases same
    exact bound_rebind keyed known wasReady

theorem Bound.outcome (bound' : Bound sessions addr bound sess) {heard : Session} {effects : List Effect}
    (dmrID : heard.info.dmrID = (bound.deref sess).info.dmrID)
    (sourceKey : heard.info.sourceKey = (bound.deref sess).info.sourceKey)
    (online : (bound.deref sess).info.online = true → heard.info.online = true)
    (quiet : ∀ info, .emitPeer info ∈ effects → info.online = true) :
    Outcome sessions (bound.modify sess fun _ => heard, effects) := by
  obtain ⟨old, was, found, ready, info, view⟩ := bound'.heard
  refine ⟨bound'.keyed.modify sess fun _ => heard, ?_, quiet⟩
  simp only
  rw [bound'.keyed.unshared.view_modify bound'.found, view, update_idem]
  rw [info] at dmrID sourceKey online
  exact .heard old addr.string was heard found ready dmrID sourceKey online

end

end Handlers

def ServerEvent.dmrID : ServerEvent → UInt32
  | .datagram _ data _ => uint32At data 4
  | _ => 0

section Events

variable {cfg : ServerConfig} {h : Server} {event : ServerEvent}

theorem ServerStep.outcome {sha256 : Bytes → Digest} {result : Sessions × List Effect}
    (step : ServerStep cfg sha256 h event result) (keyed : WellKeyed h.sessions) (identified : AllIdentified cfg h.sessions.view)
    (unconfigured : acceptedConfig event = none) (stays : offlineKey h event = none) : Outcome h.sessions result := by
  cases step with
  | ignored => exact .refl keyed (by simp)
  | offline key taken =>
    rw [stays] at taken
    cases taken
  | refused => exact .refl keyed (by simp [sendNAK])
  | challenged challenge => exact .enter keyed _ (by simp) (by simp)
  | authenticated => exact .enter keyed _ (by simp) (by simp [sendACK])
  | configured info accepted =>
    rw [unconfigured] at accepted
    cases accepted
  | pinged found ready touched =>
    subst touched
    exact (boundSession_bound keyed found ready).outcome rfl rfl (fun _ => rfl) (by simp)
  | forwarded found ready touched =>
    subst touched
    have bound := boundSession_bound keyed found ready
    obtain ⟨old, was, present, wasReady, info, _⟩ := bound.heard
    refine bound.outcome rfl rfl id ?_
    simpa [Session.touch, info] using (identified old was present wasReady).online

theorem handle_configured (cfg : ServerConfig) (sha256 : Bytes → Digest) (keyed : WellKeyed h.sessions) {addr : UDPAddr}
    (config : acceptedConfig event = some addr) :
    WellKeyed (h.handle cfg sha256 event).1.sessions ∧
      (∀ info, .emitPeer info ∈ (h.handle cfg sha256 event).2 → info.online = true) ∧
      ∃ sess, (h.handle cfg sha256 event).1.sessions.view = update h.sessions.view addr.string (some sess) ∧
        sess.state = .ready ∧ sess.info.dmrID = event.dmrID ∧ Identified cfg sess := by
  obtain ⟨data, env, rfl, long, valid, dispatched⟩ := handlePacket_config cfg sha256 config
  have nonzero : uint32At data 4 ≠ 0 := by
    simpa [validID, show ¬ data.length < 8 by omega] using valid
  have dmrID : (parseRPTCConfig data).dmrID = uint32At data 4 := by
    simp only [parseRPTCConfig, show data.length ≥ 8 from long, if_true]
    split <;> rfl
  simp only [Server.handle, dispatched, handleConfig, show ¬ data.length < 8 by omega, valid,
    Bool.not_true, Bool.or_false, decide_false, Bool.false_eq_true, if_false]
  refine ⟨keyed.enter addr _, by simp [sendACK], _, keyed.view_enter addr _, rfl, dmrID, ?_⟩
  refine ⟨dmrID ▸ nonzero, ?_, rfl⟩
  simp only [dmrID, if_neg nonzero]
  rfl

theorem handle_offline (cfg : ServerConfig) (sha256 : Bytes → Digest) {key : String} (offline : offlineKey h event = some key) :
    (h.handle cfg sha256 event).1.sessions = (setOffline h.sessions key).1 ∧
      (h.handle cfg sha256 event).2 = (setOffline h.sessions key).2 := by
  cases event with
  | datagram addr data env =>
    simp only [offlineKey] at offline
    split at offline
    · rename_i kind
      obtain ⟨five, long, valid⟩ := kind
      cases offline
      simp [Server.handle, handlePacket, handleDisconnect, five, valid, show ¬ data.length < 4 by omega,
        show 5 ≤ data.length by omega, show ¬ data.length < 9 by omega]
    · cases offline
  | tick now order => cases offline
  | expire =>
    simp only [offlineKey, List.head?_eq_some_iff] at offline
    obtain ⟨stale, found⟩ := offline
    simp only [Server.handle, found, and_self]

end Events

structure Observed where
  server : Server
  effects : List Effect

def Observed.new : Observed := ⟨newMMDVMServer, []⟩

def Observed.step (cfg : ServerConfig) (sha256 : Bytes → Digest) (o : Observed) (event : ServerEvent) :
    Observed :=
  let (server, effects) := o.server.handle cfg sha256 event
  { server, effects }

def IsReady (sessions : Sessions) (sess : Ref) : Prop :=
  (∃ key, sessions.find key = some sess) ∧ (sessions.deref sess).state = .ready

/-- A hotspot has at most one ready session, and none once it is published as offline. -/
structure OneSession (o : Observed) : Prop where
  perID : ∀ sess sess', IsReady o.server.sessions sess → IsReady o.server.sessions sess' →
    (o.server.sessions.deref sess).info.dmrID ≠ 0 →
    (o.server.sessions.deref sess).info.dmrID = (o.server.sessions.deref sess').info.dmrID → sess = sess'
  perSourceKey : ∀ sess sess', IsReady o.server.sessions sess → IsReady o.server.sessions sess' →
    (o.server.sessions.deref sess).info.sourceKey = (o.server.sessions.deref sess').info.sourceKey →
      sess = sess'
  target : ∀ order order' pkt sourceKey, sendPacketToPeer o.server.sessions order pkt sourceKey =
    sendPacketToPeer o.server.sessions order' pkt sourceKey
  offline : ∀ info, .emitPeer info ∈ o.effects → info.online = false →
    ∀ sess, IsReady o.server.sessions sess → (o.server.sessions.deref sess).info.sourceKey ≠ info.sourceKey

/-- A configuration is accepted only for a hotspot that has no ready session under
another address, and a session that is not ready is taken offline only if its
hotspot has no ready one. -/
def KeepsOneSession (o : Observed) (event : ServerEvent) : Prop :=
  (∀ addr, acceptedConfig event = some addr → ∀ sess, IsReady o.server.sessions sess →
    (o.server.sessions.deref sess).info.dmrID = event.dmrID →
      o.server.sessions.find addr.string = some sess) ∧
  ∀ key, offlineKey o.server event = some key → ∀ sess, o.server.sessions.find key = some sess →
    (o.server.sessions.deref sess).state ≠ .ready → ∀ other, IsReady o.server.sessions other →
      (o.server.sessions.deref other).info.sourceKey ≠ (o.server.sessions.deref sess).info.sourceKey

structure Tracked (cfg : ServerConfig) (sessions : Sessions) : Prop where
  keyed : WellKeyed sessions
  identified : AllIdentified cfg sessions.view

section Runs

variable {cfg : ServerConfig} {sessions : Sessions}

theorem Tracked.of_isReady (tracked : Tracked cfg sessions) {sess : Ref} (ready : IsReady sessions sess) :
    Identified cfg (sessions.deref sess) := by
  obtain ⟨⟨key, found⟩, ready⟩ := ready
  exact tracked.identified key _ (view_of_find found) ready

theorem Tracked.sourceKey_iff (tracked : Tracked cfg sessions) {sess sess' : Ref}
    (ready : IsReady sessions sess) (ready' : IsReady sessions sess') :
    (sessions.deref sess).info.sourceKey = (sessions.deref sess').info.sourceKey ↔
      (sessions.deref sess).info.dmrID = (sessions.deref sess').info.dmrID := by
  rw [(tracked.of_isReady ready).sourceKey, (tracked.of_isReady ready').sourceKey]
  exact hotspotKey_inj cfg

theorem Tracked.onePerID_iff (tracked : Tracked cfg sessions) :
    OnePerID sessions.view ↔ ∀ sess sess', IsReady sessions sess → IsReady sessions sess' →
      (sessions.deref sess).info.dmrID = (sessions.deref sess').info.dmrID → sess = sess' := by
  constructor
  · intro unique sess sess' ready ready' same
    obtain ⟨⟨key, found⟩, ready⟩ := ready
    obtain ⟨⟨key', found'⟩, ready'⟩ := ready'
    have together := unique key key' _ _ (view_of_find found) (view_of_find found') ready ready' same
    rw [together, found'] at found
    exact (Option.some.inj found).symm
  · intro unique key key' _ _ at' at'' ready ready' same
    obtain ⟨sess, found, rfl⟩ := view_eq_some.mp at'
    obtain ⟨sess', found', rfl⟩ := view_eq_some.mp at''
    cases unique sess sess' ⟨⟨key, found⟩, ready⟩ ⟨⟨key', found'⟩, ready'⟩ same
    exact tracked.keyed.unshared found found'

theorem sendPacketToPeer_order (unique : ∀ sess sess', IsReady sessions sess → IsReady sessions sess' →
      (sessions.deref sess).info.sourceKey = (sessions.deref sess').info.sourceKey → sess = sess')
    (order order' : Enumeration String) (pkt : Packet) (sourceKey : String) :
    sendPacketToPeer sessions order pkt sourceKey = sendPacketToPeer sessions order' pkt sourceKey := by
  simp only [sendPacketToPeer]
  split
  · rfl
  · have oneTarget (key other : String) (sess sess' : Ref) (found : sessions.find key = some sess)
        (found' : sessions.find other = some sess') (picked : isTarget sourceKey (sessions.deref sess) = true)
        (picked' : isTarget sourceKey (sessions.deref sess') = true) : sess = sess' := by
      simp only [isTarget, Bool.and_eq_true, beq_iff_eq] at picked picked'
      exact unique sess sess' ⟨⟨key, found⟩, picked.1⟩ ⟨⟨other, found'⟩, picked'.1⟩ (picked.2.trans picked'.2.symm)
    have same := findWhere_order oneTarget order order'
    have sent := congrArg (Option.map fun sess => Effect.sendRaw (sessions.deref sess).addr pkt.encode) same
    simp only [Option.map_map] at sent
    exact sent

theorem Tracked.oneSession_iff {o : Observed} (tracked : Tracked cfg o.server.sessions) :
    OneSession o ↔ OnePerID o.server.sessions.view ∧ ∀ info, .emitPeer info ∈ o.effects →
      info.online = false → ∀ sess, IsReady o.server.sessions sess →
        (o.server.sessions.deref sess).info.sourceKey ≠ info.sourceKey := by
  rw [tracked.onePerID_iff]
  constructor
  · intro one
    exact ⟨fun sess sess' ready ready' same =>
      one.perID sess sess' ready ready' (tracked.of_isReady ready).dmrID same, one.offline⟩
  · intro one
    have perSourceKey : ∀ sess sess', IsReady o.server.sessions sess → IsReady o.server.sessions sess' →
        (o.server.sessions.deref sess).info.sourceKey = (o.server.sessions.deref sess').info.sourceKey →
          sess = sess' := fun sess sess' ready ready' same =>
      one.1 sess sess' ready ready' ((tracked.sourceKey_iff ready ready').mp same)
    exact ⟨fun sess sess' ready ready' _ same => one.1 sess sess' ready ready' same, perSourceKey,
      sendPacketToPeer_order perSourceKey, one.2⟩

theorem Tracked.step {sha256 : Bytes → Digest} {o : Observed} (tracked : Tracked cfg o.server.sessions)
    (event : ServerEvent) : Tracked cfg (o.step cfg sha256 event).server.sessions := by
  cases config : acceptedConfig event with
  | some addr =>
    obtain ⟨keyed, _, sess, view, _, _, identified⟩ := handle_configured cfg sha256 tracked.keyed config
    refine ⟨keyed, fun key other at' ready => ?_⟩
    simp only [Observed.step, view] at at'
    rcases update_eq_some.mp at' with own | other
    · cases own.2
      exact identified
    · exact tracked.identified key _ other.2 ready
  | none =>
    cases offline : offlineKey o.server event with
    | none =>
      have outcome := (serverStep_handle cfg sha256 o.server event).outcome tracked.keyed tracked.identified config offline
      exact ⟨outcome.keyed, outcome.change.identified tracked.identified⟩
    | some key =>
      obtain ⟨keyed, view, _⟩ := setOffline_spec tracked.keyed key
      simp only [Observed.step, (handle_offline cfg sha256 offline).1]
      refine ⟨keyed, fun other sess at' ready => ?_⟩
      rw [view] at at'
      rcases update_eq_some.mp at' with gone | kept
      · cases gone.2
      · exact tracked.identified other sess kept.2 ready

theorem no_ready_session {sourceKey : String} :
    (∀ sess, IsReady sessions sess → (sessions.deref sess).info.sourceKey ≠ sourceKey) ↔
      ∀ key sess, sessions.view key = some sess → sess.state = .ready → sess.info.sourceKey ≠ sourceKey := by
  constructor
  · intro all key _ at' ready
    obtain ⟨sess, found, rfl⟩ := view_eq_some.mp at'
    exact all sess ⟨⟨key, found⟩, ready⟩
  · intro all sess ready
    obtain ⟨⟨key, found⟩, ready⟩ := ready
    exact all key _ (view_of_find found) ready

theorem onePerID_configured_iff {table : Hotspots} {key : String} {sess : Session} (unique : OnePerID table)
    (ready : sess.state = .ready) :
    OnePerID (update table key (some sess)) ↔
      ∀ other was, table other = some was → was.state = .ready → was.info.dmrID = sess.info.dmrID → other = key := by
  constructor
  · intro unique' other was at' wasReady same
    by_contra differs
    have kept : update table key (some sess) other = some was := by
      rw [update_of_ne differs, at']
    exact differs (unique' other key was sess kept (update_self ..) wasReady ready same)
  · intro fresh other other' was was' at' at'' wasReady wasReady' same
    rcases update_eq_some.mp at' with ⟨rfl, own⟩ | ⟨_, kept⟩ <;>
      rcases update_eq_some.mp at'' with ⟨rfl, own'⟩ | ⟨_, kept'⟩
    · rfl
    · cases own
      exact (fresh other' was' kept' wasReady' same.symm).symm
    · cases own'
      exact fresh other was kept wasReady same
    · exact unique other other' was was' kept kept' wasReady wasReady' same

theorem onePerID_delete {table : Hotspots} (unique : OnePerID table) (key : String) :
    OnePerID (update table key none) := by
  intro other other' was was' at' at''
  rcases update_eq_some.mp at' with gone | kept
  · cases gone.2
  · rcases update_eq_some.mp at'' with gone | kept'
    · cases gone.2
    · exact unique other other' was was' kept.2 kept'.2

section

variable {sha256 : Bytes → Digest} {o : Observed} {event : ServerEvent}

theorem config_not_offline {addr : UDPAddr} (h : Server) (config : acceptedConfig event = some addr) :
    offlineKey h event = none := by
  obtain ⟨data, env, rfl, five, _⟩ := acceptedConfig_cases config
  simp [offlineKey, five]

section

variable (tracked : Tracked cfg o.server.sessions)

include tracked

theorem Tracked.configured_iff (unique : OnePerID o.server.sessions.view) {addr : UDPAddr} (config : acceptedConfig event = some addr) :
    OneSession (o.step cfg sha256 event) ↔ KeepsOneSession o event := by
  obtain ⟨_, quiet, sess, view, ready, dmrID, _⟩ := handle_configured cfg sha256 tracked.keyed config
  have published : ∀ info, .emitPeer info ∈ (o.step cfg sha256 event).effects → info.online ≠ false :=
    fun info emitted => by simp [quiet info emitted]
  have step_iff : OneSession (o.step cfg sha256 event) ↔
      OnePerID (update o.server.sessions.view addr.string (some sess)) := by
    rw [(tracked.step event).oneSession_iff]
    simp only [Observed.step] at published ⊢
    rw [view]
    exact and_iff_left fun info emitted offline => absurd offline (published info emitted)
  rw [step_iff, onePerID_configured_iff unique ready, dmrID]
  simp only [KeepsOneSession, config, config_not_offline o.server config, reduceCtorEq, false_imp_iff,
    implies_true, and_true, Option.some.injEq, forall_eq']
  constructor
  · intro fresh was wasReady same
    obtain ⟨⟨key, found⟩, wasReady⟩ := wasReady
    exact fresh key _ (view_of_find found) wasReady same ▸ found
  · intro fresh key _ at' wasReady same
    obtain ⟨was, found, rfl⟩ := view_eq_some.mp at'
    exact tracked.keyed.unshared found (fresh was ⟨⟨key, found⟩, wasReady⟩ same)

theorem Tracked.offline_iff (unique : OnePerID o.server.sessions.view) (unconfigured : acceptedConfig event = none) {key : String}
    (offline : offlineKey o.server event = some key) :
    OneSession (o.step cfg sha256 event) ↔ KeepsOneSession o event := by
  obtain ⟨sessions, effects⟩ := handle_offline cfg sha256 offline
  obtain ⟨_, view, published⟩ := setOffline_spec tracked.keyed key
  rw [(tracked.step event).oneSession_iff]
  simp only [KeepsOneSession, unconfigured, offline, reduceCtorEq, false_imp_iff, implies_true, true_and,
    Option.some.injEq, forall_eq', Observed.step, sessions, effects, published, view,
    onePerID_delete unique key]
  constructor
  · intro silent sess found busy other ready
    obtain ⟨⟨key', found'⟩, ready⟩ := ready
    have differs : key' ≠ key := by
      intro same
      rw [same, found] at found'
      cases found'
      exact busy ready
    have kept : (setOffline o.server.sessions key).1.view key' = some (o.server.sessions.deref other) := by
      rw [view, update_of_ne differs]
      exact view_of_find found'
    have alone := silent _ ⟨_, view_of_find found, rfl⟩ rfl
    exact no_ready_session.mp alone key' _ kept ready
  · intro silent info taken _
    obtain ⟨was, at', rfl⟩ := taken
    obtain ⟨sess, found, rfl⟩ := view_eq_some.mp at'
    refine no_ready_session.mpr ?_
    intro key' other at'' ready
    rw [view] at at''
    rcases update_eq_some.mp at'' with gone | ⟨differs, kept⟩
    · cases gone.2
    · obtain ⟨other, found', rfl⟩ := view_eq_some.mp kept
      by_cases was : (o.server.sessions.deref sess).state = .ready
      · intro same
        have sameID := (tracked.sourceKey_iff ⟨⟨key', found'⟩, ready⟩ ⟨⟨key, found⟩, was⟩).mp same
        exact differs (unique key' key _ _ kept at' ready was sameID)
      · exact silent sess found was other ⟨⟨key', found'⟩, ready⟩

theorem Tracked.oneSession_step_iff (one : OneSession o)
    (event : ServerEvent) : OneSession (o.step cfg sha256 event) ↔ KeepsOneSession o event := by
  have unique := (tracked.oneSession_iff.mp one).1
  cases config : acceptedConfig event with
  | some addr => exact tracked.configured_iff unique config
  | none =>
    cases offline : offlineKey o.server event with
    | some key => exact tracked.offline_iff unique config offline
    | none =>
      have outcome := (serverStep_handle cfg sha256 o.server event).outcome tracked.keyed tracked.identified config offline
      refine iff_of_true ?_ (by simp [KeepsOneSession, config, offline])
      rw [(tracked.step event).oneSession_iff]
      refine ⟨outcome.change.onePerID unique, fun info emitted off => ?_⟩
      simp [outcome.quiet info emitted] at off

end

end

end Runs

theorem tracked_new (cfg : ServerConfig) : Tracked cfg Observed.new.server.sessions := by
  have absent (key : String) : Observed.new.server.sessions.find key = none := find_empty
  refine ⟨⟨unshared_empty, absent ""⟩, ?_⟩
  intro key sess at'
  simp [view, absent] at at'

theorem oneSession_new (cfg : ServerConfig) : OneSession Observed.new := by
  rw [(tracked_new cfg).oneSession_iff]
  have absent (key : String) : Observed.new.server.sessions.view key = none := by
    simp [view, Observed.new, newMMDVMServer]
  refine ⟨fun key key' sess sess' at' => ?_, by simp [Observed.new]⟩
  simp [absent] at at'

/-- In every state of a run, whatever arrives from any addresses and times out, each
hotspot has one session and is published as offline only without one, exactly if
every step of the run meets the condition. -/
theorem one_session_per_hotspot_iff (cfg : ServerConfig) (sha256 : Bytes → Digest)
    (events : List ServerEvent) :
    EachState (Observed.step cfg sha256) OneSession .new events ↔
      EachStep (Observed.step cfg sha256) KeepsOneSession .new events :=
  eachState_iff_eachStep (Observed.step cfg sha256) OneSession events
    (fun _ event (tracked : Tracked cfg _) => tracked.step event)
    (fun _ event tracked one => tracked.oneSession_step_iff one event)
    (tracked_new cfg) (oneSession_new cfg)

private def master : ServerConfig := { name := "master", id := 9, password := ascii "secret" }

private def hotspotAt (port : Nat) : UDPAddr := { ip := "192.0.2.1", port }

private def loginFrom (port : Nat) (now : Time) : List ServerEvent :=
  let env : Env := { clock := fun _ => now, challenge := some (.replicate 4 7), order := .increasing String }
  [.datagram (hotspotAt port) (ascii "RPTL" ++ putUint32 5) env,
    .datagram (hotspotAt port) (ascii "RPTK" ++ putUint32 5 ++ List.replicate 32 0) env,
    .datagram (hotspotAt port) (ascii "RPTC" ++ putUint32 5) env]

private def timedOut : PeerInfo where
  listener := "master"
  sourceKey := "mmdvm:master:5"
  dmrID := 5
  model := ascii "MMDVM Client"
  ip := "192.0.2.1"
  port := 1000
  lastSeenAt := second.toNat

/-- Hotspot 5 is silent for more than three minutes and logs in again from another
port.  The session of the old port times out and the hotspot is published as
offline while its new session is ready. -/
theorem hotspot_published_offline_while_ready :
    ¬ EachState (Observed.step master fun _ => .replicate 32 0) OneSession .new
      (loginFrom 1000 second.toNat ++ [.tick (200 * second.toNat) (.increasing String)] ++
        loginFrom 2000 (200 * second.toNat) ++ [.expire]) := by
  intro one
  have last := one.2.2.2.2.2.2.2.2
  exact last.offline timedOut (by decide +kernel) rfl 1 ⟨⟨"192.0.2.1:2000", by decide +kernel⟩, by decide +kernel⟩
    (by decide +kernel)

end Ipsc2Mmdvm.Mmdvm
