import Ipsc2Mmdvm.Mmdvm.LiveSessions

namespace Ipsc2Mmdvm.Mmdvm

open Data Proto PtrMap

/-! How the session table represents the sessions: each stands under the text of its address and
nowhere else, also after it has moved. -/

def Addressed (hotspots : Hotspots) : Prop := ∀ key sess, hotspots key = some sess → sess.addr.string = key

structure Represented (sessions : Sessions) : Prop where
  keyed : WellKeyed sessions
  addressed : Addressed sessions.view

section

variable {hotspots : Hotspots} {sessions bound : Sessions} {addr : UDPAddr} {key oldKey : String} {sess : Ref}
  {order : Enumeration String} {dmrid : UInt32}

theorem Addressed.erase (addressed : Addressed hotspots) (key : String) : Addressed (Function.update hotspots key none) := by
  intro other sess at'
  rcases update_eq_some.mp at' with gone | kept
  · cases gone.2
  · exact addressed other sess kept.2

theorem Addressed.enter (addressed : Addressed hotspots) {sess : Session} (own : sess.addr.string = key) :
    Addressed (Function.update hotspots key (some sess)) := by
  intro other sess' at'
  rcases update_eq_some.mp at' with ⟨rfl, entered⟩ | kept
  · cases entered
    exact own
  · exact addressed other sess' kept.2

theorem Represented.enter (represented : Represented sessions) (addr : UDPAddr) {f : Session → Session}
    (keeps : ∀ sess, (f sess).addr = sess.addr) :
    Represented (enter sessions addr f) := by
  refine ⟨represented.keyed.enter addr f, ?_⟩
  rw [represented.keyed.view_enter addr f]
  apply represented.addressed.enter
  rw [keeps]

theorem Represented.rebind (represented : Represented sessions) (addr : UDPAddr) (found : sessions.find oldKey = some sess) :
    Represented (rebindSessionLocked sessions oldKey addr sess) := by
  obtain ⟨keyed, view⟩ := represented.keyed.rebind addr found
  refine ⟨keyed, ?_⟩
  rw [view]
  exact (represented.addressed.erase oldKey).enter rfl

theorem Represented.touch (represented : Represented sessions) (found : sessions.find addr.string = some sess) {touched : Session}
    (own : touched.addr = addr) : Represented (sessions.modify sess fun _ => touched) := by
  refine ⟨represented.keyed.modify sess _, ?_⟩
  rw [represented.keyed.unshared.view_modify found]
  apply represented.addressed.enter
  rw [own]

structure Rebinds (sessions : Sessions) (order : Enumeration String) (addr : UDPAddr) (dmrid : UInt32) (oldKey : String)
    (sess : Ref) : Prop where
  unready : ∀ present, sessions.find addr.string = some present → (sessions.deref present).state ≠ .ready
  identified : dmrid ≠ 0
  found : findReadySessionByDMRIDLocked sessions order dmrid = some (oldKey, sess)

/-- The session stands under the new address only, and the other ready sessions where they stood. -/
structure Moved (sessions : Sessions) (oldKey : String) (addr : UDPAddr) (sess : Ref) (after : Sessions) : Prop where
  entered : after.find addr.string = some sess
  removed : after.find oldKey = none
  kept : ∀ key other, sessions.find key = some other → other ≠ sess → (sessions.deref other).state = .ready →
    after.find key = some other ∧ after.deref other = sessions.deref other

theorem boundSession_of_rebinds (rebinds : Rebinds sessions order addr dmrid oldKey sess) :
    boundSession sessions order addr dmrid = (rebindSessionLocked sessions oldKey addr sess, some sess) := by
  have unready : ((sessions.find addr.string).any fun sess => (sessions.deref sess).state == .ready) = false := by
    cases present : sessions.find addr.string with
    | none => rfl
    | some other => simpa using rebinds.unready other present
  simp [boundSession, unready, rebinds.identified, rebinds.found]

theorem boundSession_of_not_rebinds (stays : ∀ oldKey sess, ¬Rebinds sessions order addr dmrid oldKey sess) :
    boundSession sessions order addr dmrid = (sessions, sessions.find addr.string) := by
  simp only [boundSession]
  split
  case isFalse => rfl
  case isTrue searches =>
    simp only [Bool.and_eq_true, Bool.not_eq_true', bne_iff_ne, ne_eq] at searches
    cases search : findReadySessionByDMRIDLocked sessions order dmrid with
    | none => rfl
    | some pair =>
      refine absurd ⟨?_, searches.2, search⟩ (stays pair.1 pair.2)
      intro present found
      simpa [found] using searches.1

theorem moved_of_rebinds (keyed : WellKeyed sessions) (rebinds : Rebinds sessions order addr dmrid oldKey sess) :
    Moved sessions oldKey addr sess (rebindSessionLocked sessions oldKey addr sess) := by
  obtain ⟨found, picked⟩ := findWhere_some rebinds.found
  simp only [Bool.and_eq_true, beq_iff_eq] at picked
  have known : sess < sessions.next := lt_next found
  have named : oldKey ≠ "" := by
    intro empty
    rw [empty, keyed.named] at found
    cases found
  have elsewhere : oldKey ≠ addr.string := by
    intro same
    exact rebinds.unready sess (same ▸ found) picked.1
  have after : rebindSessionLocked sessions oldKey addr sess =
      ((sessions.delete oldKey).modify sess ({ · with addr })).store addr.string sess := by
    rw [rebindSessionLocked, if_neg addr.string_ne_empty, if_pos ⟨named, elsewhere⟩]
  have lookups (key : String) : (rebindSessionLocked sessions oldKey addr sess).find key =
      if key = addr.string then some sess else if key = oldKey then none else sessions.find key := by
    rw [after, find_store (by exact known), find_modify, find_delete]
  refine ⟨?_, ?_, ?_⟩
  · rw [lookups, if_pos rfl]
  · rw [lookups, if_neg elsewhere, if_pos rfl]
  · intro key other present differs ready
    have notNew : key ≠ addr.string := fun same => rebinds.unready other (same ▸ present) ready
    have notOld : key ≠ oldKey := by
      intro same
      rw [same, found] at present
      exact differs (Option.some.inj present).symm
    refine ⟨?_, ?_⟩
    · rw [lookups, if_neg notNew, if_neg notOld, present]
    · rw [after, deref_store, deref_modify, if_neg differs, deref_delete]

theorem Represented.boundSession (represented : Represented sessions) {found : Option Ref}
    (result : boundSession sessions order addr dmrid = (bound, found)) :
    Represented bound ∧ found = bound.find addr.string := by
  by_cases moves : ∃ oldKey sess, Rebinds sessions order addr dmrid oldKey sess
  · obtain ⟨oldKey, sess, rebinds⟩ := moves
    rw [boundSession_of_rebinds rebinds, Prod.mk.injEq] at result
    obtain ⟨rfl, rfl⟩ := result
    exact ⟨represented.rebind addr (findWhere_some rebinds.found).1,
      (moved_of_rebinds represented.keyed rebinds).entered.symm⟩
  · rw [boundSession_of_not_rebinds fun oldKey sess rebinds => moves ⟨oldKey, sess, rebinds⟩, Prod.mk.injEq] at result
    obtain ⟨rfl, rfl⟩ := result
    exact ⟨represented, rfl⟩

theorem Represented.setOffline (represented : Represented sessions) (key : String) : Represented (setOffline sessions key).1 := by
  obtain ⟨keyed, view, -⟩ := setOffline_spec represented.keyed key
  refine ⟨keyed, ?_⟩
  rw [view]
  exact represented.addressed.erase key

theorem Represented.step {cfg : ServerConfig} {sha256 : Bytes → Digest} {h : Server} {event : ServerEvent}
    {result : Sessions × List Effect} (step : ServerStep cfg sha256 h event result) (represented : Represented h.sessions) :
    Represented result.1 := by
  cases step with
  | ignored | refused => exact represented
  | offline key => exact represented.setOffline key
  | challenged | authenticated | configured =>
    dsimp only
    exact represented.enter _ fun _ => rfl
  | pinged found _ touched | forwarded found _ touched =>
    obtain ⟨bound, present⟩ := represented.boundSession found
    exact bound.touch present.symm (by rw [touched]; rfl)

end

theorem represented_new : Represented newMMDVMServer.sessions := by
  refine ⟨⟨unshared_empty, find_empty⟩, ?_⟩
  intro key sess at'
  simp [newMMDVMServer, view] at at'

/-- In every state reached by datagrams and timeouts each session in the table stands under one
key, which is the text of its address, and a session that moves leaves its old key and no other
ready session is lost. -/
theorem session_table_represented (cfg : ServerConfig) (sha256 : Bytes → Digest) (events : List ServerEvent) :
    let sessions := (runFrom (fun h event => (Server.handle cfg sha256 h event).1) newMMDVMServer events).sessions
    (∀ key other sess, sessions.find key = some sess → sessions.find other = some sess → key = other) ∧
      (∀ key sess, sessions.find key = some sess → (sessions.deref sess).addr.string = key) ∧
      ∀ order addr dmrid oldKey sess, Rebinds sessions order addr dmrid oldKey sess →
        Moved sessions oldKey addr sess (rebindSessionLocked sessions oldKey addr sess) := by
  intro sessions
  have represented : Represented sessions :=
    @runFrom_induct _ _ _ _ events (fun h : Server => Represented h.sessions)
      (fun h event => Represented.step (serverStep_handle cfg sha256 h event)) represented_new
  refine ⟨?_, ?_, ?_⟩
  · intro key other sess at' at''
    exact represented.keyed.unshared at' at''
  · intro key sess found
    exact represented.addressed key _ (PtrMap.view_of_find found)
  · intro order addr dmrid oldKey sess rebinds
    exact moved_of_rebinds represented.keyed rebinds

end Ipsc2Mmdvm.Mmdvm
