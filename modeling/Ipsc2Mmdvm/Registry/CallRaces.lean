import Ipsc2Mmdvm.Data.Tasks
import Ipsc2Mmdvm.Registry.Calls

namespace Ipsc2Mmdvm.Registry

open Data List Option

/-! A row is unfinished until `UpdateCallDuration` sets its end.  It is held by the entry of its
call or, between `InsertCall` and the registration, by the execution that will register it. -/

def CallRecord.Unfinished (row : CallRecord) : Prop := row.endedAt = 0

instance (row : CallRecord) : Decidable row.Unfinished := inferInstanceAs (Decidable (row.endedAt = 0))

structure Loaded where
  rows : CallRows
  recent : List CallRecord
  callTotal : Nat
  ended : ∀ row ∈ rows.rows, ¬ row.Unfinished

def Loaded.start (loaded : Loaded) : CallService where
  rows := loaded.rows
  activeCall := ∅
  recent := loaded.recent
  callTotal := loaded.callTotal
  published := []
  tasks := []
  removed := none

/-- Calls are recorded once and can be ended, and finishing one removes its own entry. -/
structure CallService.Recorded (s : CallService) : Prop where
  single : ∀ row ∈ s.rows.rows, ∀ row' ∈ s.rows.rows, row.Unfinished → row'.Unfinished →
    callDedupKey row = callDedupKey row' → row = row'
  held : ∀ row ∈ s.rows.rows, row.Unfinished →
    (∃ key active, s.activeCall.lookup key = some active ∧ active.id = row.id) ∨
      ∃ stored, .register stored false ∈ s.tasks ∧ stored.id = row.id
  own : ∀ finished removed, s.removed = some (finished, removed) → removed = finished

def Task.recordingKey : Task → Option String
  | .insert call false => some (callDedupKey call)
  | .register stored false => some (callDedupKey stored)
  | _ => none

def Task.RecordsOther (task other : Task) : Prop :=
  ∀ key, task.recordingKey = some key → other.recordingKey ≠ some key

instance : Std.Symm Task.RecordsOther :=
  ⟨fun _ _ apart key recorded recorded' => apart key recorded' recorded⟩

def Task.registeringKey : Task → Option String
  | .register stored false => some (callDedupKey stored)
  | _ => none

def Task.finishes : Task → List Finish
  | .update item rest => item :: rest
  | .remove item rest => item :: rest
  | _ => []

/-- A call that has no entry is taken up only if no other execution is recording one
with its key, and registered only if no execution is finishing one with its key. -/
def CallService.KeepsApart (lookup : UInt32 → String) (s : CallService) : CallStep → Prop
  | .recordCall call ended _ order =>
    ended = false → s.findActiveCall order (enrichCall lookup call) ended = none →
      ∀ task ∈ s.tasks, task.recordingKey ≠ some (callDedupKey call)
  | .expireCalls _ _ => True
  | .advance i =>
    ∀ key ∈ s.tasks[i]?.bind Task.registeringKey, ∀ task ∈ s.tasks, ∀ item ∈ task.finishes, item.key ≠ key

instance (lookup : UInt32 → String) (s : CallService) : (event : CallStep) → Decidable (s.KeepsApart lookup event)
  | .recordCall _ _ _ _ => inferInstanceAs (Decidable (_ → _ → _))
  | .expireCalls _ _ => .isTrue trivial
  | .advance i => inferInstanceAs (Decidable (∀ key ∈ s.tasks[i]?.bind Task.registeringKey,
      ∀ task ∈ s.tasks, ∀ item ∈ task.finishes, item.key ≠ key))

structure Task.Fits (rows : CallRows) (activeCall : GoMap String ActiveCall) (task : Task) : Prop where
  absent : ∀ key, task.recordingKey = some key → activeCall.lookup key = none
  ending : ∀ call, task = .insert call true → ¬ call.Unfinished
  registering : ∀ stored, task = .register stored false → stored.id < rows.next ∧
    ∀ row ∈ rows.rows, row.id = stored.id → callDedupKey row = callDedupKey stored
  finishing : ∀ item ∈ task.finishes, item.active.id < rows.next ∧
    ∀ active, activeCall.lookup item.key = some active → active.id = item.active.id
  removing : ∀ item rest, task = .remove item rest →
    ∀ row ∈ rows.rows, row.id = item.active.id → ¬ row.Unfinished

structure CallService.Apart (s : CallService) : Prop where
  recorded : s.Recorded
  entry : ∀ key active, s.activeCall.lookup key = some active →
    active.id < s.rows.next ∧ ∀ row ∈ s.rows.rows, row.id = active.id → callDedupKey row = key
  recording : s.tasks.Pairwise Task.RecordsOther
  fits : ∀ task ∈ s.tasks, task.Fits s.rows s.activeCall

section Store

variable {rows : CallRows} {call row : CallRecord}

theorem mem_insertCall (member : row ∈ (insertCall rows call).1.rows) :
    row ∈ rows.rows ∨ row = (insertCall rows call).2 := by
  have kept := (mem_filter.mp member).1
  exact (mem_append.mp kept).imp_right mem_singleton.mp

theorem callDedupKey_finish (id : Nat) (endedAt : Time) (durationMS : Int) :
    callDedupKey (row.finish id endedAt durationMS) = callDedupKey row := by
  simp only [CallRecord.finish]
  split <;> rfl

theorem mem_updateCallDuration {id : Nat} {endedAt : Time} {durationMS : Int}
    (member : row ∈ (updateCallDuration rows id endedAt durationMS).rows) :
    ∃ old ∈ rows.rows, row = old.finish id endedAt durationMS := by
  obtain ⟨old, listed, same⟩ := mem_map.mp member
  exact ⟨old, listed, same.symm⟩

theorem unfinished_updateCallDuration {id : Nat} {endedAt : Instant} {durationMS : Int}
    (member : row ∈ (updateCallDuration rows id endedAt durationMS).rows) (unfinished : row.Unfinished) :
    row ∈ rows.rows ∧ row.id ≠ id := by
  obtain ⟨old, listed, rfl⟩ := mem_updateCallDuration member
  simp only [CallRecord.finish] at unfinished ⊢
  split at unfinished
  · exact absurd unfinished endedAt.property
  · rename_i differs
    rw [if_neg differs]
    exact ⟨listed, differs⟩

end Store

section Fits

variable {rows : CallRows} {activeCall : GoMap String ActiveCall} {task : Task}

theorem fits_next (items : List Finish) (finishing : ∀ item ∈ items, item.active.id < rows.next ∧
      ∀ active, activeCall.lookup item.key = some active → active.id = item.active.id) :
    (Task.next items).Fits rows activeCall := by
  cases items with
  | nil => exact ⟨by simp [Task.next, Task.recordingKey], by simp [Task.next], by simp [Task.next],
      by simp [Task.next, Task.finishes], by simp [Task.next]⟩
  | cons item rest => exact ⟨by simp [Task.next, Task.recordingKey], by simp [Task.next], by simp [Task.next],
      finishing, by simp [Task.next]⟩

theorem fits_done : Task.done.Fits rows activeCall := fits_next [] (by simp)

theorem recordingKey_next (items : List Finish) : (Task.next items).recordingKey = none := by
  cases items <;> rfl

theorem Task.Fits.insertCall (fits : task.Fits rows activeCall) (call : CallRecord) :
    task.Fits (insertCall rows call).1 activeCall := by
  have fresh {id : Nat} (old : id < rows.next) : (Registry.insertCall rows call).2.id ≠ id := (Nat.ne_of_lt old).symm
  refine ⟨fits.absent, fits.ending, ?_, ?_, ?_⟩
  · intro stored same
    obtain ⟨known, keyed⟩ := fits.registering stored same
    refine ⟨Nat.lt_succ_of_lt known, fun row member id => ?_⟩
    rcases mem_insertCall member with old | rfl
    · exact keyed row old id
    · exact absurd id (fresh known)
  · intro item member
    exact ⟨Nat.lt_succ_of_lt (fits.finishing item member).1, (fits.finishing item member).2⟩
  · intro item rest same row member id
    rcases mem_insertCall member with old | rfl
    · exact fits.removing item rest same row old id
    · exact absurd id (fresh (fits.finishing item (by simp [same, Task.finishes])).1)

theorem Task.Fits.updateCallDuration (fits : task.Fits rows activeCall) (id : Nat) (endedAt : Instant)
    (durationMS : Int) : task.Fits (updateCallDuration rows id endedAt durationMS) activeCall := by
  refine ⟨fits.absent, fits.ending, ?_, fits.finishing, ?_⟩
  · intro stored same
    refine ⟨(fits.registering stored same).1, fun row member numbered => ?_⟩
    obtain ⟨old, listed, rfl⟩ := mem_updateCallDuration member
    rw [callDedupKey_finish]
    exact (fits.registering stored same).2 old listed ((old.finish_id _ _ _).symm.trans numbered)
  · intro item rest same row member numbered unfinished
    have kept := (unfinished_updateCallDuration member unfinished).1
    exact fits.removing item rest same row kept numbered unfinished

theorem Task.Fits.entries (fits : task.Fits rows activeCall) {changed : GoMap String ActiveCall}
    (absent : ∀ key, task.recordingKey = some key → changed.lookup key = none)
    (finishing : ∀ item ∈ task.finishes, ∀ active, changed.lookup item.key = some active →
      active.id = item.active.id) : task.Fits rows changed :=
  ⟨absent, fits.ending, fits.registering,
    fun item member => ⟨(fits.finishing item member).1, finishing item member⟩, fits.removing⟩

end Fits

namespace CallService

variable {lookup : UInt32 → String} {s : CallService} {i : Nat} {task : Task} {order : Enumeration String}
  {item : Finish} {call stored : CallRecord} {ended : Bool} {active : ActiveCall} {rest : List Finish}

theorem Apart.quiet (apart : s.Apart) : Apart { s with removed := none } :=
  ⟨⟨apart.recorded.single, apart.recorded.held, by simp⟩, apart.entry, apart.recording, apart.fits⟩

theorem Apart.spawn (apart : s.Apart) (fits : task.Fits s.rows s.activeCall)
    (others : ∀ other ∈ s.tasks, other.RecordsOther task) : (s.spawn task).Apart := by
  refine ⟨⟨apart.recorded.single, ?_, by simp [CallService.spawn]⟩, apart.entry, ?_, ?_⟩
  · intro row member unfinished
    refine (apart.recorded.held row member unfinished).imp_right fun held => ?_
    obtain ⟨stored, listed, same⟩ := held
    exact ⟨stored, mem_append_left _ listed, same⟩
  · refine pairwise_append.mpr ⟨apart.recording, pairwise_singleton _ _, ?_⟩
    intro other listed new member
    rw [mem_singleton.mp member]
    exact others other listed
  · intro other listed
    rcases mem_append.mp listed with old | new
    · exact apart.fits other old
    · rw [mem_singleton.mp new]
      exact fits

theorem Apart.spawnFinish (apart : s.Apart) (items : List Finish)
    (copied : ∀ item ∈ items, s.activeCall.lookup item.key = some item.active) :
    (s.spawn (.next items)).Apart := by
  refine apart.spawn (fits_next items fun item member => ?_) fun other _ key _ => ?_
  · have found := copied item member
    refine ⟨(apart.entry _ _ found).1, fun active present => ?_⟩
    rw [← Option.some.inj (found.symm.trans present)]
  · simp [recordingKey_next]

theorem lookup_of_mem_expired {now : Instant} (member : item ∈ s.expired now order) :
    s.activeCall.lookup item.key = some item.active := by
  obtain ⟨key, _, listed⟩ := mem_filterMap.mp member
  obtain ⟨active, idle, rfl⟩ := map_eq_some_iff.mp listed
  exact (filter_eq_some_iff.mp idle).1

theorem lookup_of_findActiveCall {key : String} (found : s.findActiveCall order call ended = some (key, active)) :
    s.activeCall.lookup key = some active := by
  simp only [findActiveCall] at found
  split at found
  · cases found
    assumption
  · obtain ⟨candidate, _, result⟩ := exists_of_findSome?_eq_some found
    obtain ⟨entry, kept, same⟩ := map_eq_some_iff.mp result
    cases same
    exact (filter_eq_some_iff.mp kept).1

theorem lookup_of_findActiveCall_none (found : s.findActiveCall order call ended = none) :
    s.activeCall.lookup (callDedupKey call) = none := by
  simp only [findActiveCall] at found
  split at found
  · cases found
  · assumption

theorem Apart.touch (apart : s.Apart) {key : String} (now : Time) (found : s.activeCall.lookup key = some active) :
    Apart { s with activeCall := s.activeCall.insert key { active with lastSeenAt := now }, removed := none } := by
  have same (other : String) :
      ((s.activeCall.insert key { active with lastSeenAt := now }).lookup other).map ActiveCall.id =
        (s.activeCall.lookup other).map ActiveCall.id := by
    rw [GoMap.lookup_insert_eq]
    split
    · rename_i own
      rw [own, found]
      rfl
    · rfl
  have entry {other : String} {entry : ActiveCall}
      (present : (s.activeCall.insert key { active with lastSeenAt := now }).lookup other = some entry) :
      ∃ old, s.activeCall.lookup other = some old ∧ old.id = entry.id := by
    have known := same other
    rw [present] at known
    exact map_eq_some_iff.mp known.symm
  refine ⟨⟨apart.recorded.single, ?_, by simp⟩, ?_, apart.recording, ?_⟩
  · intro row member unfinished
    refine (apart.recorded.held row member unfinished).imp_left fun held => ?_
    obtain ⟨other, old, present, id⟩ := held
    have known := (same other).trans (congrArg (Option.map ActiveCall.id) present)
    obtain ⟨new, present', id'⟩ := map_eq_some_iff.mp known
    exact ⟨other, new, present', id'.trans id⟩
  · intro other new present
    obtain ⟨old, known, id⟩ := entry present
    rw [← id]
    exact apart.entry other old known
  · intro task listed
    refine (apart.fits task listed).entries ?_ ?_
    · intro other recorded
      have known := same other
      rw [(apart.fits task listed).absent other recorded] at known
      exact map_eq_none_iff.mp known
    · intro item member new present
      obtain ⟨old, known, id⟩ := entry present
      rw [← id]
      exact ((apart.fits task listed).finishing item member).2 old known

theorem callDedupKey_enrichCall (lookup : UInt32 → String) (call : CallRecord) :
    callDedupKey (enrichCall lookup call) = callDedupKey call := by
  simp only [enrichCall]
  repeat' split
  all_goals rfl

theorem Apart.recordCall (apart : s.Apart) {now : Instant} (keepsApart : s.KeepsApart lookup (.recordCall call ended now order)) :
    (s.recordCall (enrichCall lookup call) ended now order).Apart := by
  simp only [CallService.recordCall]
  cases found : s.findActiveCall order (enrichCall lookup call) ended with
  | some pair =>
    obtain ⟨key, active⟩ := pair
    have present := lookup_of_findActiveCall found
    cases ended with
    | true => exact apart.spawnFinish [⟨key, active, now⟩] (by simpa using present)
    | false => exact apart.touch now present
  | none =>
    have absent := lookup_of_findActiveCall_none found
    refine apart.spawn ⟨?_, ?_, by simp, by simp [Task.finishes], by simp⟩ ?_
    · intro key recorded
      cases ended with
      | true => cases recorded
      | false =>
        cases recorded
        exact absent
    · intro inserted same
      simp only [Task.insert.injEq] at same
      obtain ⟨rfl, rfl⟩ := same
      exact now.property
    · intro other listed key recorded recorded'
      cases ended with
      | true => cases recorded'
      | false =>
        cases recorded'
        have others := keepsApart rfl found other listed
        rw [← callDedupKey_enrichCall lookup] at others
        exact others recorded

theorem Apart.no_row_before_insert (apart : s.Apart) (listed : .insert call false ∈ s.tasks) (row : CallRecord)
    (member : row ∈ s.rows.rows) (unfinished : row.Unfinished) : callDedupKey row ≠ callDedupKey call := by
  intro sameKey
  have absent := (apart.fits _ listed).absent _ rfl
  rcases apart.recorded.held row member unfinished with ⟨key, active, found, id⟩ | ⟨stored, register, id⟩
  · rw [← (apart.entry key active found).2 row member id.symm, sameKey, absent] at found
    cases found
  · have sameKey' := ((apart.fits _ register).registering stored rfl).2 row member id.symm
    have others := apart.recording.forall listed register Task.noConfusion
    exact others _ rfl (by rw [Task.recordingKey, ← sameKey', sameKey])

theorem Apart.held_set (apart : s.Apart) {new : Task} (at' : s.tasks[i]? = some task)
    (other : ∀ stored, task ≠ .register stored false) {row : CallRecord} (member : row ∈ s.rows.rows)
    (unfinished : row.Unfinished) :
    (∃ key active, s.activeCall.lookup key = some active ∧ active.id = row.id) ∨
      ∃ stored, .register stored false ∈ s.tasks.set i new ∧ stored.id = row.id := by
  refine (apart.recorded.held row member unfinished).imp_right fun held => ?_
  obtain ⟨stored, register, id⟩ := held
  exact ⟨stored, mem_set_of_ne register at' (other stored).symm, id⟩

theorem Apart.recording_set (apart : s.Apart) {new : Task} (at' : s.tasks[i]? = some task)
    (same : ∀ key, new.recordingKey = some key → task.recordingKey = some key) :
    (s.tasks.set i new).Pairwise Task.RecordsOther :=
  pairwise_set apart.recording at' (fun _ pair key recorded recorded' => pair key recorded (same key recorded'))
    (fun _ pair key recorded => pair key (same key recorded))

theorem Apart.insert (apart : s.Apart) (at' : s.tasks[i]? = some (.insert call ended)) : Apart { s with
      rows := (insertCall s.rows call).1
      tasks := s.tasks.set i (.register (insertCall s.rows call).2 ended)
      removed := none } := by
  have listed := mem_of_getElem? at'
  have bound := (List.getElem?_eq_some_iff.mp at').1
  have same (key : String) (recorded : (Task.register (insertCall s.rows call).2 ended).recordingKey = some key) :
      (Task.insert call ended).recordingKey = some key := by
    cases ended <;> exact recorded
  have numbered (row : CallRecord) (member : row ∈ s.rows.rows) : row.id ≠ (insertCall s.rows call).2.id :=
    Nat.ne_of_lt (s.rows.bounded row member)
  have alone (row : CallRecord) (member : row ∈ s.rows.rows) (unfinished : row.Unfinished)
      (new : (insertCall s.rows call).2.Unfinished) : callDedupKey row ≠ callDedupKey call := by
    cases ended with
    | true => exact absurd new ((apart.fits _ listed).ending call rfl)
    | false => exact apart.no_row_before_insert listed row member unfinished
  refine ⟨⟨?_, ?_, by simp⟩, ?_, apart.recording_set at' same, ?_⟩
  · intro row member row' member' unfinished unfinished' sameKey
    rcases mem_insertCall member with old | new <;> rcases mem_insertCall member' with old' | new'
    · exact apart.recorded.single row old row' old' unfinished unfinished' sameKey
    · exact absurd (sameKey.trans (congrArg callDedupKey new')) (alone row old unfinished (new' ▸ unfinished'))
    · exact absurd (sameKey.symm.trans (congrArg callDedupKey new)) (alone row' old' unfinished' (new ▸ unfinished))
    · rw [new, new']
  · intro row member unfinished
    rcases mem_insertCall member with old | rfl
    · exact apart.held_set at' (by simp) old unfinished
    · cases ended with
      | true => exact absurd unfinished ((apart.fits _ listed).ending call rfl)
      | false => exact .inr ⟨_, mem_set bound _, rfl⟩
  · intro key active found
    obtain ⟨known, keyed⟩ := apart.entry key active found
    refine ⟨Nat.lt_succ_of_lt known, fun row member id => ?_⟩
    rcases mem_insertCall member with old | rfl
    · exact keyed row old id
    · exact absurd id (Nat.ne_of_lt known).symm
  · refine forall_mem_set (fun task member => (apart.fits task member).insertCall call) ?_
    refine ⟨fun key recorded => (apart.fits _ listed).absent key (same key recorded), by simp, ?_,
      by simp [Task.finishes], by simp⟩
    intro stored own
    cases own
    refine ⟨Nat.lt_succ_self _, fun row member id => ?_⟩
    rcases mem_insertCall member with old | rfl
    · exact absurd id (numbered row old)
    · rfl

def registered (stored : CallRecord) : ActiveCall :=
  ⟨stored.id, stored.createdAt, stored.createdAt, stored.frontend, stored.sourceKey, stored.slot,
    stored.callType⟩

theorem Apart.register_ended (apart : s.Apart) (at' : s.tasks[i]? = some (.register stored true)) :
    Apart { s.register lookup stored true with tasks := s.tasks.set i .done, removed := none } :=
  ⟨⟨apart.recorded.single, fun _ member unfinished => apart.held_set at' (by simp) member unfinished, by simp⟩,
    apart.entry, apart.recording_set at' (by simp [Task.recordingKey]), forall_mem_set apart.fits fits_done⟩

theorem Apart.register (apart : s.Apart) (at' : s.tasks[i]? = some (.register stored false))
    (unfinishing : ∀ task ∈ s.tasks, ∀ item ∈ task.finishes, item.key ≠ callDedupKey stored) :
    Apart { s.register lookup stored false with tasks := s.tasks.set i .done, removed := none } := by
  have listed := mem_of_getElem? at'
  have absent := (apart.fits _ listed).absent _ rfl
  have lookup_eq (key : String) : (s.activeCall.insert (callDedupKey stored) (registered stored)).lookup key =
        if key = callDedupKey stored then some (registered stored) else s.activeCall.lookup key :=
    GoMap.lookup_insert_eq _ _ _ _
  refine ⟨⟨apart.recorded.single, ?_, by simp⟩, ?_, apart.recording_set at' (by simp [Task.recordingKey]), ?_⟩
  · intro row member unfinished
    rcases apart.recorded.held row member unfinished with ⟨key, active, found, id⟩ | ⟨other, register, id⟩
    · refine .inl ⟨key, active, (lookup_eq key).trans ?_, id⟩
      rw [if_neg, found]
      intro same
      rw [same, absent] at found
      cases found
    · by_cases own : other = stored
      · subst own
        exact .inl ⟨_, registered other, (lookup_eq _).trans (if_pos rfl), id⟩
      · exact .inr ⟨other, mem_set_of_ne register at' (by simpa using own), id⟩
  · intro key active found
    have found := (lookup_eq key).symm.trans found
    split at found
    · rename_i own
      cases found
      obtain ⟨known, keyed⟩ := (apart.fits _ listed).registering stored rfl
      exact ⟨known, fun row member id => (keyed row member id).trans own.symm⟩
    · exact apart.entry key active found
  · intro task member
    rcases rel_of_mem_set apart.recording at' member with rfl | other
    · exact fits_done
    · rcases mem_or_eq_of_mem_set member with old | rfl
      · refine (apart.fits task old).entries ?_ ?_
        · intro key recorded
          have differs : key ≠ callDedupKey stored := fun own => other key (congrArg some own.symm) recorded
          exact (lookup_eq key).trans (if_neg differs ▸ (apart.fits task old).absent key recorded)
        · intro item finishes active found
          have found := (lookup_eq item.key).symm.trans found
          rw [if_neg (unfinishing task old item finishes)] at found
          exact ((apart.fits task old).finishing item finishes).2 active found
      · exact fits_done

theorem Apart.update (apart : s.Apart) (at' : s.tasks[i]? = some (.update item rest)) : Apart { s with
      rows := updateCallDuration s.rows item.active.id item.endedAt item.durationMS
      tasks := s.tasks.set i (.remove item rest)
      removed := none } := by
  have fits := (apart.fits _ (mem_of_getElem? at')).updateCallDuration item.active.id item.endedAt item.durationMS
  refine ⟨⟨?_, ?_, by simp⟩, ?_, apart.recording_set at' (by simp [Task.recordingKey]), ?_⟩
  · intro row member row' member' unfinished unfinished'
    exact apart.recorded.single row (unfinished_updateCallDuration member unfinished).1
      row' (unfinished_updateCallDuration member' unfinished').1 unfinished unfinished'
  · intro row member unfinished
    exact apart.held_set at' (by simp) (unfinished_updateCallDuration member unfinished).1 unfinished
  · intro key active found
    refine ⟨(apart.entry key active found).1, fun row member id => ?_⟩
    obtain ⟨old, listed, rfl⟩ := mem_updateCallDuration member
    rw [callDedupKey_finish]
    exact (apart.entry key active found).2 old listed ((old.finish_id _ _ _).symm.trans id)
  · refine forall_mem_set (fun task member => (apart.fits task member).updateCallDuration _ _ _) ?_
    refine ⟨by simp [Task.recordingKey], by simp, by simp, fits.finishing, ?_⟩
    intro finished others same row member id unfinished
    cases same
    exact (unfinished_updateCallDuration member unfinished).2 id

theorem Apart.remove (apart : s.Apart) (at' : s.tasks[i]? = some (.remove item rest)) :
    Apart { s.remove lookup item with tasks := s.tasks.set i (.next rest) } := by
  have fits := apart.fits _ (mem_of_getElem? at')
  have own := (fits.finishing item (by simp [Task.finishes])).2
  have lookup_eq (key : String) : (s.activeCall.erase item.key).lookup key =
      if key = item.key then none else s.activeCall.lookup key := GoMap.lookup_erase_eq _ _ _
  have erased {key : String} {active : ActiveCall} (found : (s.activeCall.erase item.key).lookup key = some active) :
      s.activeCall.lookup key = some active := by
    rw [lookup_eq] at found
    split at found
    · cases found
    · exact found
  refine ⟨⟨apart.recorded.single, ?_, ?_⟩, fun key active found => apart.entry key active (erased found),
    apart.recording_set at' (by simp [recordingKey_next]), ?_⟩
  · intro row member unfinished
    refine (apart.held_set at' (by simp) member unfinished).imp_left fun held => ?_
    obtain ⟨key, active, found, id⟩ := held
    refine ⟨key, active, (lookup_eq key).trans ?_, id⟩
    rw [if_neg, found]
    intro same
    rw [same] at found
    exact fits.removing item rest rfl row member (id.symm.trans (own active found)) unfinished
  · intro finished removed gone
    obtain ⟨active, found, same⟩ := map_eq_some_iff.mp gone
    cases same
    exact own active found
  · refine forall_mem_set (fun task member => (apart.fits task member).entries ?_ ?_) (fits_next rest ?_)
    · intro key recorded
      have absent := (apart.fits task member).absent key recorded
      exact (lookup_eq key).trans (by rw [absent, ite_self])
    · intro other finishes active found
      exact ((apart.fits task member).finishing other finishes).2 active (erased found)
    · intro other listed
      obtain ⟨known, same⟩ := fits.finishing other (mem_cons_of_mem item listed)
      exact ⟨known, fun active found => same active (erased found)⟩

theorem Apart.step (apart : s.Apart) {event : CallStep} (keepsApart : s.KeepsApart lookup event) :
    (s.step lookup event).Apart := by
  cases event with
  | recordCall call ended now order => exact apart.recordCall keepsApart
  | expireCalls now order => exact apart.spawnFinish _ fun _ member => lookup_of_mem_expired member
  | advance i =>
    simp only [CallService.step, advance]
    cases at' : s.tasks[i]? with
    | none => exact apart.quiet
    | some task =>
      cases task with
      | insert call ended => exact apart.insert at'
      | register stored ended =>
        cases ended with
        | true => exact apart.register_ended at'
        | false => exact apart.register at' (keepsApart (callDedupKey stored) (by rw [at']; rfl))
      | update item rest => exact apart.update at'
      | remove item rest => exact apart.remove at'
      | done => exact apart.quiet

end CallService

theorem apart_start (loaded : Loaded) : loaded.start.Apart := by
  refine ⟨⟨?_, ?_, by simp [Loaded.start]⟩, by simp [Loaded.start], List.Pairwise.nil, by simp [Loaded.start]⟩
  · intro row member _ _ unfinished
    exact absurd unfinished (loaded.ended row member)
  · intro row member unfinished
    exact absurd unfinished (loaded.ended row member)

/-- However the sections and store calls of any number of executions interleave, calls
are recorded once, can be ended, and are removed by the execution that finishes them,
if no call is taken up beside another execution that records one with its key or
registered beside one that finishes one with its key. -/
theorem calls_recorded_once (lookup : UInt32 → String) (loaded : Loaded) (events : List CallStep)
    (keepsApart : EachStep (CallService.step lookup) (CallService.KeepsApart lookup) loaded.start events) :
    EachState (CallService.step lookup) CallService.Recorded loaded.start events :=
  (keepsApart.eachState (fun _ _ apart => CallService.Apart.step apart) (apart_start loaded)).mono
    fun _ apart => apart.recorded

private def emptyTable : Loaded where
  rows := .empty CallRecord.id CallRecord.id
  recent := []
  callTotal := 0
  ended := by simp [Table.empty]

private def voice : CallRecord :=
  { frontend := "moto", sourceCategory := .moto, sourceKey := "moto:5", slot := 1, callType := "group"
    streamID := 7, srcID := 5, dstID := 91 }

private def seconds (count : Nat) (later : count * 1000000000 ≠ 0) : Instant := ⟨count * 1000000000, later⟩

private def record (ended : Bool) (count : Nat) (later : count * 1000000000 ≠ 0) : CallStep :=
  .recordCall voice ended (seconds count later) (.increasing String)

theorem calls_recorded_once_in_turn :
    let events : List CallStep :=
      [record false 1 (by decide), .advance 0, .advance 0, record true 2 (by decide), .advance 1, .advance 1,
        record false 3 (by decide), .advance 2, .advance 2]
    (runFrom (CallService.step fun _ => "") emptyTable.start events).rows.rows.length = 2 ∧
      EachState (CallService.step fun _ => "") CallService.Recorded emptyTable.start events :=
  ⟨by decide +kernel, calls_recorded_once _ _ _ (by decide +kernel)⟩

/-- Two packets of a call that are recorded at the same time leave two unfinished
rows.  A sweep that copied a call before its terminator came removes the entry of
the next call with its key. -/
theorem calls_recorded_twice_and_orphaned :
    ¬ EachState (CallService.step fun _ => "") CallService.Recorded emptyTable.start
        [record false 1 (by decide), record false 1 (by decide), .advance 0, .advance 1] ∧
      ¬ EachState (CallService.step fun _ => "") CallService.Recorded emptyTable.start
        [record false 1 (by decide), .advance 0, .advance 0, .expireCalls (seconds 20 (by decide)) (.increasing String),
          record true 20 (by decide), .advance 2, .advance 2, record false 21 (by decide), .advance 3, .advance 3,
          .advance 1, .advance 1] := by
  constructor
  · intro recorded
    have same := recorded.2.2.2.2.single
    exact absurd same (by decide +kernel)
  · intro recorded
    have own := recorded.2.2.2.2.2.2.2.2.2.2.2.2.own 1 2 (by decide +kernel)
    cases own

end Ipsc2Mmdvm.Registry
