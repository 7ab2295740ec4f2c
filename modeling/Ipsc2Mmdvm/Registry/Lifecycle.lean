import Ipsc2Mmdvm.Data.Latest
import Ipsc2Mmdvm.Registry.Sequential

namespace Ipsc2Mmdvm.Registry

open Data List CallService GoMap

/-! What a call is at any time follows from the calls of the store made so far: it was inserted, and
it was finished since or not. -/

structure LoadedCalls where
  rows : CallRows
  recent : List CallRecord
  callTotal : Nat
  short : recent.length ≤ recentCallLimit
  known : ∀ call ∈ recent, call.id < rows.next

def LoadedCalls.start (loaded : LoadedCalls) : CallService where
  rows := loaded.rows
  activeCall := ∅
  recent := loaded.recent
  callTotal := loaded.callTotal
  published := []
  tasks := []
  removed := none

def inserted (log : List StoreCall) : List (CallRecord × Bool) :=
  log.filterMap fun
    | .insertCall stored ended => some (stored, ended)
    | .updateCallDuration _ _ _ => none

def finishOf (log : List StoreCall) (id : Nat) : Option (Instant × Int) :=
  log.findSome? fun
    | .insertCall _ _ => none
    | .updateCallDuration finished endedAt durationMS => if finished = id then some (endedAt, durationMS) else none

def currentRecord (lookup : UInt32 → String) (log : List StoreCall) (stored : CallRecord) : CallRecord :=
  match finishOf log stored.id with
  | some (endedAt, durationMS) => { enrichCall lookup stored with endedAt := endedAt.val, durationMS }
  | none => enrichCall lookup stored

def CallOperation.now : CallOperation → Instant
  | .recordCall _ _ now _ => now
  | .expireCalls now _ => now

structure Aligned (lookup : UInt32 → String) (loaded : LoadedCalls) (log : List StoreCall) (b : Books) : Prop where
  distinct : ∀ key key' active active', b.activeCall.lookup key = some active → b.activeCall.lookup key' = some active' →
    active.id = active'.id → key = key'
  held : ∀ id, (∃ key active, b.activeCall.lookup key = some active ∧ active.id = id) ↔
    (∃ stored, (stored, false) ∈ inserted log ∧ stored.id = id) ∧ finishOf log id = none
  nrl : ∀ key key' active active', b.activeCall.lookup key = some active → b.activeCall.lookup key' = some active' →
    active.frontend = "nrl" → active'.frontend = "nrl" → active.sourceKey = active'.sourceKey → key = key'
  total : b.callTotal = loaded.callTotal + (inserted log).length
  recent : b.recent =
    (loaded.recent ++ (inserted log).map fun entry => currentRecord lookup log entry.1).rtake recentCallLimit

/-- A call that was recorded at its end has the time of that, a call that was finished since has the
time of the operation that finished it, and any other the end that its record was given with. -/
def EndsAt (lookup : UInt32 → String) (operations : List CallOperation) (log : List StoreCall) (stored : CallRecord)
    (ended : Bool) : Prop :=
  ∃ call now order, .recordCall call ended now order ∈ operations ∧
    match ended, finishOf log stored.id with
    | true, finished => finished = none ∧ (currentRecord lookup log stored).endedAt = now.val
    | false, some (endedAt, _) =>
      (currentRecord lookup log stored).endedAt = endedAt.val ∧ ∃ operation ∈ operations, operation.now = endedAt
    | false, none => (currentRecord lookup log stored).endedAt = call.endedAt

section

variable {lookup : UInt32 → String} {log : List StoreCall} {stored : CallRecord} {ended : Bool} {id : Nat}

@[simp] theorem inserted_concat_insertCall :
    inserted (log ++ [.insertCall stored ended]) = inserted log ++ [(stored, ended)] := by
  simp [inserted]

@[simp] theorem inserted_concat_logged {item : Finish} : inserted (log ++ [item.logged]) = inserted log := by
  simp [inserted, Finish.logged]

@[simp] theorem finishOf_concat_insertCall : finishOf (log ++ [.insertCall stored ended]) id = finishOf log id := by
  simp [finishOf, findSome?_append]

theorem finishOf_concat_logged {item : Finish} (unfinished : finishOf log item.active.id = none) :
    finishOf (log ++ [item.logged]) id =
      if item.active.id = id then some (item.endedAt, item.durationMS) else finishOf log id := by
  simp only [finishOf, findSome?_append, Finish.logged, findSome?_cons, findSome?_nil] at unfinished ⊢
  by_cases same : item.active.id = id
  · subst same
    simp [unfinished]
  · simp [same]

theorem currentRecord_congr {log' : List StoreCall} (same : finishOf log' stored.id = finishOf log stored.id) :
    currentRecord lookup log' stored = currentRecord lookup log stored := by
  simp only [currentRecord, same]

theorem enrichCall_eq (lookup : UInt32 → String) (call : CallRecord) :
    ∃ sourceCallsign, enrichCall lookup call = { call with sourceCallsign } := by
  simp only [enrichCall]
  repeat' split
  all_goals exact ⟨_, rfl⟩

theorem enrichCall_id (lookup : UInt32 → String) (call : CallRecord) : (enrichCall lookup call).id = call.id := by
  obtain ⟨callsign, same⟩ := enrichCall_eq lookup call
  rw [same]

theorem enrichCall_endedAt (lookup : UInt32 → String) (call : CallRecord) :
    (enrichCall lookup call).endedAt = call.endedAt := by
  obtain ⟨callsign, same⟩ := enrichCall_eq lookup call
  rw [same]

theorem of_storedCall (lookup : UInt32 → String) (call : CallRecord) (ended : Bool) (now : Instant) (id : Nat) :
    callDedupKey (storedCall (enrichCall lookup call) ended now id) = callDedupKey call ∧
      ActiveCall.of (storedCall (enrichCall lookup call) ended now id) =
        ⟨id, now.val, now.val, call.frontend, call.sourceKey, call.slot, call.callType⟩ := by
  obtain ⟨callsign, same⟩ := enrichCall_eq lookup call
  rw [same]
  exact ⟨rfl, rfl⟩

theorem currentRecord_id (lookup : UInt32 → String) (log : List StoreCall) (stored : CallRecord) :
    (currentRecord lookup log stored).id = stored.id := by
  simp only [currentRecord]
  split <;> exact enrichCall_id lookup stored

end

structure Kept (lookup : UInt32 → String) (loaded : LoadedCalls) (operations : List CallOperation) (log : List StoreCall)
    (b : Books) : Prop extends Aligned lookup loaded log b where
  later : loaded.rows.next ≤ b.next
  numbered : ∀ entry ∈ inserted log, loaded.rows.next ≤ entry.1.id ∧ entry.1.id < b.next
  apart : ((inserted log).map fun entry => entry.1.id).Nodup
  finishedOnce : ∀ id, finishOf log id ≠ none →
    id < b.next ∧ ∀ stored, (stored, true) ∈ inserted log → stored.id ≠ id
  finishedAt : ∀ id finish, finishOf log id = some finish → ∃ operation ∈ operations, operation.now = finish.1
  given : ∀ entry ∈ inserted log, ∃ call now order, .recordCall call entry.2 now order ∈ operations ∧
    entry.1 = storedCall (enrichCall lookup call) entry.2 now entry.1.id

namespace Kept

variable {lookup : UInt32 → String} {loaded : LoadedCalls} {operations : List CallOperation}
  {log : List StoreCall} {b : Books} {active : ActiveCall}

theorem start (lookup : UInt32 → String) (loaded : LoadedCalls) : Kept lookup loaded [] [] loaded.start.books where
  distinct := by simp [LoadedCalls.start, books]
  held := by simp [LoadedCalls.start, books, inserted]
  nrl := by simp [LoadedCalls.start, books]
  total := rfl
  recent := by
    have short : loaded.recent.length - recentCallLimit = 0 := Nat.sub_eq_zero_of_le loaded.short
    simp [LoadedCalls.start, books, inserted, rtake, short]
  later := le_rfl
  numbered := by simp [inserted]
  apart := nodup_nil
  finishedOnce := fun _ finished => absurd rfl finished
  finishedAt := nofun
  given := by simp [inserted]

section

variable (kept : Kept lookup loaded operations log b)

include kept

theorem more (later : List CallOperation) : Kept lookup loaded (operations ++ later) log b where
  toAligned := kept.toAligned
  later := kept.later
  numbered := kept.numbered
  apart := kept.apart
  finishedOnce := kept.finishedOnce
  finishedAt := by
    intro id finish finished
    obtain ⟨operation, member, time⟩ := kept.finishedAt id finish finished
    exact ⟨operation, mem_append_left _ member, time⟩
  given := by
    intro entry member
    obtain ⟨call, now, order, recorded, stored⟩ := kept.given entry member
    exact ⟨call, now, order, mem_append_left _ recorded, stored⟩

theorem touch {key : String} (now : Instant)
    (found : b.activeCall.lookup key = some active) : Kept lookup loaded operations log (b.touch key active now) := by
  have before {other : String} {entry : ActiveCall} (present : (b.touch key active now).activeCall.lookup other = some entry) :
      ∃ old, b.activeCall.lookup other = some old ∧ old.id = entry.id ∧ old.frontend = entry.frontend ∧
        old.sourceKey = entry.sourceKey := by
    rcases lookup_insert_eq_some.mp present with ⟨rfl, rfl⟩ | ⟨_, known⟩
    · exact ⟨active, found, rfl, rfl, rfl⟩
    · exact ⟨entry, known, rfl, rfl, rfl⟩
  refine { kept with distinct := ?_, held := ?_, nrl := ?_ }
  · intro key₁ key₂ entry₁ entry₂ present₁ present₂ same
    obtain ⟨old₁, known₁, id₁, -⟩ := before present₁
    obtain ⟨old₂, known₂, id₂, -⟩ := before present₂
    exact kept.distinct _ _ _ _ known₁ known₂ (id₁.trans (same.trans id₂.symm))
  · intro id
    rw [← kept.held id]
    refine ⟨?_, ?_⟩
    · intro ⟨other, entry, present, number⟩
      obtain ⟨old, known, same, -⟩ := before present
      exact ⟨other, old, known, same.trans number⟩
    · intro ⟨other, old, known, number⟩
      by_cases same : other = key
      · subst other
        cases found.symm.trans known
        exact ⟨key, { active with lastSeenAt := now.val }, by simp [Books.touch], number⟩
      · exact ⟨other, old, by simpa [Books.touch, lookup_insert_eq, same] using known, number⟩
  · intro key₁ key₂ entry₁ entry₂ present₁ present₂ frontend₁ frontend₂ same
    obtain ⟨old₁, known₁, -, from₁, source₁⟩ := before present₁
    obtain ⟨old₂, known₂, -, from₂, source₂⟩ := before present₂
    exact kept.nrl _ _ _ _ known₁ known₂ (from₁.trans frontend₁) (from₂.trans frontend₂)
      (source₁.trans (same.trans source₂.symm))

theorem recent_finish {item : Finish}
    (old : loaded.rows.next ≤ item.active.id) (unfinished : finishOf log item.active.id = none) :
    (b.finish item).recent = (loaded.recent ++
      (inserted (log ++ [item.logged])).map fun entry => currentRecord lookup (log ++ [item.logged]) entry.1).rtake
        recentCallLimit := by
  have unique : b.recent.Pairwise fun call other =>
      call.id = item.active.id → other.id ≠ item.active.id := by
    rw [kept.recent]
    refine List.Pairwise.sublist (drop_sublist _ _) (pairwise_append.mpr ⟨?_, ?_, ?_⟩)
    · exact pairwise_of_forall_mem_list fun call listed _ _ same =>
        absurd same (Nat.ne_of_lt ((loaded.known call listed).trans_le old))
    · refine pairwise_map.mpr ((pairwise_map.mp kept.apart).imp fun different same same' => ?_)
      rw [currentRecord_id] at same same'
      exact different (same.trans same'.symm)
    · intro call listed _ _ same
      exact absurd same (Nat.ne_of_lt ((loaded.known call listed).trans_le old))
  simp only [Books.finish]
  rw [replaceF_eq_map (unique.imp fun {call other} apart found => by
    have same : call.id = item.active.id := by
      by_contra different
      simp [different] at found
    exact if_neg (apart same)), kept.recent, map_rtake, map_append, map_map, inserted_concat_logged]
  congr 2
  · refine (map_congr_left fun call listed => ?_).trans (map_id _)
    rw [if_neg (Nat.ne_of_lt ((loaded.known call listed).trans_le old))]
    rfl
  · refine map_congr_left fun entry _ => ?_
    simp only [Function.comp_apply, currentRecord_id]
    by_cases same : entry.1.id = item.active.id
    · simp [currentRecord, finishOf_concat_logged unfinished, same, unfinished, enrichCall_id]
    · rw [if_neg same, Option.getD_none]
      refine (currentRecord_congr ?_).symm
      rw [finishOf_concat_logged unfinished, if_neg (Ne.symm same)]

theorem finish {item : Finish} (found : b.activeCall.lookup item.key = some item.active)
    (time : ∃ operation ∈ operations, operation.now = item.endedAt) :
    Kept lookup loaded operations (log ++ [item.logged]) (b.finish item) := by
  obtain ⟨⟨stored, member, number⟩, unfinished⟩ := (kept.held item.active.id).mp ⟨_, _, found, rfl⟩
  have bounds := kept.numbered _ member
  rw [number] at bounds
  have present {key : String} {active : ActiveCall} :
      (b.finish item).activeCall.lookup key = some active ↔ key ≠ item.key ∧ b.activeCall.lookup key = some active :=
    lookup_erase_eq_some
  refine ⟨⟨?_, ?_, ?_, ?_, kept.recent_finish bounds.1 unfinished⟩, kept.later, ?_, ?_, ?_, ?_, ?_⟩
  · intro key key' active active' known known'
    exact kept.distinct _ _ _ _ (present.mp known).2 (present.mp known').2
  · intro id
    rw [inserted_concat_logged, finishOf_concat_logged unfinished]
    by_cases same : item.active.id = id
    · simp only [same, if_true, reduceCtorEq, and_false, iff_false]
      intro ⟨key, active, known, number⟩
      obtain ⟨different, known⟩ := present.mp known
      exact different (kept.distinct _ _ _ _ known found (number.trans same.symm))
    · rw [if_neg same, ← kept.held id]
      refine ⟨fun ⟨key, active, known, number⟩ => ⟨key, active, (present.mp known).2, number⟩, ?_⟩
      intro ⟨key, active, known, number⟩
      refine ⟨key, active, present.mpr ⟨?_, known⟩, number⟩
      intro equal
      subst equal
      cases found.symm.trans known
      exact same number
  · intro key key' active active' known known'
    exact kept.nrl _ _ _ _ (present.mp known).2 (present.mp known').2
  · rw [inserted_concat_logged]
    exact kept.total
  · rw [inserted_concat_logged]
    exact kept.numbered
  · rw [inserted_concat_logged]
    exact kept.apart
  · intro id finished
    rw [inserted_concat_logged]
    rw [finishOf_concat_logged unfinished] at finished
    by_cases same : item.active.id = id
    · subst same
      refine ⟨bounds.2, fun other ended equal => ?_⟩
      have entry := inj_on_of_nodup_map kept.apart member ended (number.trans equal.symm)
      cases entry
    · rw [if_neg same] at finished
      exact kept.finishedOnce id finished
  · intro id finish finished
    rw [finishOf_concat_logged unfinished] at finished
    split at finished
    · cases finished
      exact time
    · exact kept.finishedAt id finish finished
  · rw [inserted_concat_logged]
    exact kept.given

theorem finishAll {items : List Finish} (found : ∀ item ∈ items, b.activeCall.lookup item.key = some item.active)
    (different : items.Pairwise fun item other => item.key ≠ other.key)
    (time : ∀ item ∈ items, ∃ operation ∈ operations, operation.now = item.endedAt) :
    Kept lookup loaded operations (log ++ items.map Finish.logged) (items.foldl Books.finish b) := by
  induction items generalizing log b with
  | nil => simpa using kept
  | cons item items ih =>
    obtain ⟨others, different⟩ := pairwise_cons.mp different
    have first := kept.finish (found item mem_cons_self) (time item mem_cons_self)
    have rest := ih first (fun other member => ?_) different fun other member => time other (mem_cons_of_mem _ member)
    · simpa using rest
    · rw [Books.finish, lookup_erase_eq, if_neg (others other member).symm]
      exact found other (mem_cons_of_mem _ member)

theorem entry_lt {key : String} (present : b.activeCall.lookup key = some active) : active.id < b.next := by
  obtain ⟨⟨stored, member, number⟩, -⟩ := (kept.held active.id).mp ⟨key, active, present, rfl⟩
  rw [← number]
  exact (kept.numbered _ member).2

theorem finishOf_next : finishOf log b.next = none := by
  by_contra finished
  exact Nat.lt_irrefl _ (kept.finishedOnce _ finished).1

theorem enter {call : CallRecord} {ended : Bool} {now : Instant}
    {order : Enumeration String} (recorded : .recordCall call ended now order ∈ operations)
    (absent : b.activeCall.lookup (callDedupKey call) = none)
    (alone : call.frontend = "nrl" → ∀ key active, b.activeCall.lookup key = some active → active.frontend = "nrl" →
      active.sourceKey ≠ call.sourceKey) :
    Kept lookup loaded operations (log ++ [.insertCall (storedCall (enrichCall lookup call) ended now b.next) ended])
      (b.enter lookup (storedCall (enrichCall lookup call) ended now b.next) ended) := by
  obtain ⟨key_eq, entry_eq⟩ := of_storedCall lookup call ended now b.next
  obtain ⟨stored, stored_eq⟩ : ∃ stored, stored = storedCall (enrichCall lookup call) ended now b.next := ⟨_, rfl⟩
  have number : stored.id = b.next := by rw [stored_eq]; rfl
  rw [← stored_eq] at key_eq entry_eq ⊢
  have present {key : String} {active : ActiveCall} : (b.enter lookup stored ended).activeCall.lookup key = some active ↔
      b.activeCall.lookup key = some active ∨ ended = false ∧ key = callDedupKey call ∧ active = .of stored := by
    cases ended with
    | true => simp [Books.enter]
    | false => simpa [Books.enter, key_eq] using lookup_insert_of_absent absent
  refine ⟨⟨?_, ?_, ?_, ?_, ?_⟩, kept.later.trans (Nat.le_succ _), ?_, ?_, ?_, ?_, ?_⟩
  · intro key key' active active' known known' same
    rcases present.mp known with known | ⟨-, rfl, rfl⟩ <;> rcases present.mp known' with known' | ⟨-, rfl, rfl⟩
    · exact kept.distinct _ _ _ _ known known' same
    · exact absurd (same.trans number) (Nat.ne_of_lt (kept.entry_lt known))
    · exact absurd (same.symm.trans number) (Nat.ne_of_lt (kept.entry_lt known'))
    · rfl
  · intro id
    rw [inserted_concat_insertCall, finishOf_concat_insertCall]
    refine ⟨?_, ?_⟩
    · intro ⟨key, active, known, same⟩
      rcases present.mp known with known | ⟨rfl, -, rfl⟩
      · obtain ⟨⟨other, member, other_id⟩, unfinished⟩ := (kept.held id).mp ⟨key, active, known, same⟩
        exact ⟨⟨other, mem_append_left _ member, other_id⟩, unfinished⟩
      · have newest : id = b.next := same.symm.trans number
        exact ⟨⟨stored, by simp, same⟩, newest ▸ kept.finishOf_next⟩
    · intro ⟨⟨other, member, same⟩, unfinished⟩
      rcases mem_append.mp member with member | member
      · obtain ⟨key, active, known, active_id⟩ := (kept.held id).mpr ⟨⟨other, member, same⟩, unfinished⟩
        exact ⟨key, active, present.mpr (.inl known), active_id⟩
      · cases mem_singleton.mp member
        exact ⟨callDedupKey call, .of stored, present.mpr (.inr ⟨rfl, rfl, rfl⟩), same⟩
  · intro key key' active active' known known' frontend frontend' source
    rcases present.mp known with known | ⟨-, rfl, rfl⟩ <;> rcases present.mp known' with known' | ⟨-, rfl, rfl⟩
    · exact kept.nrl _ _ _ _ known known' frontend frontend' source
    · rw [entry_eq] at frontend' source
      exact absurd source (alone frontend' _ _ known frontend)
    · rw [entry_eq] at frontend source
      exact absurd source.symm (alone frontend _ _ known' frontend')
    · rfl
  · simp only [Books.enter, inserted_concat_insertCall, length_append, length_singleton, kept.total, Nat.add_assoc]
  · have current : currentRecord lookup (log ++ [.insertCall stored ended]) stored = enrichCall lookup stored := by
      simp [currentRecord, number, kept.finishOf_next]
    have others : (inserted log).map (fun entry => currentRecord lookup (log ++ [.insertCall stored ended]) entry.1) =
        (inserted log).map fun entry => currentRecord lookup log entry.1 :=
      map_congr_left fun entry _ => currentRecord_congr finishOf_concat_insertCall
    simp only [Books.enter, kept.recent, rtake_concat_rtake, inserted_concat_insertCall, map_append, map_cons,
      map_nil, current, others, append_assoc]
  · rw [inserted_concat_insertCall, forall_mem_append, forall_mem_singleton, number]
    exact ⟨fun entry member => (kept.numbered entry member).imp_right Nat.lt_succ_of_lt, kept.later, Nat.lt_succ_self _⟩
  · rw [inserted_concat_insertCall, map_append]
    refine nodup_append.mpr ⟨kept.apart, by simp, ?_⟩
    intro id listed id' new
    obtain ⟨entry, member, rfl⟩ := mem_map.mp listed
    cases mem_singleton.mp new
    exact Nat.ne_of_lt ((kept.numbered entry member).2.trans_eq number.symm)
  · intro id finished
    rw [finishOf_concat_insertCall] at finished
    obtain ⟨known, active⟩ := kept.finishedOnce id finished
    refine ⟨Nat.lt_succ_of_lt known, fun other member => ?_⟩
    rw [inserted_concat_insertCall] at member
    rcases mem_append.mp member with member | member
    · exact active other member
    · cases mem_singleton.mp member
      rw [number]
      exact (Nat.ne_of_lt known).symm
  · simpa only [finishOf_concat_insertCall] using kept.finishedAt
  · rw [inserted_concat_insertCall, forall_mem_append, forall_mem_singleton]
    exact ⟨kept.given, call, now, order, recorded, by rw [number, stored_eq]⟩

theorem ends {stored : CallRecord} {ended : Bool}
    (member : (stored, ended) ∈ inserted log) : EndsAt lookup operations log stored ended := by
  obtain ⟨call, now, order, recorded, same⟩ := kept.given _ member
  refine ⟨call, now, order, recorded, ?_⟩
  have given : stored.endedAt = if ended then now.val else call.endedAt := by
    rw [← enrichCall_endedAt lookup call]
    exact congrArg CallRecord.endedAt same
  cases ended with
  | true =>
    have unfinished : finishOf log stored.id = none := by
      by_contra finished
      exact (kept.finishedOnce _ finished).2 stored member rfl
    exact ⟨unfinished, by simpa [currentRecord, unfinished, enrichCall_endedAt] using given⟩
  | false =>
    cases finished : finishOf log stored.id with
    | none => simpa [currentRecord, finished, enrichCall_endedAt] using given
    | some finish => exact ⟨by simp [currentRecord, finished], kept.finishedAt _ _ finished⟩

end

end Kept

theorem keys_expired (s : CallService) (now : Instant) (order : Enumeration String) :
    (s.expired now order).Pairwise fun item other => item.key ≠ other.key := by
  refine List.Pairwise.filterMap _ (fun key key' different item taken item' taken' => ?_) (order.nodup _)
  obtain ⟨active, -, rfl⟩ := Option.map_eq_some_iff.mp taken
  obtain ⟨active', -, rfl⟩ := Option.map_eq_some_iff.mp taken'
  exact different

variable {order : Enumeration String}

theorem endedAt_of_mem_expired {s : CallService} {now : Instant} {item : Finish} (member : item ∈ s.expired now order) :
    item.endedAt = now := by
  obtain ⟨key, _, listed⟩ := mem_filterMap.mp member
  obtain ⟨active, _, rfl⟩ := Option.map_eq_some_iff.mp listed
  rfl

theorem alone_of_findActiveCall_none {s : CallService} {call : CallRecord} {ended : Bool}
    (found : s.findActiveCall order call ended = none) (frontend : call.frontend = "nrl") {key : String} {active : ActiveCall}
    (present : s.activeCall.lookup key = some active) (nrl : active.frontend = "nrl") : active.sourceKey ≠ call.sourceKey := by
  intro source
  have absent := lookup_of_findActiveCall_none found
  simp only [findActiveCall, absent, findMatchingActiveCallLocked] at found
  have unmatched := findSome?_eq_none_iff.mp found key (order.mem_order.mpr (mem_keys_iff.mpr ⟨active, present⟩))
  simp [present, Option.filter, matchesActiveCall, nrl, frontend, source] at unmatched

section

variable {lookup : UInt32 → String} {loaded : LoadedCalls} {operations : List CallOperation} {l : Logged}

theorem Kept.execute (kept : Kept lookup loaded operations l.log l.service.books) (operation : CallOperation)
    (listed : operation ∈ operations) :
    Kept lookup loaded operations (l.execute lookup operation).log (l.execute lookup operation).service.books := by
  cases operation with
  | recordCall call ended now order =>
    cases found : l.service.findActiveCall order (enrichCall lookup call) ended with
    | some pair =>
      obtain ⟨key, active⟩ := pair
      have present := lookup_of_findActiveCall found
      cases ended with
      | true =>
        obtain ⟨log, books⟩ := @execute_finish lookup l call now order key active found
        rw [log, books]
        exact kept.finish present ⟨_, listed, rfl⟩
      | false =>
        obtain ⟨log, books⟩ := @execute_touch lookup l call now order key active found
        rw [log, books]
        exact kept.touch now present
    | none =>
      obtain ⟨log, books⟩ := @execute_enter lookup l call ended now order found
      have absent := lookup_of_findActiveCall_none found
      rw [callDedupKey_enrichCall] at absent
      obtain ⟨callsign, same⟩ := enrichCall_eq lookup call
      have alone := @alone_of_findActiveCall_none _ _ _ _ found
      rw [same] at alone
      rw [log, books]
      exact kept.enter listed absent fun frontend key active => alone frontend
  | expireCalls now order =>
    obtain ⟨log, books⟩ := @execute_expire lookup l now order
    rw [log, books]
    exact kept.finishAll (fun item => lookup_of_mem_expired) (keys_expired _ _ _)
      fun item member => ⟨_, listed, (endedAt_of_mem_expired member).symm⟩

end

end Ipsc2Mmdvm.Registry
