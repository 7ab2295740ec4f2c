import Ipsc2Mmdvm.Registry.CallRaces
import Mathlib.Data.List.DropRight

namespace Ipsc2Mmdvm.Registry

open Data CallService List Option

/-! An operation is a section under the lock and then the steps of its task until that is done.
What the operations do to the books of the service is said without tasks. -/

inductive StoreCall where
  | insertCall (stored : CallRecord) (ended : Bool)
  | updateCallDuration (id : Nat) (endedAt : Instant) (durationMS : Int)

def CallService.storeCall (s : CallService) : CallStep → Option StoreCall
  | .advance i =>
    match s.tasks[i]? with
    | some (.insert call ended) => some (.insertCall (insertCall s.rows call).2 ended)
    | some (.update item _) => some (.updateCallDuration item.active.id item.endedAt item.durationMS)
    | _ => none
  | _ => none

structure Logged where
  service : CallService
  log : List StoreCall

def Logged.step (lookup : UInt32 → String) (l : Logged) (step : CallStep) : Logged where
  service := l.service.step lookup step
  log := l.log ++ (l.service.storeCall step).toList

inductive CallOperation where
  | recordCall (call : CallRecord) (ended : Bool) (now : Instant) (order : Enumeration String)
  | expireCalls (now : Instant) (order : Enumeration String)

def CallOperation.steps (s : CallService) : CallOperation → List CallStep
  | .recordCall call ended now order =>
    .recordCall call ended now order :: List.replicate 2 (.advance s.tasks.length)
  | .expireCalls now order =>
    .expireCalls now order :: List.replicate (2 * (s.expired now order).length) (.advance s.tasks.length)

def Logged.execute (lookup : UInt32 → String) (l : Logged) (operation : CallOperation) : Logged :=
  runFrom (Logged.step lookup) l (operation.steps l.service)

structure Books where
  next : Nat
  activeCall : GoMap String ActiveCall
  recent : List CallRecord
  callTotal : Nat

def CallService.books (s : CallService) : Books := ⟨s.rows.next, s.activeCall, s.recent, s.callTotal⟩

def ActiveCall.of (stored : CallRecord) : ActiveCall :=
  ⟨stored.id, stored.createdAt, stored.createdAt, stored.frontend, stored.sourceKey, stored.slot, stored.callType⟩

namespace Books

def touch (b : Books) (key : String) (active : ActiveCall) (now : Instant) : Books :=
  { b with activeCall := b.activeCall.insert key { active with lastSeenAt := now.val } }

def finish (b : Books) (item : Finish) : Books :=
  { b with
    activeCall := b.activeCall.erase item.key
    recent := b.recent.replaceF fun call =>
      if call.id = item.active.id then some { call with endedAt := item.endedAt.val, durationMS := item.durationMS } else none }

def enter (lookup : UInt32 → String) (b : Books) (stored : CallRecord) (ended : Bool) : Books where
  next := b.next + 1
  activeCall := if ended then b.activeCall else b.activeCall.insert (callDedupKey stored) (.of stored)
  recent := (b.recent ++ [enrichCall lookup stored]).rtake recentCallLimit
  callTotal := b.callTotal + 1

end Books

def storedCall (call : CallRecord) (ended : Bool) (now : Instant) (id : Nat) : CallRecord :=
  { call with
    id
    createdAt := now.val
    endedAt := if ended then now.val else call.endedAt
    durationMS := if ended then 0 else call.durationMS }

def Finish.logged (item : Finish) : StoreCall := .updateCallDuration item.active.id item.endedAt item.durationMS

def Task.after (rows : CallRows) : Task → Task
  | .insert call ended => .register (insertCall rows call).2 ended
  | .register _ _ => .done
  | .update item rest => .remove item rest
  | .remove _ rest => .next rest
  | .done => .done

def Task.storeCalls (rows : CallRows) : Task → List StoreCall
  | .insert call ended => [.insertCall (insertCall rows call).2 ended]
  | .update item _ => [item.logged]
  | _ => []

def Books.advance (lookup : UInt32 → String) (b : Books) : Task → Books
  | .insert _ _ => { b with next := b.next + 1 }
  | .register stored ended => { b.enter lookup stored ended with next := b.next }
  | .remove item _ => b.finish item
  | _ => b

section

variable {lookup : UInt32 → String} {l : Logged} {tasks : List Task} {task : Task}

theorem step_last (last : l.service.tasks = tasks ++ [task]) :
    (l.step lookup (.advance tasks.length)).service.tasks = tasks ++ [task.after l.service.rows] ∧
      (l.step lookup (.advance tasks.length)).log = l.log ++ task.storeCalls l.service.rows ∧
      (l.step lookup (.advance tasks.length)).service.books = l.service.books.advance lookup task := by
  have here : l.service.tasks[tasks.length]? = some task := by rw [last, getElem?_concat_length]
  have set (other : Task) : l.service.tasks.set tasks.length other = tasks ++ [other] := by
    rw [last, set_append_right _ _ le_rfl, Nat.sub_self, set_cons_zero]
  simp only [Logged.step, step, advance, storeCall, here, set]
  cases task with
  | insert | register | update | remove => exact ⟨rfl, rfl, rfl⟩
  | done => exact ⟨last, rfl, rfl⟩

theorem finish_item {item : Finish} {rest : List Finish} (last : l.service.tasks = tasks ++ [.update item rest]) :
    let reached := runFrom (Logged.step lookup) l (replicate 2 (.advance tasks.length))
    reached.service.tasks = tasks ++ [.next rest] ∧ reached.log = l.log ++ [item.logged] ∧
      reached.service.books = l.service.books.finish item := by
  obtain ⟨tasks₁, log₁, books₁⟩ := @step_last lookup l tasks _ last
  obtain ⟨tasks₂, log₂, books₂⟩ := @step_last lookup _ tasks _ tasks₁
  refine ⟨tasks₂, ?_, ?_⟩
  · exact (log₂.trans (append_nil _)).trans log₁
  · exact books₂.trans (congrArg (Books.finish · item) books₁)

theorem finish_items {items : List Finish} (last : l.service.tasks = tasks ++ [.next items]) :
    let reached := runFrom (Logged.step lookup) l (replicate (2 * items.length) (.advance tasks.length))
    reached.log = l.log ++ items.map Finish.logged ∧ reached.service.books = items.foldl Books.finish l.service.books := by
  induction items generalizing l with
  | nil => exact ⟨(append_nil _).symm, rfl⟩
  | cons item rest ih =>
    obtain ⟨tasks₁, log₁, books₁⟩ := @finish_item lookup l tasks item rest last
    obtain ⟨log₂, books₂⟩ := ih tasks₁
    have split : replicate (2 * (item :: rest).length) (CallStep.advance tasks.length) =
        replicate 2 (.advance tasks.length) ++ replicate (2 * rest.length) (.advance tasks.length) := by
      rw [replicate_append_replicate, length_cons, Nat.mul_succ, Nat.add_comm]
    simp only [split, runFrom_append]
    refine ⟨?_, ?_⟩
    · rw [log₂, log₁, append_assoc]
      rfl
    · rw [books₂, books₁]
      rfl

theorem step_idle {i : Nat} (idle : l.service.tasks.length ≤ i) :
    (l.step lookup (.advance i)).service.tasks = l.service.tasks ∧ (l.step lookup (.advance i)).log = l.log ∧
      (l.step lookup (.advance i)).service.books = l.service.books := by
  have absent : l.service.tasks[i]? = none := getElem?_eq_none idle
  simp only [Logged.step, step, advance, storeCall, absent]
  exact ⟨trivial, append_nil _, rfl⟩

variable {call : CallRecord} {ended : Bool} {now : Instant} {order : Enumeration String} {key : String} {active : ActiveCall}

theorem execute_touch (found : l.service.findActiveCall order (enrichCall lookup call) false = some (key, active)) :
    (l.execute lookup (.recordCall call false now order)).log = l.log ∧
      (l.execute lookup (.recordCall call false now order)).service.books = l.service.books.touch key active now := by
  have begun : l.service.recordCall (enrichCall lookup call) false now order =
      { l.service with
        activeCall := l.service.activeCall.insert key { active with lastSeenAt := now.val }
        removed := none } := by
    simp only [recordCall, found, Bool.false_eq_true, if_false]
  have first : l.step lookup (.recordCall call false now order) = ⟨{ l.service with
          activeCall := l.service.activeCall.insert key { active with lastSeenAt := now.val }
          removed := none }, l.log⟩ := by
    simp only [Logged.step, step, begun, storeCall, toList_none, append_nil]
  obtain ⟨tasks₁, log₁, books₁⟩ :=
    @step_idle lookup (l.step lookup (.recordCall call false now order)) l.service.tasks.length (by rw [first])
  obtain ⟨-, log₂, books₂⟩ := @step_idle lookup _ l.service.tasks.length (by rw [tasks₁, first])
  refine ⟨log₂.trans (log₁.trans (by rw [first])), books₂.trans (books₁.trans ?_)⟩
  rw [first]
  rfl

theorem execute_finish (found : l.service.findActiveCall order (enrichCall lookup call) true = some (key, active)) :
    (l.execute lookup (.recordCall call true now order)).log = l.log ++ [Finish.logged ⟨key, active, now⟩] ∧
      (l.execute lookup (.recordCall call true now order)).service.books = l.service.books.finish ⟨key, active, now⟩ := by
  have first : l.step lookup (.recordCall call true now order) =
      ⟨l.service.spawn (.update ⟨key, active, now⟩ []), l.log⟩ := by
    simp only [Logged.step, step, recordCall, found, if_true, storeCall, toList_none, append_nil]
  obtain ⟨-, log, books⟩ := @finish_item lookup (l.step lookup (.recordCall call true now order)) l.service.tasks
    ⟨key, active, now⟩ [] (by rw [first]; rfl)
  refine ⟨log.trans (by rw [first]), books.trans ?_⟩
  rw [first]
  rfl

theorem execute_enter (absent : l.service.findActiveCall order (enrichCall lookup call) ended = none) :
    let stored := storedCall (enrichCall lookup call) ended now l.service.rows.next
    (l.execute lookup (.recordCall call ended now order)).log = l.log ++ [.insertCall stored ended] ∧
      (l.execute lookup (.recordCall call ended now order)).service.books = l.service.books.enter lookup stored ended := by
  intro stored
  obtain ⟨given, first, numbered⟩ : ∃ given, l.step lookup (.recordCall call ended now order) =
      ⟨l.service.spawn (.insert given ended), l.log⟩ ∧ (insertCall l.service.rows given).2 = stored := by
    simp only [Logged.step, step, recordCall, absent, storeCall, toList_none, append_nil]
    cases ended <;> exact ⟨_, rfl, rfl⟩
  obtain ⟨tasks₁, log₁, books₁⟩ := @step_last lookup (l.step lookup (.recordCall call ended now order)) l.service.tasks
    (.insert given ended) (by rw [first]; rfl)
  obtain ⟨-, log₂, books₂⟩ := @step_last lookup _ l.service.tasks _ tasks₁
  refine ⟨(log₂.trans (append_nil _)).trans (log₁.trans ?_), books₂.trans ?_⟩
  · rw [first]
    exact congrArg (fun stored => l.log ++ [StoreCall.insertCall stored ended]) numbered
  · rw [books₁, first]
    exact congrArg (fun stored => l.service.books.enter lookup stored ended) numbered

theorem execute_expire :
    (l.execute lookup (.expireCalls now order)).log = l.log ++ (l.service.expired now order).map Finish.logged ∧
      (l.execute lookup (.expireCalls now order)).service.books =
        (l.service.expired now order).foldl Books.finish l.service.books := by
  have first : l.step lookup (.expireCalls now order) = ⟨l.service.spawn (.next (l.service.expired now order)), l.log⟩ := by
    simp only [Logged.step, step, storeCall, toList_none, append_nil]
  obtain ⟨log, books⟩ := @finish_items lookup (l.step lookup (.expireCalls now order)) l.service.tasks
    (l.service.expired now order) (by rw [first]; rfl)
  refine ⟨log.trans (by rw [first]), books.trans ?_⟩
  rw [first]
  rfl

end

end Ipsc2Mmdvm.Registry
