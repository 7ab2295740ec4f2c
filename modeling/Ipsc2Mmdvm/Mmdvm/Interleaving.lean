import Mathlib.Data.Fintype.Basic
import Ipsc2Mmdvm.Mmdvm.Outbound

namespace Ipsc2Mmdvm.Mmdvm

open Data Proto Timeslot SlotState List Function

/-! `Submit` and `Release` are atomic; between them, and between any two packets it forwards, a
network can be interrupted by the others. -/

structure Submitted where
  pkt : Packet
  seq : Nat
deriving DecidableEq

def Submitted.stream (item : Submitted) : Bool × UInt64 := (item.pkt.slot, item.pkt.streamID)

inductive Task where
  | idle
  /-- Forward the batch, then release `next` if the batch ended a stream. -/
  | deliver (slot : Bool) (batch : List Submitted) (next : Option UInt64)
  | release (slot : Bool) (streamID : UInt64)
deriving DecidableEq

def Task.hand : Task → List Submitted
  | .deliver _ batch _ => batch
  | _ => []

def Task.rest (slot : Bool) (batch : List Submitted) (next : Option UInt64) : Task :=
  match batch, next with
  | [], none => .idle
  | [], some streamID => .release slot streamID
  | batch, next => .deliver slot batch next

def ended (batch : List Submitted) : Option UInt64 :=
  (batch.reverse.find? (·.pkt.isTerminator)).map (·.pkt.streamID)

structure World (ι : Type) where
  manager : Manager Submitted
  tasks : ι → Task
  forwarded : List Submitted
  submissions : Nat

def World.new (ι : Type) (timeout : Duration) : World ι where
  manager := (newManager _).setTimeout timeout
  tasks := fun _ => .idle
  forwarded := []
  submissions := 0

inductive Turn (ι : Type) where
  | submit (network : ι) (pkt : Packet) (now : Time)
  | release (network : ι) (now : Time)
  | forward (network : ι)

section

variable {ι : Type} [DecidableEq ι] (networks : ι → Network)

namespace World

/-- The packet a `submit` turn would submit: only an idle process reads from
its connection, and the rewrite rules must let the packet pass. -/
def submission (w : World ι) (network : ι) (pkt : Packet) : Option Submitted :=
  match w.tasks network with
  | .idle => (Rewrite.apply (networks network).netRewrites pkt).map fun pkt => ⟨pkt, w.submissions⟩
  | _ => none

def submitCall (w : World ι) (network : ι) (item : Submitted) (now : Time) :
    Manager Submitted × Bool :=
  w.manager.submit item.pkt.slot item.pkt.streamID (networks network).name item now

def step (w : World ι) : Turn ι → World ι
  | .submit network pkt now =>
    match w.submission networks network pkt with
    | none => w
    | some item =>
      let (manager, accepted) := w.submitCall networks network item now
      { w with
        manager
        submissions := w.submissions + 1
        tasks :=
          if accepted then
            Function.update w.tasks network (.deliver item.pkt.slot [item] (ended [item]))
          else w.tasks }
  | .release network now =>
    match w.tasks network with
    | .release slot streamID =>
      let (manager, batch) := w.manager.release slot streamID now
      { w with manager, tasks := Function.update w.tasks network (.rest slot batch (ended batch)) }
    | _ => w
  | .forward network =>
    match w.tasks network with
    | .deliver slot (item :: batch) next =>
      { w with
        forwarded := w.forwarded ++ [item]
        tasks := Function.update w.tasks network (.rest slot batch next) }
    | _ => w

def handed (w : World ι) : Turn ι → List Submitted
  | .submit network pkt now =>
    match w.submission networks network pkt with
    | none => []
    | some item => if (w.submitCall networks network item now).2 then [item] else []
  | .release network now =>
    match w.tasks network with
    | .release slot streamID => (w.manager.release slot streamID now).2
    | _ => []
  | .forward _ => []

/-- No process still holds a packet of a stream of which the turn hands over
packets. -/
def HandsOverClear (w : World ι) (turn : Turn ι) : Prop :=
  ∀ item ∈ w.handed networks turn, ∀ network, ∀ other ∈ (w.tasks network).hand,
    other.stream ≠ item.stream

instance [Fintype ι] (w : World ι) (turn : Turn ι) : Decidable (w.HandsOverClear networks turn) :=
  inferInstanceAs (Decidable (∀ item ∈ w.handed networks turn, ∀ network,
    ∀ other ∈ (w.tasks network).hand, other.stream ≠ item.stream))

def Before (a b : Submitted) : Prop := a.stream = b.stream → a.seq < b.seq

def Waits (w : World ι) (item : Submitted) : Prop :=
  ∃ slot, ∃ ps ∈ (w.manager.slot slot).pending, item ∈ ps.packets

structure InOrder (w : World ι) : Prop where
  filed : ∀ slot, (w.manager.slot slot).Filed fun streamID item => item.stream = (slot, streamID)
  sent : w.forwarded.Pairwise Before
  held : ∀ i, (w.tasks i).hand.Pairwise Before
  waiting : ∀ slot, ∀ ps ∈ (w.manager.slot slot).pending, ps.packets.Pairwise Before
  sent_held : ∀ a ∈ w.forwarded, ∀ i, ∀ b ∈ (w.tasks i).hand, Before a b
  sent_waiting : ∀ a ∈ w.forwarded, ∀ b, w.Waits b → Before a b
  held_waiting : ∀ i, ∀ a ∈ (w.tasks i).hand, ∀ b, w.Waits b → Before a b
  one_holder : ∀ i j, ∀ a ∈ (w.tasks i).hand, ∀ b ∈ (w.tasks j).hand, a.stream = b.stream → i = j
  sent_old : ∀ a ∈ w.forwarded, a.seq < w.submissions
  held_old : ∀ i, ∀ a ∈ (w.tasks i).hand, a.seq < w.submissions
  waiting_old : ∀ a, w.Waits a → a.seq < w.submissions

omit [DecidableEq ι] in
theorem inOrder_new (timeout : Duration) : (World.new ι timeout).InOrder := by
  have empty (slot : Bool) : (World.new ι timeout).manager.slot slot = {} := by
    simp only [World.new, Manager.setTimeout]
    split <;> rfl
  have nothing (item : Submitted) : ¬ (World.new ι timeout).Waits item := by
    intro waits
    obtain ⟨slot, ps, member, _⟩ := waits
    simp [empty] at member
  refine ⟨fun slot => ?_, ?_, ?_, ?_, ?_, ?_, ?_, ?_, ?_, ?_, ?_⟩
  · rw [empty]
    exact ⟨valid_empty, by simp⟩
  · exact List.Pairwise.nil
  · exact fun _ => List.Pairwise.nil
  · intro slot ps member
    simp [empty] at member
  · simp [World.new]
  · simp [World.new]
  · simp [World.new, Task.hand]
  · simp [World.new, Task.hand]
  · simp [World.new]
  · simp [World.new, Task.hand]
  · exact fun a waits => absurd waits (nothing a)

@[simp] theorem hand_rest (slot : Bool) (batch : List Submitted) (next : Option UInt64) :
    (Task.rest slot batch next).hand = batch := by
  cases batch <;> cases next <;> rfl

theorem hand_update (tasks : ι → Task) (i j : ι) (task : Task) :
    (update tasks i task j).hand = if j = i then task.hand else (tasks j).hand := by
  by_cases same : j = i
  · subst same
    simp
  · simp [same]

variable {w : World ι} {i : ι} {m : Manager Submitted}

section

variable (order : w.InOrder)

include order

theorem InOrder.forward {slot : Bool} {item : Submitted} {batch : List Submitted} {next : Option UInt64}
    (task : w.tasks i = .deliver slot (item :: batch) next) :
    InOrder { w with
      forwarded := w.forwarded ++ [item]
      tasks := update w.tasks i (.rest slot batch next) } := by
  have hand : (w.tasks i).hand = item :: batch := by rw [task]; rfl
  have sorted := order.held i
  rw [hand, pairwise_cons] at sorted
  have mine : item ∈ (w.tasks i).hand := by rw [hand]; exact mem_cons_self
  have still {a : Submitted} {j : ι} (member : a ∈ (update w.tasks i (.rest slot batch next) j).hand) :
      a ∈ (w.tasks j).hand := by
    rw [hand_update] at member
    split at member
    · rename_i same
      rw [hand_rest] at member
      rw [same, hand]
      exact mem_cons_of_mem _ member
    · exact member
  refine ⟨order.filed, ?_, fun j => ?_, order.waiting, ?_, ?_, ?_, ?_, ?_, ?_, order.waiting_old⟩
  · refine pairwise_append.mpr ⟨order.sent, pairwise_singleton .., ?_⟩
    intro a sent b last
    rw [mem_singleton.mp last]
    exact order.sent_held a sent i item mine
  · simp only [hand_update]
    split
    · rw [hand_rest]
      exact sorted.2
    · exact order.held j
  · intro a sent j b member
    rcases mem_append.mp sent with before | last
    · exact order.sent_held a before j b (still member)
    · rw [mem_singleton.mp last]
      by_cases same : j = i
      · subst same
        simp only [update_self, hand_rest] at member
        exact sorted.1 b member
      · -- Another process holds no packet of the stream.
        exact fun stream => absurd (order.one_holder j i b (still member) item mine stream.symm) same
  · intro a sent b waits
    rcases mem_append.mp sent with before | last
    · exact order.sent_waiting a before b waits
    · rw [mem_singleton.mp last]
      exact order.held_waiting i item mine b waits
  · exact fun j a member b waits => order.held_waiting j a (still member) b waits
  · exact fun j k a member b member' => order.one_holder j k a (still member) b (still member')
  · intro a sent
    rcases mem_append.mp sent with before | last
    · exact order.sent_old a before
    · rw [mem_singleton.mp last]
      exact order.held_old i item mine
  · exact fun j a member => order.held_old j a (still member)

theorem InOrder.take {task : Task} {count : Nat} (slot : Bool) (streamID : UInt64)
    (filed : ∀ slot, (m.slot slot).Filed fun streamID item => item.stream = (slot, streamID))
    (pending : ∀ slot, ∀ ps ∈ (m.slot slot).pending, ps ∈ (w.manager.slot slot).pending)
    (active : task.hand ≠ [] → ∃ call, (m.slot slot).active = some call ∧ call.streamID = streamID)
    (stream : ∀ a ∈ task.hand, a.stream = (slot, streamID)) (sorted : task.hand.Pairwise Before)
    (later : ∀ a ∈ w.forwarded, ∀ b ∈ task.hand, Before a b)
    (clear : ∀ a ∈ task.hand, ∀ j, ∀ b ∈ (w.tasks j).hand, b.stream ≠ a.stream) (old : ∀ a ∈ task.hand, a.seq < count)
    (grows : w.submissions ≤ count) :
    InOrder { w with manager := m, tasks := update w.tasks i task, submissions := count } := by
  have waited {b : Submitted}
      (waits : Waits { w with manager := m, tasks := update w.tasks i task, submissions := count } b) :
      w.Waits b := by
    obtain ⟨slot, ps, member, packet⟩ := waits
    exact ⟨slot, ps, pending slot ps member, packet⟩
  have apart {a b : Submitted} (taken : a ∈ task.hand)
      (waits : Waits { w with manager := m, tasks := update w.tasks i task, submissions := count } b) :
      a.stream ≠ b.stream := by
    obtain ⟨slot', ps, member, packet⟩ := waits
    obtain ⟨call, holds, same⟩ := active (ne_nil_of_mem taken)
    rw [stream a taken, (filed slot').filed ps member b packet]
    intro equal
    obtain ⟨rfl, rfl⟩ := Prod.mk.inj equal
    exact (filed slot).valid.waiting call holds ps member same.symm
  have hands {a : Submitted} {j : ι} (member : a ∈ (update w.tasks i task j).hand) :
      (j = i ∧ a ∈ task.hand) ∨ (j ≠ i ∧ a ∈ (w.tasks j).hand) := by
    rw [hand_update] at member
    split at member
    · exact .inl ⟨‹_›, member⟩
    · exact .inr ⟨‹_›, member⟩
  refine ⟨filed, order.sent, fun j => ?_, ?_, ?_, ?_, ?_, ?_, ?_, ?_, ?_⟩
  · simp only [hand_update]
    split
    · exact sorted
    · exact order.held j
  · exact fun slot ps member => order.waiting slot ps (pending slot ps member)
  · intro a sent j b member
    obtain ⟨_, taken⟩ | ⟨_, held⟩ := hands member
    · exact later a sent b taken
    · exact order.sent_held a sent j b held
  · exact fun a sent b waits => order.sent_waiting a sent b (waited waits)
  · intro j a member b waits
    obtain ⟨_, taken⟩ | ⟨_, held⟩ := hands member
    · exact fun same => absurd same (apart taken waits)
    · exact order.held_waiting j a held b (waited waits)
  · intro j k a member b member' same
    obtain ⟨atI, taken⟩ | ⟨_, held⟩ := hands member <;>
      obtain ⟨atI', taken'⟩ | ⟨_, held'⟩ := hands member'
    · rw [atI, atI']
    · exact absurd same.symm (clear a taken k b held')
    · exact absurd same (clear b taken' j a held)
    · exact order.one_holder j k a held b held' same
  · exact fun a sent => Nat.lt_of_lt_of_le (order.sent_old a sent) grows
  · intro j a member
    obtain ⟨_, taken⟩ | ⟨_, held⟩ := hands member
    · exact old a taken
    · exact Nat.lt_of_lt_of_le (order.held_old j a held) grows
  · exact fun a waits => Nat.lt_of_lt_of_le (order.waiting_old a (waited waits)) grows

omit [DecidableEq ι] in
theorem InOrder.buffer (item : Submitted) (number : item.seq = w.submissions)
    (filed : ∀ slot, (m.slot slot).Filed fun streamID item => item.stream = (slot, streamID))
    (pending : ∀ slot, ∀ ps ∈ (m.slot slot).pending, ps ∈ (w.manager.slot slot).pending ∨ ps.packets = [item] ∨
      ∃ old ∈ (w.manager.slot slot).pending, ps.packets = old.packets ++ [item]) :
    InOrder { w with manager := m, submissions := w.submissions + 1 } := by
  have waited {b : Submitted} (waits : Waits { w with manager := m, submissions := w.submissions + 1 } b) :
      w.Waits b ∨ b = item := by
    obtain ⟨slot, ps, member, packet⟩ := waits
    obtain known | new | ⟨old, known, appended⟩ := pending slot ps member
    · exact .inl ⟨slot, ps, known, packet⟩
    · rw [new] at packet
      exact .inr (mem_singleton.mp packet)
    · rw [appended, mem_append, mem_singleton] at packet
      exact packet.imp_left fun packet => ⟨slot, old, known, packet⟩
  refine ⟨filed, order.sent, order.held, ?_, order.sent_held, ?_, ?_, order.one_holder, ?_, ?_, ?_⟩
  · intro slot ps member
    obtain known | new | ⟨old, known, appended⟩ := pending slot ps member
    · exact order.waiting slot ps known
    · rw [new]
      exact pairwise_singleton ..
    · rw [appended]
      refine pairwise_append.mpr ⟨order.waiting slot old known, pairwise_singleton .., ?_⟩
      intro a packet b last _
      rw [mem_singleton.mp last, number]
      exact order.waiting_old a ⟨slot, old, known, packet⟩
  · intro a sent b waits
    obtain waits | rfl := waited waits
    · exact order.sent_waiting a sent b waits
    · exact fun _ => number ▸ order.sent_old a sent
  · intro i a held b waits
    obtain waits | rfl := waited waits
    · exact order.held_waiting i a held b waits
    · exact fun _ => number ▸ order.held_old i a held
  · exact fun a sent => Nat.lt_succ_of_lt (order.sent_old a sent)
  · exact fun i a held => Nat.lt_succ_of_lt (order.held_old i a held)
  · intro a waits
    obtain waits | rfl := waited waits
    · exact Nat.lt_succ_of_lt (order.waiting_old a waits)
    · rw [number]
      exact Nat.lt_succ_self _

theorem InOrder.release {slot : Bool} {streamID : UInt64} {now : Time}
    (clear : ∀ a ∈ (w.manager.release slot streamID now).2, ∀ j, ∀ b ∈ (w.tasks j).hand, b.stream ≠ a.stream) :
    InOrder { w with
      manager := (w.manager.release slot streamID now).1
      tasks := update w.tasks i (.rest slot (w.manager.release slot streamID now).2
        (ended (w.manager.release slot streamID now).2)) } := by
  have filed := filed_release order.filed slot streamID now
  obtain ⟨kept, batch⟩ := (w.manager.slot slot).release_spec streamID now
  rw [← release_slot, ← release_batch] at batch
  have pending := forall_release (P := fun slot ss => ∀ ps ∈ ss.pending, ps ∈ (w.manager.slot slot).pending)
    (fun _ _ member => member) kept
  obtain empty | ⟨next, member, packets, active⟩ := batch
  · refine order.take slot streamID filed pending ?_ ?_ ?_ ?_ ?_ ?_ (Nat.le_refl _) <;>
      simp only [hand_rest, empty] <;> simp
  · have waits {a : Submitted} (taken : a ∈ next.packets) : w.Waits a := ⟨slot, next, member, taken⟩
    refine order.take slot next.streamID filed pending ?_ ?_ ?_ ?_ ?_ ?_ (Nat.le_refl _) <;>
      simp only [hand_rest, packets]
    · exact fun _ => active
    · exact (order.filed slot).filed next member
    · exact order.waiting slot next member
    · exact fun a sent b taken => order.sent_waiting a sent b (waits taken)
    · exact fun a taken j b held => clear a (packets ▸ taken) j b held
    · exact fun a taken => order.waiting_old a (waits taken)

theorem InOrder.submit {pkt : Packet} {name : String} {now : Time}
    (clear : (w.manager.submit pkt.slot pkt.streamID name ⟨pkt, w.submissions⟩ now).2 = true →
      ∀ j, ∀ b ∈ (w.tasks j).hand, b.stream ≠ (pkt.slot, pkt.streamID)) :
    InOrder { w with
      manager := (w.manager.submit pkt.slot pkt.streamID name ⟨pkt, w.submissions⟩ now).1
      submissions := w.submissions + 1
      tasks :=
        if (w.manager.submit pkt.slot pkt.streamID name ⟨pkt, w.submissions⟩ now).2 then
          update w.tasks i (.deliver pkt.slot [⟨pkt, w.submissions⟩] (ended [⟨pkt, w.submissions⟩]))
        else w.tasks } := by
  have filed := filed_submit order.filed pkt.slot pkt.streamID name ⟨pkt, w.submissions⟩ now rfl
  cases taken : (w.manager.submit pkt.slot pkt.streamID name ⟨pkt, w.submissions⟩ now).2 with
  | true =>
    refine order.take pkt.slot pkt.streamID filed ?_ ?_ ?_ ?_ ?_ ?_ ?_ (Nat.le_succ _)
    · refine forall_submit (P := fun slot ss => ∀ ps ∈ ss.pending, ps ∈ (w.manager.slot slot).pending)
        (fun _ _ member => member) fun ps member => ?_
      exact (mem_submit member).resolve_right fun ⟨refused, _⟩ => nomatch taken.symm.trans refused
    · intro _
      rw [submit_slot]
      exact submit_active _ _ _ _ _ _ taken
    · simp [Task.hand, Submitted.stream]
    · exact pairwise_singleton ..
    · intro a sent b new _
      rw [mem_singleton.mp new]
      exact order.sent_old a sent
    · intro a new j b held
      rw [mem_singleton.mp new]
      exact clear taken j b held
    · simp [Task.hand]
  | false =>
    apply order.buffer ⟨pkt, w.submissions⟩ rfl filed
    refine forall_submit (P := fun slot ss => ∀ ps ∈ ss.pending, ps ∈ (w.manager.slot slot).pending ∨ ps.packets = _ ∨
      ∃ old ∈ (w.manager.slot slot).pending, ps.packets = old.packets ++ _) (fun _ _ => .inl) fun ps member => ?_
    refine (mem_submit member).imp_right fun ⟨_, _, grown⟩ => grown.imp_right ?_
    exact fun ⟨old, known, _, appended⟩ => ⟨old, known, appended⟩

theorem InOrder.step {turn : Turn ι} (clear : w.HandsOverClear networks turn) : (w.step networks turn).InOrder := by
  cases turn with
  | forward i =>
    simp only [World.step]
    split
    · exact order.forward ‹_›
    · exact order
  | release i now =>
    simp only [World.step]
    split
    · rename_i slot streamID task
      apply order.release
      simpa [World.HandsOverClear, World.handed, task] using clear
    · exact order
  | submit i pkt now =>
    cases passes : w.submission networks i pkt with
    | none => simpa [World.step, passes] using order
    | some item =>
      obtain ⟨pkt', rfl⟩ : ∃ pkt', item = ⟨pkt', w.submissions⟩ := by
        simp only [World.submission] at passes
        split at passes
        · obtain ⟨pkt', _, rfl⟩ := Option.map_eq_some_iff.mp passes
          exact ⟨pkt', rfl⟩
        · cases passes
      simp only [World.step, passes]
      apply order.submit
      intro taken j b held
      have handed : w.handed networks (.submit i pkt now) = [⟨pkt', w.submissions⟩] := by
        simp only [World.handed, passes]
        exact if_pos taken
      exact clear ⟨pkt', w.submissions⟩ (by simp [handed]) j b held

end

end World

/-- In every interleaving in which packets of a stream are handed to a process
only when no process still holds packets of that stream, each stream is
forwarded in the order of submission. -/
theorem forwarded_in_order (timeout : Duration) (turns : List (Turn ι))
    (clear : EachStep (World.step networks) (World.HandsOverClear networks) (World.new ι timeout) turns) :
    (runFrom (World.step networks) (World.new ι timeout) turns).forwarded.Pairwise
      fun a b => a.stream = b.stream → a.seq < b.seq :=
  (runFrom_invariant (fun _ _ order clear => order.step networks clear)
    (World.inOrder_new timeout) clear).sent

end

def twoClients : Bool → Network := fun _ =>
  { name := "net", netRewrites := [.passAllTG 1], packetSourceHandler := false
    packetHandler := true, ipscHandler := false }

def groupPacket (streamID : UInt64) (terminator : Bool) : Packet :=
  { dst := 91, groupCall := true, streamID
    frameType := if terminator then 2 else 0, dtypeOrVSeq := if terminator then 2 else 0 }

theorem forwarded_in_order_drained_first :
    let turns : List (Turn Bool) :=
      [.submit false (groupPacket 1 false) 1000, .forward false, .submit true (groupPacket 2 false) 2000,
        .submit false (groupPacket 1 true) 3000, .forward false, .release false 4000, .forward false,
        .submit true (groupPacket 2 false) 5000, .forward true]
    let w := runFrom (World.step twoClients) (World.new Bool 0) turns
    w.forwarded.map Submitted.seq = [0, 2, 1, 3] ∧
      w.forwarded.Pairwise fun a b => a.stream = b.stream → a.seq < b.seq :=
  ⟨by decide, forwarded_in_order twoClients 0 _ (by decide)⟩

/-- The drain of the first client has taken the waiting packet of stream 2 but
not yet forwarded it when the second client submits and forwards the next one. -/
theorem live_packet_overtakes_drained_one :
    let turns : List (Turn Bool) :=
      [.submit false (groupPacket 1 false) 1000, .forward false, .submit true (groupPacket 2 false) 2000,
        .submit false (groupPacket 1 true) 3000, .forward false, .release false 4000,
        .submit true (groupPacket 2 false) 5000, .forward true, .forward false]
    let w := runFrom (World.step twoClients) (World.new Bool 0) turns
    w.forwarded = [⟨groupPacket 1 false, 0⟩, ⟨groupPacket 1 true, 2⟩, ⟨groupPacket 2 false, 3⟩,
        ⟨groupPacket 2 false, 1⟩] ∧
      ¬ w.forwarded.Pairwise fun a b => a.stream = b.stream → a.seq < b.seq := by
  decide

end Ipsc2Mmdvm.Mmdvm
