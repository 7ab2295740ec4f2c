import Ipsc2Mmdvm.Data.Transitions
import Ipsc2Mmdvm.Repeater.Guard

namespace Ipsc2Mmdvm.Repeater

open Data Proto Guard List Function

/-! Once a source has put a packet of a call on a slot, another source gets in only after the call's
terminator or after `callTimeout` of silence. -/

structure Arrival where
  source : String
  pkt : Packet
  now : Time
deriving DecidableEq

structure Watch where
  guard : Guard
  clock : Time
  accepted : List Arrival

namespace Watch

def step (w : Watch) (call : Guard.Call) : Watch where
  guard := w.guard.call call
  clock := call.now
  accepted :=
    match call with
    | .allowIngress source pkt now =>
      if (w.guard.allowIngress source pkt now).2 then w.accepted ++ [⟨source, pkt, now⟩]
      else w.accepted
    | .markForwarded .. => w.accepted

def start (g : Guard) (source : String) (pkt : Packet) (now : Time) : Watch where
  guard := (g.allowIngress source pkt now).1
  clock := now
  accepted := [⟨source, pkt, now⟩]

def Ordered (w : Watch) (call : Guard.Call) : Prop := w.clock ≤ call.now

instance (w : Watch) (call : Guard.Call) : Decidable (w.Ordered call) :=
  inferInstanceAs (Decidable (_ ≤ _))

end Watch

section

variable (source : String) (slot : Fin 2)

def Arrival.IsOf (arrival : Arrival) : Prop :=
  arrival.source = source ∧ ownerIndex arrival.pkt = slot

namespace Watch

variable (w : Watch)

def Terminated : Prop :=
  ∃ arrival ∈ w.accepted, arrival.IsOf source slot ∧ arrival.pkt.isTerminator = true

/-- At `now`, more than `callTimeout` has passed since every packet of the
source that was accepted on the slot. -/
def Silent (now : Time) : Prop :=
  ∀ arrival ∈ w.accepted, arrival.IsOf source slot →
    w.guard.callTimeout < Time.sub now arrival.now

def Owns : Prop :=
  ∃ owner, w.guard.owners slot = some owner ∧ owner.source = source ∧
    ∀ arrival ∈ w.accepted, arrival.IsOf source slot → arrival.now ≤ owner.lastSeen

def Displaced : Prop :=
  ∃ arrival ∈ w.accepted, arrival.source ≠ source ∧ ownerIndex arrival.pkt = slot

structure Exclusive : Prop where
  past : ∀ arrival ∈ w.accepted, arrival.now ≤ w.clock
  held : w.Terminated source slot ∨ w.Silent source slot w.clock ∨ w.Owns source slot
  unclaimed : w.Displaced source slot ∨
    ∀ owner, w.guard.owners slot = some owner → owner.source = source

end Watch

end

namespace Watch

variable {source : String} {slot : Fin 2} {w : Watch} {now : Time} {pkt : Packet}

theorem Exclusive.evict (exclusive : w.Exclusive source slot) (later : w.clock ≤ now) :
    w.Terminated source slot ∨ w.Silent source slot now ∨
      (∃ owner, (w.guard.evictExpired now).owners slot = some owner ∧ owner.source = source ∧
        ∀ arrival ∈ w.accepted, arrival.IsOf source slot → arrival.now ≤ owner.lastSeen) := by
  obtain terminated | silent | ⟨owner, owned, own, seen⟩ := exclusive.held
  · exact .inl terminated
  · refine .inr (.inl fun arrival member ofSource => ?_)
    exact lt_of_lt_of_le (silent arrival member ofSource) (Time.sub_mono later le_rfl)
  · cases late : expired now owner.lastSeen w.guard.callTimeout with
    | true =>
      refine .inr (.inl fun arrival member ofSource => ?_)
      have lapsed : w.guard.callTimeout < Time.sub now owner.lastSeen := of_decide_eq_true late
      exact lt_of_lt_of_le lapsed (Time.sub_mono le_rfl (seen arrival member ofSource))
    | false =>
      refine .inr (.inr ⟨owner, ?_, own, seen⟩)
      simp [evictExpired, owned, late, Option.filter]

theorem Exclusive.unclaimed_evict (exclusive : w.Exclusive source slot) (now : Time) : w.Displaced source slot ∨
      ∀ owner, (w.guard.evictExpired now).owners slot = some owner → owner.source = source := by
  refine exclusive.unclaimed.imp_right fun mine owner owned => mine owner ?_
  exact (Option.filter_eq_some_iff.mp owned).1

theorem Exclusive.skip {w' : Watch} (exclusive : w.Exclusive source slot)
    (later : w.clock ≤ w'.clock) (accepted : w'.accepted = w.accepted)
    (timeout : w'.guard.callTimeout = w.guard.callTimeout)
    (owners : w'.guard.owners = (w.guard.evictExpired w'.clock).owners) :
    w'.Exclusive source slot := by
  constructor
  · intro arrival member
    rw [accepted] at member
    exact (exclusive.past arrival member).trans later
  · have held := exclusive.evict later
    simpa only [Terminated, Silent, Owns, accepted, timeout, owners] using held
  · have unclaimed := exclusive.unclaimed_evict w'.clock
    simpa only [Displaced, accepted, owners] using unclaimed

section Accept

variable {w' : Watch} {sender : String} {pkt : Packet}

theorem still_over (source : String) (slot : Fin 2) (accepted : w'.accepted = w.accepted ++ [⟨sender, pkt, w'.clock⟩])
    (timeout : w'.guard.callTimeout = w.guard.callTimeout)
    (foreign : ¬ Arrival.IsOf source slot ⟨sender, pkt, w'.clock⟩) :
    (w.Terminated source slot → w'.Terminated source slot) ∧
      (w.Silent source slot w'.clock → w'.Silent source slot w'.clock) := by
  constructor
  · intro terminated
    obtain ⟨arrival, member, terminator⟩ := terminated
    exact ⟨arrival, by simp [accepted, member], terminator⟩
  · intro silent arrival member ofSource
    rw [accepted, mem_append, mem_singleton] at member
    rw [timeout]
    obtain member | rfl := member
    · exact silent arrival member ofSource
    · exact absurd ofSource foreign

theorem Exclusive.accept (exclusive : w.Exclusive source slot) (later : w.clock ≤ w'.clock)
    (accepted : w'.accepted = w.accepted ++ [⟨sender, pkt, w'.clock⟩])
    (timeout : w'.guard.callTimeout = w.guard.callTimeout)
    (free : w.guard.slotBusy sender pkt w'.clock = false)
    (owners : w'.guard.owners = update (w.guard.evictExpired w'.clock).owners (ownerIndex pkt)
        (if pkt.isTerminator then none
          else some { source := sender, streamID := pkt.streamID, lastSeen := w'.clock })) :
    w'.Exclusive source slot := by
  have past : ∀ arrival ∈ w'.accepted, arrival.now ≤ w'.clock := by
    intro arrival member
    rw [accepted, mem_append, mem_singleton] at member
    obtain member | rfl := member
    · exact (exclusive.past arrival member).trans later
    · exact le_rfl
  have arrived : ⟨sender, pkt, w'.clock⟩ ∈ w'.accepted := by simp [accepted]
  by_cases here : ownerIndex pkt = slot
  · subst here
    have owner_now : w'.guard.owners (ownerIndex pkt) = if pkt.isTerminator then none
        else some { source := sender, streamID := pkt.streamID, lastSeen := w'.clock } := by
      rw [owners, update_self]
    by_cases own : sender = source
    · subst own
      refine ⟨past, ?_, .inr fun owner owned => ?_⟩
      · cases term : pkt.isTerminator with
        | true => exact .inl ⟨_, arrived, ⟨rfl, rfl⟩, term⟩
        | false =>
          refine .inr (.inr ⟨_, by rw [owner_now, term]; rfl, rfl, fun arrival member _ => ?_⟩)
          exact past arrival member
      · rw [owner_now] at owned
        cases term : pkt.isTerminator with
        | true => simp [term] at owned
        | false =>
          simp only [term, Bool.false_eq_true, if_false, Option.some.injEq] at owned
          rw [← owned]
    · obtain ⟨terminated, silent⟩ := still_over source (ownerIndex pkt) accepted timeout fun ofSource => own ofSource.1
      refine ⟨past, ?_, .inl ⟨_, arrived, own, rfl⟩⟩
      obtain ended | ended | ⟨owner, owned, mine, _⟩ := exclusive.evict later
      · exact .inl (terminated ended)
      · exact .inr (.inl (silent ended))
      · -- The source still owned the slot, so the sender would have been refused.
        rw [evictExpired_owners] at owned
        have : owner.source = sender := by simpa [slotBusy, owned] using free
        exact absurd (this.symm.trans mine) own
  · have untouched : w'.guard.owners slot = (w.guard.evictExpired w'.clock).owners slot := by
      rw [owners, update_of_ne (Ne.symm here)]
    obtain ⟨terminated, silent⟩ := still_over source slot accepted timeout fun ofSource => here ofSource.2
    refine ⟨past, ?_, ?_⟩
    · obtain ended | ended | ⟨owner, owned, mine, seen⟩ := exclusive.evict later
      · exact .inl (terminated ended)
      · exact .inr (.inl (silent ended))
      · refine .inr (.inr ⟨owner, untouched.trans owned, mine, fun arrival member ofSource => ?_⟩)
        rw [accepted, mem_append, mem_singleton] at member
        obtain member | rfl := member
        · exact seen arrival member ofSource
        · exact absurd ofSource.2 here
    · rw [untouched]
      apply (exclusive.unclaimed_evict w'.clock).imp_left
      intro displaced
      obtain ⟨arrival, member, foreign⟩ := displaced
      exact ⟨arrival, by simp [accepted, member], foreign⟩

end Accept

theorem Exclusive.step (exclusive : w.Exclusive source slot) {call : Guard.Call}
    (ordered : w.Ordered call) : (w.step call).Exclusive source slot := by
  cases call with
  | markForwarded targetFrontend pkt now => exact exclusive.skip ordered rfl rfl rfl
  | allowIngress sender pkt now =>
    obtain ⟨accepted, free, owners⟩ | ⟨refusal, refused, owners, _⟩ := judge_owners w.guard sender pkt now
    · refine exclusive.accept ordered ?_ (judge_callTimeout ..) free owners
      simp [Watch.step, allowIngress, accepted, Guard.Call.now]
    · refine exclusive.skip ordered ?_ (judge_callTimeout ..) owners
      simp [Watch.step, allowIngress, refused]

theorem start_exclusive {g : Guard} (talks : pkt.isTerminator = false) (accepted : (g.allowIngress source pkt now).2 = true) :
    (start g source pkt now).Exclusive source (ownerIndex pkt) := by
  have owned : (start g source pkt now).guard.owners (ownerIndex pkt) =
      some { source, streamID := pkt.streamID, lastSeen := now } := by
    obtain ⟨_, _, owners⟩ | ⟨refusal, refused, _⟩ := judge_owners g source pkt now
    · simp [start, allowIngress, owners, talks]
    · simp [allowIngress, refused] at accepted
  refine ⟨?_, .inr (.inr ⟨_, owned, rfl, ?_⟩), .inr fun owner held => ?_⟩
  · simp [start]
  · simp [start]
  · rw [owned, Option.some.injEq] at held
    rw [← held]

theorem Exclusive.over_of_accepted (exclusive : w.Exclusive source slot) {other : String} (later : w.clock ≤ now)
    (differs : other ≠ source) (sameSlot : ownerIndex pkt = slot) (accepted : (w.guard.allowIngress other pkt now).2 = true) :
    w.Terminated source slot ∨ w.Silent source slot now := by
  obtain ended | ended | ⟨owner, owned, mine, _⟩ := exclusive.evict later
  · exact .inl ended
  · exact .inr ended
  · subst sameSlot
    rw [evictExpired_owners] at owned
    obtain ⟨_, free, _⟩ | ⟨refusal, refused, _⟩ := judge_owners w.guard other pkt now
    · have : owner.source = other := by simpa [slotBusy, owned] using free
      exact absurd (this.symm.trans mine) differs
    · simp [allowIngress, refused] at accepted

theorem Exclusive.not_refused (exclusive : w.Exclusive source slot) (later : w.clock ≤ now) (sameSlot : ownerIndex pkt = slot)
    (holds : ¬ w.Displaced source slot ∨ ¬ w.Terminated source slot ∧ ¬ w.Silent source slot now) :
    (w.guard.judge source pkt now).2 ≠ some .slot := by
  subst sameSlot
  have free : w.guard.slotBusy source pkt now = false := by
    simp only [slotBusy]
    rw [← evictExpired_owners]
    cases owned : (w.guard.evictExpired now).owners (ownerIndex pkt) with
    | none => rfl
    | some owner =>
      have mine : owner.source = source := by
        obtain undisturbed | ⟨goesOn, heard⟩ := holds
        · obtain displaced | mine := exclusive.unclaimed_evict now
          · exact absurd displaced undisturbed
          · exact mine owner owned
        · obtain ended | ended | ⟨holder, held, mine, _⟩ := exclusive.evict later
          · exact absurd ended goesOn
          · exact absurd ended heard
          · rw [owned, Option.some.injEq] at held
            rw [held, mine]
      simp [mine]
  intro refused
  obtain ⟨accepted, _⟩ | ⟨refusal, answer, _, busy⟩ := judge_owners w.guard source pkt now
  · rw [accepted] at refused
    cases refused
  · rw [answer, Option.some.injEq] at refused
    rw [busy refused] at free
    cases free

end Watch

/-- From the moment a packet of a call is accepted: another source gets onto
the slot only after a terminator of the call or after more than `callTimeout`
since the last accepted packet of the source; until then, and as long as no
other source was let in, the slot check never refuses the source itself. -/
theorem slot_exclusive (g : Guard) (source : String) (pkt : Packet) (now : Time)
    (calls : List Guard.Call) (talks : pkt.isTerminator = false)
    (accepted : (g.allowIngress source pkt now).2 = true)
    (ordered : EachStep Watch.step Watch.Ordered (Watch.start g source pkt now) calls) :
    let w := runFrom Watch.step (Watch.start g source pkt now) calls
    (∀ other next later, other ≠ source → ownerIndex next = ownerIndex pkt → w.clock ≤ later →
      (w.guard.allowIngress other next later).2 = true →
        w.Terminated source (ownerIndex pkt) ∨ w.Silent source (ownerIndex pkt) later) ∧
    (∀ next later, ownerIndex next = ownerIndex pkt → w.clock ≤ later →
      (¬ w.Displaced source (ownerIndex pkt) ∨
        ¬ w.Terminated source (ownerIndex pkt) ∧ ¬ w.Silent source (ownerIndex pkt) later) →
          (w.guard.judge source next later).2 ≠ some .slot) := by
  have exclusive : (runFrom Watch.step (Watch.start g source pkt now) calls).Exclusive source
      (ownerIndex pkt) :=
    runFrom_invariant (fun _ _ exclusive ordered => exclusive.step ordered)
      (Watch.start_exclusive talks accepted) ordered
  constructor
  · intro other next later differs sameSlot after admitted
    exact exclusive.over_of_accepted after differs sameSlot admitted
  · intro next later sameSlot after holds
    exact exclusive.not_refused after sameSlot holds

theorem slot_exclusive_handover :
    let talk : Packet := { src := 3, dst := 7, streamID := 1 }
    let hangup : Packet := { talk with seq := 1, frameType := 2, dtypeOrVSeq := 2 }
    let answer : Packet := { src := 7, dst := 3, streamID := 2 }
    let start := Watch.start newGuard "moto:1" talk 1000
    let w := start.step (.allowIngress "moto:1" hangup 2000)
    (newGuard.allowIngress "moto:1" talk 1000).2 = true ∧
      (w.guard.allowIngress "hytera:1" answer 3000).2 = true ∧
      (w.Terminated "moto:1" 0 ∨ w.Silent "moto:1" 0 3000) ∧
      (start.guard.judge "moto:1" hangup 2000).2 ≠ some .slot := by
  intro talk hangup answer start w
  have accepted : (newGuard.allowIngress "moto:1" talk 1000).2 = true := by decide
  have answered : (w.guard.allowIngress "hytera:1" answer 3000).2 = true := by decide
  have handover := slot_exclusive newGuard "moto:1" talk 1000
    [.allowIngress "moto:1" hangup 2000] rfl accepted ⟨by decide, trivial⟩
  have undisturbed := slot_exclusive newGuard "moto:1" talk 1000 [] rfl accepted trivial
  refine ⟨accepted, answered, ?_, ?_⟩
  · exact handover.1 "hytera:1" answer 3000 (by decide) rfl (by decide) answered
  · exact undisturbed.2 hangup 2000 rfl (by decide) (.inl (by simp [Watch.Displaced, Watch.start]))

end Ipsc2Mmdvm.Repeater
