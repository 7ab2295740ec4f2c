import Ipsc2Mmdvm.Bridge.Forwarding

namespace Ipsc2Mmdvm.Bridge

open Data Proto Repeater List Guard

/-! A forwarded packet is marked under the name of the frontend it went to, an arriving packet is
looked up under the frontend and its source.  The second key always has more colons, so no mark is
ever found. -/

theorem colons_fingerprint (pkt : Packet) : colons (fingerprint pkt) = 7 := by
  have colon : colons ":" = 1 := by decide
  simp only [fingerprint, colons_append, colons_toString_nat, colons_toString_bool, colons_hexEncodeToString, colon]

theorem colons_echoKey (source : String) (pkt : Packet) : colons (echoKey source pkt) = colons source + 9 := by
  have colon : colons ":" = 1 := by decide
  have tag : colons "echo:" = 1 := by decide
  simp only [echoKey, colons_append, colon, tag, colons_fingerprint]
  omega

theorem colons_name (frontend : Frontend) : colons frontend.name = 0 := by
  cases frontend <;> decide

theorem colons_ingressSource (frontend : Frontend) (source : String) :
    colons (ingressSource frontend source) = colons source + 1 := by
  have colon : colons ":" = 1 := by decide
  simp only [ingressSource, colons_append, colons_name, colon]
  omega

theorem echoKey_ne (frontend target : Frontend) (source : String) (pkt marked : Packet) :
    echoKey (ingressSource frontend source) pkt ≠ echoKey target.name marked := by
  intro same
  have counts := congrArg colons same
  rw [colons_echoKey, colons_echoKey, colons_ingressSource, colons_name] at counts
  omega

def Wired : Guard.Call → Prop
  | .allowIngress .. => True
  | .markForwarded targetFrontend .. => ∃ frontend : Frontend, targetFrontend = frontend.name

variable {later : Time} {calls : List Guard.Call}

theorem call_isEcho {g : Guard} {call : Guard.Call} (wired : Wired call) (frontend : Frontend) (source : String) (pkt : Packet)
    (ordered : call.now ≤ later) :
    (g.call call).isEcho (ingressSource frontend source) pkt later =
      g.isEcho (ingressSource frontend source) pkt later := by
  cases call with
  | allowIngress sender arrived now =>
    obtain ⟨egress, ttl⟩ := judge_recentEgress g sender arrived now
    simp only [isEcho, call, allowIngress, egress, ttl]
    exact seenRecently_deleteWhere _ _ _ ordered
  | markForwarded targetFrontend marked now =>
    obtain ⟨target, rfl⟩ := wired
    have untouched : (g.markForwarded target.name marked now).isEcho (ingressSource frontend source) pkt later =
        (g.evictExpired now).isEcho (ingressSource frontend source) pkt later := by
      simp only [isEcho, markForwarded, seenRecently,
        Finmap.lookup_insert_of_ne _ (echoKey_ne frontend target source pkt marked)]
    exact untouched.trans (seenRecently_deleteWhere _ _ _ ordered)

theorem calls_isEcho (g : Guard) (wired : ∀ call ∈ calls, Wired call) (frontend : Frontend) (source : String) (pkt : Packet)
    (ordered : ∀ call ∈ calls, call.now ≤ later) :
    (runFrom call g calls).isEcho (ingressSource frontend source) pkt later =
      g.isEcho (ingressSource frontend source) pkt later := by
  induction calls generalizing g with
  | nil => rfl
  | cons call calls ih =>
    rw [runFrom_cons, ih (g.call call) (fun c member => wired c (mem_cons_of_mem _ member))
      fun c member => ordered c (mem_cons_of_mem _ member)]
    exact call_isEcho (wired call mem_cons_self) frontend source pkt (ordered call mem_cons_self)

theorem handleIngress_dropped_iff (b : BridgeState) (moment : Moment) (frontend : Frontend)
    (source : String) (pkt : Packet) (addrIP : Option String) :
    (handleIngress b moment frontend source pkt addrIP).2 = none ↔
      (b.guard.allowIngress (ingressSource frontend source) pkt moment.admitAt).2 = false := by
  unfold handleIngress
  cases allowed : (b.guard.allowIngress (ingressSource frontend source) pkt moment.admitAt).2 <;>
    simp [allowed]

/-- After a packet was marked as forwarded to a frontend, the same packet
coming back from it is dropped only if one of the other checks refuses it, or
if the guard held an entry for it that no call of the bridge makes. -/
theorem echo_dropped_iff (g : Guard) (frontend : Frontend) (source : String) (pkt : Packet)
    (marked : Time) (calls : List Guard.Call) (b : BridgeState) (moment : Moment)
    (addrIP : Option String) (wired : ∀ call ∈ calls, Wired call) (first : marked ≤ moment.admitAt)
    (ordered : ∀ call ∈ calls, call.now ≤ moment.admitAt)
    (reached : b.guard = runFrom Guard.call (g.markForwarded frontend.name pkt marked) calls) :
    (handleIngress b moment frontend source pkt addrIP).2 = none ↔
      g.isEcho (ingressSource frontend source) pkt moment.admitAt = true ∨
        b.guard.isDuplicate (ingressSource frontend source) pkt moment.admitAt = true ∨
        b.guard.groupBusy (ingressSource frontend source) pkt moment.admitAt = true ∨
        b.guard.slotBusy (ingressSource frontend source) pkt moment.admitAt = true := by
  have mark : Wired (.markForwarded frontend.name pkt marked) := ⟨frontend, rfl⟩
  have echo : b.guard.isEcho (ingressSource frontend source) pkt moment.admitAt =
      g.isEcho (ingressSource frontend source) pkt moment.admitAt := by
    rw [reached, calls_isEcho _ wired frontend source pkt ordered]
    exact call_isEcho mark frontend source pkt first
  rw [handleIngress_dropped_iff, Guard.allowIngress_refused_iff, echo]

def Moment.working (now : Time) : Moment where
  links := {
    forwardAllowed := fun _ => true
    ipscServer := true
    hyteraServer := true
    nrlBridge := true
    upstream := fun _ => true
    routeMotoTranslator := fun _ _ => true
    taken := fun _ _ => true }
  orders := .increasing
  admitAt := now
  rememberAt := now
  routeAt := now
  markAt := fun _ => now

/-- The terminator of a private call goes from Hytera to Moto and is marked;
the same packet from a Moto peer one millisecond later is let in, and goes
back to Hytera. -/
theorem terminator_echoes_back :
    let hangup : Packet := { src := 3, dst := 7, frameType := 2, dtypeOrVSeq := 2, streamID := 1 }
    let sent := handleIngress (newBridge 0 0) (.working 1000000000) .hytera "10.0.0.2:50001" hangup
      (some "10.0.0.2")
    let back := handleIngress sent.1 (.working 1001000000) .moto "10.0.0.1:50000:312" hangup
      (some "10.0.0.1")
    (.markForwarded .moto hangup ∈ sent.2.getD []) ∧
      back.2 = some [.markForwarded .hytera hangup, .send (.hyteraAll true) hangup, .send .mmdvm hangup] := by
  decide

theorem echo_dropped_by_slot_check :
    let talk : Packet := { src := 3, dst := 7, streamID := 1 }
    let talking := (newGuard.allowIngress "hytera:10.0.0.2:50001" talk 1000).1
    let b : BridgeState := { newBridge 0 0 with guard := talking.markForwarded "moto" talk 2000 }
    (handleIngress b (.working 3000) .moto "10.0.0.1:50000:312" talk none).2 = none := by
  intro talk talking b
  exact (echo_dropped_iff talking .moto "10.0.0.1:50000:312" talk 2000 [] b (.working 3000) none
    (by simp) (by decide) (by simp) rfl).mpr (.inr (.inr (.inr (by decide))))

end Ipsc2Mmdvm.Bridge
