import Ipsc2Mmdvm.Mmdvm.Client

namespace Ipsc2Mmdvm.Mmdvm

open Data Proto Client
open List hiding Vector

/-! The watchdog leaves once it sees the client ready, and a ping leaves when it reconnects.  Each
relies on the other to be there. -/

def Client.Supervised (c : Client) : Prop := c.watchdog = true ∨ c.pings ≠ []

/-- The event is the tick at which the only supervisor left, a ping, finds the
connection timed out. -/
def Client.LosesSupervision (c : Client) : ClientEvent → Prop
  | .tickPing i now _ =>
    c.watchdog = false ∧ c.pings.length = 1 ∧ c.pings[i]? = some .waiting ∧
      Time.after now (Time.add c.lastPing clientTimeout) = true
  | _ => False

def Client.ReadyPinged (c : Client) : Prop := c.state = .ready → c.pings ≠ []

section

variable (cfg : ClientConfig) (sha256 : Bytes → Digest) {c : Client}

theorem handler_supervisors (data : Bytes) (now : Time) : (c.handler cfg sha256 data now).1.watchdog = c.watchdog ∧
      ((c.handler cfg sha256 data now).1.pings = c.pings ∧
          ((c.handler cfg sha256 data now).1.state = .ready → c.state = .ready) ∨
        (c.handler cfg sha256 data now).1.pings = c.pings ++ [.starting]) := by
  simp only [handler]
  split
  · exact ⟨rfl, .inl ⟨rfl, id⟩⟩
  · simp only [handleState]
    cases state : c.state with
    | idle | timeout => exact ⟨rfl, .inl ⟨rfl, fun ready => by simp [state] at ready⟩⟩
    | sentLogin =>
      simp only [handleSentLogin]
      split <;> (try split) <;> simp [state]
    | sentAuth =>
      simp only [handleSentAuth]
      split <;> (try split) <;> simp [state]
    | sentRPTC =>
      simp only [handleSentRPTC]
      split <;> (try split) <;> simp [state]
    | ready =>
      simp only [handleReady]
      repeat' split
      all_goals simp

theorem readyPinged_step (pinged : c.ReadyPinged) (event : ClientEvent) : (c.step cfg sha256 event).ReadyPinged := by
  cases event with
  | received data now =>
    intro ready
    obtain ⟨_, ⟨same, before⟩ | started⟩ := handler_supervisors cfg sha256 (c := c) data now
    · rw [step, handle, same]
      exact pinged (before ready)
    · rw [step, handle, started]
      simp
  | startPing i now =>
    simp only [step, handle, startPing]
    split
    · intro ready
      simpa using pinged ready
    · exact pinged
  | tickPing i now dialed =>
    simp only [step, handle, tickPing]
    split
    · split
      · intro ready
        simp [reconnect] at ready
      · exact pinged
    · exact pinged
  | tickWatchdog dialed =>
    simp only [step, handle, tickWatchdog]
    split
    · exact pinged
    · split
      · exact pinged
      · intro ready
        simp [reconnect] at ready

theorem supervised_step_iff (pinged : c.ReadyPinged) (supervised : c.Supervised) (event : ClientEvent) :
    (c.step cfg sha256 event).Supervised ↔ ¬ c.LosesSupervision event := by
  cases event with
  | received data now =>
    refine iff_of_true ?_ id
    obtain ⟨watchdog, ⟨same, _⟩ | started⟩ := handler_supervisors cfg sha256 (c := c) data now
    · rw [Client.Supervised, step, handle, watchdog, same]
      exact supervised
    · rw [Client.Supervised, step, handle, started]
      exact .inr (by simp)
  | startPing i now =>
    refine iff_of_true ?_ id
    simp only [step, handle, startPing]
    split
    · exact supervised.imp_right fun some => by simpa using some
    · exact supervised
  | tickPing i now dialed =>
    simp only [step, handle, tickPing, Client.LosesSupervision]
    split
    · rename_i waiting
      split
      · rename_i late
        have inside : i < c.pings.length := (List.getElem?_eq_some_iff.mp waiting).1
        have fewer := length_eraseIdx_of_lt inside
        simp only [Client.Supervised, reconnect, ne_eq, ← length_eq_zero_iff, fewer, waiting, late, and_true]
        cases c.watchdog with
        | true => simp
        | false =>
          simp only [Bool.false_eq_true, false_or, true_and]
          omega
      · rename_i early
        exact iff_of_true supervised fun loses => early loses.2.2.2
    · rename_i other
      exact iff_of_true supervised fun loses => other loses.2.2.1
  | tickWatchdog dialed =>
    refine iff_of_true ?_ id
    simp only [step, handle, tickWatchdog]
    split
    · exact supervised
    · split
      · rename_i ready
        exact .inr (pinged ready)
      · rename_i running _
        exact .inl (by simpa [reconnect] using running)

theorem unsupervised_silent (alone : ¬ c.Supervised) {event : ClientEvent}
    (silent : ∀ data now, event ≠ .received data now) : c.handle cfg sha256 event = (c, []) := by
  simp only [Client.Supervised, not_or, Bool.not_eq_true, ne_eq, not_not] at alone
  cases event with
  | received data now => exact absurd rfl (silent data now)
  | startPing i now => simp [handle, startPing, alone.2]
  | tickPing i now dialed => simp [handle, tickPing, alone.2]
  | tickWatchdog dialed => simp [handle, tickWatchdog, alone.1]

theorem unsupervised_stuck (alone : ¬ c.Supervised) {events : List ClientEvent}
    (silent : ∀ event ∈ events, ∀ data now, event ≠ .received data now) :
    runFrom (step cfg sha256) c events = c ∧
      EachStep (step cfg sha256) (fun c event => (c.handle cfg sha256 event).2 = []) c events := by
  induction events with
  | nil => exact ⟨rfl, trivial⟩
  | cons event events ih =>
    have idle := unsupervised_silent cfg sha256 alone (silent event mem_cons_self)
    have stays : c.step cfg sha256 event = c := by rw [step, idle]
    rw [runFrom_cons, eachStep_cons, stays, idle]
    obtain ⟨same, quiet⟩ := ih fun other member => silent other (mem_cons_of_mem _ member)
    exact ⟨same, rfl, quiet⟩

end

/-- In every run of a client from its start: a supervisor is running in each
state reached if and only if no ping times out as the only one left. -/
theorem supervised_iff (cfg : ClientConfig) (sha256 : Bytes → Digest) (events : List ClientEvent) :
    EachState (Client.step cfg sha256) Client.Supervised .start events ↔
      EachStep (Client.step cfg sha256) (fun c event => ¬ c.LosesSupervision event) .start events :=
  eachState_iff_eachStep (Client.step cfg sha256) Client.Supervised events
    (fun _ event pinged => readyPinged_step cfg sha256 pinged event)
    (fun _ event pinged supervised => supervised_step_iff cfg sha256 pinged supervised event)
    (fun ready => by simp [Client.start] at ready) (.inl rfl)

/-- A client completes its handshake and the watchdog leaves; then the master
falls silent and the ping reconnects once.  If that login is lost too, the
client waits forever. -/
theorem client_left_alone :
    let cfg : ClientConfig :=
      { id := 1, password := ascii "secret", callsign := "N0CALL", rxFreq := 0, txFreq := 0,
        txPower := 1, colorCode := 1, latitude := ascii "+00.0000", longitude := ascii "+000.0000",
        height := 0, location := "", description := "", url := "", slots := 0 }
    let sha256 : Bytes → Digest := fun _ => Vector.replicate 32 0
    let instant (seconds : Nat) : Time := seconds * 1000000000
    let c := runFrom (Client.step cfg sha256) .start
      [.received (ascii "RPTACK" ++ [1, 2, 3, 4]) (instant 1), .received (ascii "RPTACK") (instant 1),
        .received (ascii "RPTACK") (instant 1), .startPing 0 (instant 1), .tickPing 0 (instant 6) true,
        .tickPing 0 (instant 11) true, .tickWatchdog true, .tickPing 0 (instant 16) true,
        .tickPing 0 (instant 21) true]
    c.state = .sentLogin ∧ ¬ c.Supervised ∧
      ∀ events : List ClientEvent, (∀ event ∈ events, ∀ data now, event ≠ .received data now) →
        runFrom (Client.step cfg sha256) c events = c ∧
          EachStep (Client.step cfg sha256) (fun c event => (c.handle cfg sha256 event).2 = []) c events := by
  intro cfg sha256 instant c
  have reached : c = { state := .sentLogin, lastPing := instant 1, watchdog := false, pings := [] } := by
    decide
  have alone : ¬ c.Supervised := by simp [reached, Client.Supervised]
  exact ⟨by rw [reached], alone, fun events => unsupervised_stuck cfg sha256 alone⟩

end Ipsc2Mmdvm.Mmdvm
