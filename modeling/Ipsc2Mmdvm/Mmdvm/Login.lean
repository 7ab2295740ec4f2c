import Ipsc2Mmdvm.Mmdvm.Client
import Ipsc2Mmdvm.Mmdvm.ServerAuth

namespace Ipsc2Mmdvm.Mmdvm

open Data Proto List ClientEffect Client

/-! A client and a server on a network that loses, repeats, delays and reorders: everything ever
sent stands in one log, and any of it may be delivered at any time and any number of times. -/

structure Site where
  client : ClientConfig
  server : ServerConfig
  sha256 : Bytes → Digest
  /-- The address of each connection of the client. -/
  addr : Nat → UDPAddr
  isClient : UDPAddr → Bool
  addr_isClient : ∀ dial, isClient (addr dial) = true

inductive Entry where
  | queued (dial : Nat) (data : Bytes)
  | accepted (addr : UDPAddr) (data : Bytes)
  | replied (addr : UDPAddr) (data : Bytes)
deriving DecidableEq

structure Exchange where
  client : Client
  server : Server
  dials : Nat
  log : List Entry

inductive ExchangeEvent where
  | toClient (entry dial : Nat) (now : Time)
  | toServer (entry dial : Nat) (env : Env)
  | otherToServer (addr : UDPAddr) (data : Bytes) (env : Env)
  | sendPacket (pkt : Packet)
  | startPing (i : Nat) (now : Time)
  | tickPing (i : Nat) (now : Time) (dialed : Bool)
  | tickWatchdog (dialed : Bool)
  | tick (now : Time) (order : Enumeration String)
  | expire

def queuedBy (dial : Nat) (effects : List ClientEffect) : List Entry :=
  effects.filterMap fun
    | .send data => some (.queued dial data)
    | _ => none

def redialed (effects : List ClientEffect) : Bool :=
  effects.contains (.publishStatus "reconnecting" false) &&
    !effects.contains (.publishStatus "connect_failed" false)

def repliedBy (effects : List Effect) : List Entry :=
  effects.filterMap fun
    | .sendRaw addr data => some (.replied addr data)
    | _ => none

section

variable (site : Site)

def acceptedBy (sessions : Sessions) (event : ServerEvent) : List Entry :=
  match event, acceptedAuth site.server site.sha256 sessions event with
  | .datagram addr data _, some _ => [.accepted addr data]
  | _, _ => []

namespace Exchange

def start : Exchange where
  client := .start
  server := newMMDVMServer
  dials := 0
  log := queuedBy 0 [sendLogin site.client]

def afterClient (s : Exchange) (result : Client × List ClientEffect) : Exchange :=
  let dials := if redialed result.2 then s.dials + 1 else s.dials
  { s with client := result.1, dials, log := s.log ++ queuedBy dials result.2 }

def afterServer (s : Exchange) (event : ServerEvent) : Exchange :=
  let result := s.server.handle site.server site.sha256 event
  { s with
    server := result.1
    log := s.log ++ (acceptedBy site s.server.sessions event ++ repliedBy result.2) }

/-- What cannot be delivered is not, and no other host sends from the client's addresses. -/
def step (s : Exchange) : ExchangeEvent → Exchange
  | .toClient entry dial now =>
    match s.log[entry]? with
    | some (.replied addr data) =>
      if dial ≤ s.dials ∧ addr = site.addr dial then
        s.afterClient (s.client.handler site.client site.sha256 data now)
      else s
    | _ => s
  | .toServer entry dial env =>
    match s.log[entry]? with
    | some (.queued sentAt data) =>
      if sentAt ≤ dial ∧ dial ≤ s.dials then s.afterServer site (.datagram (site.addr dial) data env)
      else s
    | _ => s
  | .otherToServer addr data env =>
    if site.isClient addr then s else s.afterServer site (.datagram addr data env)
  | .sendPacket pkt =>
    if pkt.signature = ascii "DMRD" then
      { s with log := s.log ++ [.queued s.dials { pkt with repeater := site.client.id.toUInt64 }.encode] }
    else s
  | .startPing i now => s.afterClient (s.client.startPing site.client i now)
  | .tickPing i now dialed => s.afterClient (s.client.tickPing site.client i now dialed)
  | .tickWatchdog dialed => s.afterClient (s.client.tickWatchdog site.client dialed)
  | .tick now order => s.afterServer site (.tick now order)
  | .expire => s.afterServer site .expire

end Exchange

def rptk (challenge : Bytes) : Bytes :=
  ascii "RPTK" ++ putUint32 site.client.id ++ (site.sha256 (challenge ++ site.client.password)).toList

/-- The server issued a challenge to the client, then the client sent an RPTK
computed from it, then the server accepted that RPTK from the client. -/
def Authenticated (log : List Entry) : Prop :=
  ∃ challenge issuedTo sentAt acceptedFrom, challenge.length = 4 ∧
    [.replied (site.addr issuedTo) (rptAck ++ challenge), .queued sentAt (rptk site challenge),
      .accepted (site.addr acceptedFrom) (rptk site challenge)].Sublist log

def Exchange.LoginAgreed (s : Exchange) : Prop :=
  s.client.state = .ready → Authenticated site s.log

def Entry.isChallenge : Entry → Bool
  | .replied _ data => isRptAck data && data.length != 6
  | _ => false

def ExchangeEvent.deliveredToClient (log : List Entry) : ExchangeEvent → Option Entry
  | .toClient entry _ _ => log[entry]?
  | _ => none

/-- No challenge is delivered to the client while it waits for the answer to its RPTK. -/
def Exchange.ChallengeExpected (s : Exchange) (event : ExchangeEvent) : Prop :=
  s.client.state = .sentAuth → (event.deliveredToClient s.log).any Entry.isChallenge = false

instance (s : Exchange) (event : ExchangeEvent) : Decidable (s.ChallengeExpected event) :=
  inferInstanceAs (Decidable (_ → _))

end

def Answers (addr : UDPAddr) (ack : Prop) (effects : List Effect) : Prop :=
  ∀ peer data, .sendRaw peer data ∈ effects → peer = addr ∧ (isRptAck data = true →
    (∃ challenge : Bytes, challenge.length = 4 ∧ data = rptAck ++ challenge) ∨ (data = rptAck ∧ ack))

section Server

variable {cfg : ServerConfig} {sha256 : Bytes → Digest} {addr : UDPAddr} {data : Bytes} {env : Env} {ack : Prop}

theorem Answers.nil : Answers addr ack [] := by simp [Answers]

theorem Answers.nak : Answers addr ack [sendNAK addr] := by
  have other : isRptAck (ascii "RPTNAK") = false := by decide
  simp [Answers, sendNAK, other]

theorem answers_ack {effects : List Effect} (accepted : ack)
    (only : ∀ peer data, .sendRaw peer data ∈ effects → .sendRaw peer data = sendACK addr) :
    Answers addr ack effects := by
  intro peer data sent
  have same := only peer data sent
  simp only [sendACK, Effect.sendRaw.injEq] at same
  exact ⟨same.1, fun _ => .inr ⟨same.2, accepted⟩⟩

theorem ServerStep.answers {h : Server} {result : Sessions × List Effect}
    (step : ServerStep cfg sha256 h (.datagram addr data env) result) :
    Answers addr ((acceptedAuth cfg sha256 h.sessions (.datagram addr data env)).isSome = true ∨
      data.take 4 = ascii "RPTC") result.2 := by
  cases step with
  | ignored => exact .nil
  | offline key =>
    simp only [setOffline]
    split <;> simp [Answers]
  | refused => exact .nak
  | challenged challenge =>
    intro peer data sent
    simp only [mem_singleton, Effect.sendRaw.injEq] at sent
    exact ⟨sent.1, fun _ => .inl ⟨challenge.toList, by simp, sent.2⟩⟩
  | authenticated sess known accepted => exact answers_ack (.inl (by simp [accepted])) (by simp)
  | configured info accepted =>
    obtain ⟨_, _, same, _, kind, _⟩ := acceptedConfig_cases accepted
    cases same
    exact answers_ack (.inr kind) (by simp)
  | pinged =>
    intro peer reply sent
    simp only [mem_cons, reduceCtorEq, not_mem_nil, or_false, false_or, Effect.sendRaw.injEq] at sent
    have other : isRptAck (ascii "MSTPONG" ++ putUint32 cfg.id) = false := by simp [isRptAck, ascii]
    exact ⟨sent.1, by simp [sent.2, other]⟩
  | forwarded => simp [Answers]

end Server

def Client.Configures (c : Client) (data : Bytes) : Prop :=
  c.state = .sentRPTC ∨ c.state = .ready ∨ (c.state = .sentAuth ∧ isRptAck data = true)

def Client.PastAuth (c : Client) : Prop := c.state = .sentRPTC ∨ c.state = .ready

section Client

variable {cfg : ClientConfig} {sha256 : Bytes → Digest} {c : Client} {data sent : Bytes} {now : Time}

def IsRPTK (data : Bytes) : Prop := data.take 4 = ascii "RPTK"

def IsRPTC (data : Bytes) : Prop := data.take 4 = ascii "RPTC"

theorem sendLogin_kind (cfg : ClientConfig) (login : .send sent = sendLogin cfg) : ¬ IsRPTK sent ∧ ¬ IsRPTC sent := by
  simp only [sendLogin, send.injEq] at login
  simp [login, IsRPTK, IsRPTC, ascii]

theorem sendPing_kind (cfg : ClientConfig) (ping : .send sent = sendPing cfg) : ¬ IsRPTK sent ∧ ¬ IsRPTC sent := by
  simp only [sendPing, send.injEq] at ping
  simp [ping, IsRPTK, IsRPTC, ascii]

theorem sendRPTC_kind (config : .send sent = sendRPTC cfg) : ¬ IsRPTK sent := by
  simp only [sendRPTC, send.injEq] at config
  simp [config, IsRPTK, ascii]

theorem sendRPTK_kind {random : Bytes} (auth : .send sent = sendRPTK cfg sha256 random) : ¬ IsRPTC sent := by
  simp only [sendRPTK, send.injEq] at auth
  simp [auth, IsRPTC, ascii]

theorem handler_pastAuth (past : (c.handler cfg sha256 data now).1.PastAuth) : c.Configures data := by
  simp only [handler] at past
  split at past
  · exact past.elim .inl fun ready => .inr (.inl ready)
  · cases state : c.state with
    | idle | timeout => simp [handleState, state, Client.PastAuth] at past
    | sentLogin =>
      simp only [handleState, state, handleSentLogin] at past
      split at past
      · split at past <;> simp [Client.PastAuth, state] at past
      · simp [Client.PastAuth, state] at past
    | sentAuth =>
      simp only [handleState, state, handleSentAuth] at past
      split at past
      · rename_i acked
        exact .inr (.inr ⟨state, acked⟩)
      · split at past <;> simp [Client.PastAuth, state] at past
    | sentRPTC => exact .inl state
    | ready => exact .inr (.inl state)

theorem handler_sends (sends : .send sent ∈ (c.handler cfg sha256 data now).2) :
    (IsRPTK sent → isRptAck data = true ∧ 10 ≤ data.length ∧
      .send sent = sendRPTK cfg sha256 (data.drop (data.length - 4))) ∧
    (IsRPTC sent → c.Configures data) := by
  simp only [handler] at sends
  split at sends
  · simp at sends
  · cases state : c.state with
    | idle | timeout => simp [handleState, state] at sends
    | sentLogin =>
      simp only [handleState, state, handleSentLogin] at sends
      split at sends
      · rename_i acked
        split at sends
        · simp at sends
        · rename_i long
          simp only [mem_cons, reduceCtorEq, not_mem_nil, or_false, false_or] at sends
          refine ⟨fun _ => ⟨acked, Nat.le_of_not_lt long, sends⟩, fun config => ?_⟩
          exact absurd config (sendRPTK_kind sends)
      · obtain ⟨notRPTK, notRPTC⟩ := sendLogin_kind cfg (mem_singleton.mp sends)
        exact ⟨fun kind => absurd kind notRPTK, fun kind => absurd kind notRPTC⟩
    | sentAuth =>
      simp only [handleState, state, handleSentAuth] at sends
      split at sends
      · rename_i acked
        simp only [mem_cons, reduceCtorEq, not_mem_nil, or_false, false_or] at sends
        exact ⟨fun kind => absurd kind (sendRPTC_kind sends), fun _ => .inr (.inr ⟨state, acked⟩)⟩
      · split at sends
        · simp only [mem_cons, reduceCtorEq, not_mem_nil, or_false, false_or] at sends
          obtain ⟨notRPTK, notRPTC⟩ := sendLogin_kind cfg sends
          exact ⟨fun kind => absurd kind notRPTK, fun kind => absurd kind notRPTC⟩
        · simp at sends
    | sentRPTC =>
      refine ⟨fun kind => absurd kind ?_, fun _ => .inl state⟩
      simp only [handleState, state, handleSentRPTC] at sends
      split at sends
      · simp at sends
      · split at sends
        · exact sendRPTC_kind (mem_singleton.mp sends)
        · simp at sends
    | ready =>
      simp only [handleState, state, handleReady] at sends
      split at sends
      · split at sends <;> simp at sends
      · split at sends
        · split at sends <;> simp at sends
        · simp at sends

structure Restarts (c : Client) (result : Client × List ClientEffect) : Prop where
  pastAuth : result.1.PastAuth → c.PastAuth
  sends : ∀ sent, .send sent ∈ result.2 → ¬ IsRPTK sent ∧ ¬ IsRPTC sent

theorem restarts_reconnect (cfg : ClientConfig) (c : Client) (dialed : Bool) : Restarts c (reconnect cfg c dialed) := by
  refine ⟨by simp [reconnect, Client.PastAuth], fun sent sends => sendLogin_kind cfg ?_⟩
  cases dialed <;> simpa [reconnect, sendLogin] using sends

theorem restarts_startPing (i : Nat) : Restarts c (c.startPing cfg i now) := by
  simp only [startPing]
  split
  · refine ⟨id, fun sent sends => sendPing_kind cfg (mem_singleton.mp sends)⟩
  · exact ⟨id, by simp⟩

theorem restarts_tickPing (i : Nat) (dialed : Bool) : Restarts c (c.tickPing cfg i now dialed) := by
  simp only [tickPing]
  split
  · split
    · have restarted := restarts_reconnect cfg { c with pings := c.pings.eraseIdx i } dialed
      exact ⟨restarted.pastAuth, fun sent sends => restarted.sends sent (by simpa using sends)⟩
    · exact ⟨id, fun sent sends => sendPing_kind cfg (mem_singleton.mp sends)⟩
  · exact ⟨id, by simp⟩

theorem restarts_tickWatchdog (dialed : Bool) : Restarts c (c.tickWatchdog cfg dialed) := by
  simp only [tickWatchdog]
  split
  · exact ⟨id, by simp⟩
  · split
    · exact ⟨id, by simp⟩
    · have restarted := restarts_reconnect cfg c dialed
      exact ⟨restarted.pastAuth, fun sent sends => restarted.sends sent (by simpa using sends)⟩

end Client

section Log

variable {site : Site} {log added : List Entry}

theorem Authenticated.append (authenticated : Authenticated site log) (added : List Entry) :
    Authenticated site (log ++ added) := by
  obtain ⟨challenge, issuedTo, sentAt, acceptedFrom, length, listed⟩ := authenticated
  exact ⟨challenge, issuedTo, sentAt, acceptedFrom, length, listed.trans (sublist_append_left log added)⟩

def Entry.isAccepted : Entry → Bool
  | .accepted _ _ => true
  | _ => false

theorem Authenticated.accepted (authenticated : Authenticated site log) : log.any Entry.isAccepted = true := by
  obtain ⟨_, _, _, _, _, listed⟩ := authenticated
  exact any_eq_true.mpr ⟨_, listed.subset (mem_of_getLast? rfl), rfl⟩

def IsChallenge (data : Bytes) : Prop := ∃ challenge : Bytes, challenge.length = 4 ∧ data = rptAck ++ challenge

structure Explained (site : Site) (log : List Entry) : Prop where
  auth : ∀ dial data, .queued dial data ∈ log → IsRPTK data → ∃ challenge issuedTo,
    challenge.length = 4 ∧ data = rptk site challenge ∧
      [.replied (site.addr issuedTo) (rptAck ++ challenge), .queued dial data].Sublist log
  config : ∀ dial data, .queued dial data ∈ log → IsRPTC data → Authenticated site log
  ack : ∀ dial data, .replied (site.addr dial) data ∈ log → isRptAck data = true →
    IsChallenge data ∨ (data = rptAck ∧ Authenticated site log)

theorem Explained.append (explained : Explained site log)
    (auth : ∀ dial data, .queued dial data ∈ added → IsRPTK data → ∃ challenge issuedTo,
      challenge.length = 4 ∧ data = rptk site challenge ∧ .replied (site.addr issuedTo) (rptAck ++ challenge) ∈ log)
    (config : ∀ dial data, .queued dial data ∈ added → IsRPTC data → Authenticated site log)
    (ack : ∀ dial data, .replied (site.addr dial) data ∈ added → isRptAck data = true →
      IsChallenge data ∨ (data = rptAck ∧ Authenticated site (log ++ added))) :
    Explained site (log ++ added) := by
  refine ⟨fun dial data listed kind => ?_, fun dial data listed kind => ?_, fun dial data listed acks => ?_⟩
  · rcases mem_append.mp listed with old | new
    · obtain ⟨challenge, issuedTo, length, same, order⟩ := explained.auth dial data old kind
      exact ⟨challenge, issuedTo, length, same, order.trans (sublist_append_left log added)⟩
    · obtain ⟨challenge, issuedTo, length, same, issued⟩ := auth dial data new kind
      refine ⟨challenge, issuedTo, length, same, ?_⟩
      exact (singleton_sublist.mpr issued).append (singleton_sublist.mpr new)
  · rcases mem_append.mp listed with old | new
    · exact (explained.config dial data old kind).append added
    · exact (config dial data new kind).append added
  · rcases mem_append.mp listed with old | new
    · exact (explained.ack dial data old acks).imp_right (And.imp_right fun auth => auth.append added)
    · exact ack dial data new acks

theorem Explained.accept (explained : Explained site log) {sentAt dial : Nat} {data : Bytes}
    (sent : .queued sentAt data ∈ log) (kind : IsRPTK data) :
    Authenticated site (log ++ [.accepted (site.addr dial) data]) := by
  obtain ⟨challenge, issuedTo, length, rfl, order⟩ := explained.auth sentAt data sent kind
  exact ⟨challenge, issuedTo, sentAt, dial, length, order.append (List.Sublist.refl _)⟩

end Log

structure Exchange.Sound (site : Site) (s : Exchange) : Prop where
  explained : Explained site s.log
  pastAuth : s.client.PastAuth → Authenticated site s.log

section Steps

variable {site : Site} {s : Exchange} {data : Bytes} {dial : Nat} {effects : List ClientEffect}
  {addr : UDPAddr} {result : Client × List ClientEffect} {event : ServerEvent}

theorem mem_queuedBy {at' : Nat} (listed : .queued at' data ∈ queuedBy dial effects) : .send data ∈ effects := by
  obtain ⟨effect, member, shown⟩ := mem_filterMap.mp listed
  split at shown
  · cases shown
    exact member
  · cases shown

theorem replied_notMem_queuedBy : .replied addr data ∉ queuedBy dial effects := by
  intro listed
  obtain ⟨effect, _, shown⟩ := mem_filterMap.mp listed
  split at shown <;> cases shown

theorem Exchange.Sound.afterClient (sound : s.Sound site)
    (auth : ∀ data, .send data ∈ result.2 → IsRPTK data → ∃ challenge issuedTo, challenge.length = 4 ∧
      data = rptk site challenge ∧ .replied (site.addr issuedTo) (rptAck ++ challenge) ∈ s.log)
    (config : ∀ data, .send data ∈ result.2 → IsRPTC data → Authenticated site s.log)
    (pastAuth : result.1.PastAuth → Authenticated site s.log) : (s.afterClient result).Sound site := by
  refine ⟨sound.explained.append ?_ ?_ ?_, fun past => (pastAuth past).append _⟩
  · intro dial data listed kind
    exact auth data (mem_queuedBy listed) kind
  · intro dial data listed kind
    exact config data (mem_queuedBy listed) kind
  · intro dial data listed
    exact absurd listed replied_notMem_queuedBy

theorem Exchange.Sound.restarts (sound : s.Sound site) (restarts : Restarts s.client result) :
    (s.afterClient result).Sound site := by
  refine sound.afterClient ?_ ?_ fun past => sound.pastAuth (restarts.pastAuth past)
  · intro data sends kind
    exact absurd kind (restarts.sends data sends).1
  · intro data sends kind
    exact absurd kind (restarts.sends data sends).2

theorem challenge_length {challenge : Bytes} (length : challenge.length = 4) : (rptAck ++ challenge).length = 10 := by
  have bare : rptAck.length = 6 := by decide
  rw [length_append, bare, length]

theorem Exchange.Sound.receive (sound : s.Sound site) {now : Time} (sent : .replied (site.addr dial) data ∈ s.log)
    (expected : s.client.state = .sentAuth → isRptAck data = true → data.length = 6) :
    (s.afterClient (s.client.handler site.client site.sha256 data now)).Sound site := by
  have configured (configures : s.client.Configures data) : Authenticated site s.log := by
    rcases configures with sentRPTC | ready | ⟨sentAuth, acks⟩
    · exact sound.pastAuth (.inl sentRPTC)
    · exact sound.pastAuth (.inr ready)
    · have bare := expected sentAuth acks
      rcases sound.explained.ack dial data sent acks with ⟨challenge, length, rfl⟩ | ⟨_, authenticated⟩
      · rw [challenge_length length] at bare
        cases bare
      · exact authenticated
  refine sound.afterClient ?_ ?_ fun past => configured (handler_pastAuth past)
  · intro packet sends kind
    obtain ⟨acks, long, computed⟩ := (handler_sends sends).1 kind
    rcases sound.explained.ack dial data sent acks with ⟨challenge, length, rfl⟩ | ⟨rfl, _⟩
    · refine ⟨challenge, dial, length, ?_, sent⟩
      have random : (rptAck ++ challenge).drop ((rptAck ++ challenge).length - 4) = challenge := by
        rw [length_append, length, Nat.add_sub_cancel, drop_left]
      rw [random] at computed
      exact send.inj computed
    · exact absurd long (by decide)
  · intro packet sends kind
    exact configured ((handler_sends sends).2 kind)

theorem mem_repliedBy {effects : List Effect} :
    .replied addr data ∈ repliedBy effects ↔ .sendRaw addr data ∈ effects := by
  simp only [repliedBy, mem_filterMap]
  constructor
  · intro listed
    obtain ⟨effect, member, shown⟩ := listed
    split at shown
    · cases shown
      exact member
    · cases shown
  · intro member
    exact ⟨_, member, rfl⟩

theorem queued_notMem_repliedBy {effects : List Effect} : .queued dial data ∉ repliedBy effects := by
  intro listed
  obtain ⟨effect, _, shown⟩ := mem_filterMap.mp listed
  split at shown <;> cases shown

theorem mem_acceptedBy {sessions : Sessions} {entry : Entry} (listed : entry ∈ acceptedBy site sessions event) :
    ∃ addr data, entry = .accepted addr data := by
  simp only [acceptedBy] at listed
  split at listed
  · exact ⟨_, _, mem_singleton.mp listed⟩
  · cases listed

theorem Exchange.Sound.afterServer (sound : s.Sound site)
    (ack : ∀ dial data, .sendRaw (site.addr dial) data ∈ (s.server.handle site.server site.sha256 event).2 →
      isRptAck data = true → IsChallenge data ∨ (data = rptAck ∧ Authenticated site (s.log ++ acceptedBy site s.server.sessions event))) :
    (s.afterServer site event).Sound site := by
  have unqueued (dial : Nat) (data : Bytes) : .queued dial data ∉ acceptedBy site s.server.sessions event ++
        repliedBy (s.server.handle site.server site.sha256 event).2 := by
    intro listed
    rcases mem_append.mp listed with accepted | replied
    · obtain ⟨_, _, same⟩ := mem_acceptedBy accepted
      cases same
    · exact queued_notMem_repliedBy replied
  refine ⟨sound.explained.append ?_ ?_ ?_, fun past => (sound.pastAuth past).append _⟩
  · intro dial data listed
    exact absurd listed (unqueued dial data)
  · intro dial data listed
    exact absurd listed (unqueued dial data)
  · intro dial data listed acks
    rcases mem_append.mp listed with accepted | replied
    · obtain ⟨_, _, same⟩ := mem_acceptedBy accepted
      cases same
    · refine (ack dial data (mem_repliedBy.mp replied) acks).imp_right (And.imp_right fun auth => ?_)
      rw [← append_assoc]
      exact auth.append _

theorem Exchange.Sound.deliver (sound : s.Sound site) {sentAt : Nat} {env : Env} (sent : .queued sentAt data ∈ s.log) :
    (s.afterServer site (.datagram (site.addr dial) data env)).Sound site := by
  refine sound.afterServer fun to' reply replied acks => ?_
  obtain ⟨_, answer⟩ := (serverStep_handlePacket site.server site.sha256).answers (site.addr to') reply replied
  refine (answer acks).imp_right (And.imp_right fun accepted => ?_)
  rcases accepted with authenticates | configures
  · obtain ⟨sess, passed⟩ := Option.isSome_iff_exists.mp authenticates
    have kind : IsRPTK data := by
      simp only [acceptedAuth] at passed
      split at passed
      · rename_i shape
        exact shape.1
      · cases passed
    simp only [acceptedBy, passed]
    exact sound.explained.accept sent kind
  · exact (sound.explained.config sentAt data sent configures).append _

theorem Exchange.Sound.deliverOther (sound : s.Sound site) {env : Env} (other : site.isClient addr = false) :
    (s.afterServer site (.datagram addr data env)).Sound site := by
  refine sound.afterServer fun dial reply replied => ?_
  have same := ((serverStep_handlePacket site.server site.sha256).answers (site.addr dial) reply replied).1
  rw [← same, site.addr_isClient dial] at other
  cases other

theorem Exchange.Sound.silent (sound : s.Sound site)
    (silent : ∀ addr data, .sendRaw addr data ∉ (s.server.handle site.server site.sha256 event).2) :
    (s.afterServer site event).Sound site :=
  sound.afterServer fun _ reply replied => absurd replied (silent _ reply)

theorem encode_kind (pkt : Packet) (signature : pkt.signature = ascii "DMRD") :
    ¬ IsRPTK pkt.encode ∧ ¬ IsRPTC pkt.encode := by
  simp [Packet.encode, signature, IsRPTK, IsRPTC, ascii]

theorem Exchange.Sound.step (sound : s.Sound site) {event : ExchangeEvent}
    (expected : s.ChallengeExpected event) : (s.step site event).Sound site := by
  cases event with
  | toClient entry dial now =>
    simp only [Exchange.step]
    split
    · rename_i addr data found
      split
      · rename_i current
        refine sound.receive (current.2 ▸ mem_of_getElem? found) fun sentAuth acks => ?_
        simpa [ExchangeEvent.deliveredToClient, found, Entry.isChallenge, acks] using expected sentAuth
      · exact sound
    · exact sound
  | toServer entry dial env =>
    simp only [Exchange.step]
    split
    · rename_i sentAt data found
      split
      · exact sound.deliver (mem_of_getElem? found)
      · exact sound
    · exact sound
  | otherToServer addr data env =>
    simp only [Exchange.step]
    split
    · exact sound
    · rename_i other
      exact sound.deliverOther (Bool.eq_false_iff.mpr other)
  | sendPacket pkt =>
    simp only [Exchange.step]
    split
    · rename_i signature
      obtain ⟨notRPTK, notRPTC⟩ := encode_kind { pkt with repeater := site.client.id.toUInt64 } signature
      refine ⟨sound.explained.append ?_ ?_ (by simp), fun past => (sound.pastAuth past).append _⟩
      · intro dial data listed kind
        cases mem_singleton.mp listed
        exact absurd kind notRPTK
      · intro dial data listed kind
        cases mem_singleton.mp listed
        exact absurd kind notRPTC
    · exact sound
  | startPing i now => exact sound.restarts (restarts_startPing i)
  | tickPing i now dialed => exact sound.restarts (restarts_tickPing i dialed)
  | tickWatchdog dialed => exact sound.restarts (restarts_tickWatchdog dialed)
  | tick now order =>
    refine sound.silent ?_
    simp only [Server.handle]
    split <;> simp
  | expire =>
    refine sound.silent ?_
    simp only [Server.handle, setOffline]
    split
    · simp
    · split <;> simp

end Steps

theorem sound_start (site : Site) : (Exchange.start site).Sound site := by
  have login (dial : Nat) (data : Bytes) (listed : .queued dial data ∈ (Exchange.start site).log) :
      ¬ IsRPTK data ∧ ¬ IsRPTC data :=
    sendLogin_kind site.client (mem_singleton.mp (mem_queuedBy listed))
  refine ⟨⟨?_, ?_, ?_⟩, ?_⟩
  · intro dial data listed kind
    exact absurd kind (login dial data listed).1
  · intro dial data listed kind
    exact absurd kind (login dial data listed).2
  · intro dial data listed
    exact absurd listed replied_notMem_queuedBy
  · intro past
    rcases past with past | past <;> cases past

/-- However the network loses, repeats, delays and reorders datagrams and whatever
other hosts send, a client that is ready has been authenticated, if no challenge is
delivered to it while it waits for the answer to its RPTK. -/
theorem ready_client_authenticated (site : Site) (events : List ExchangeEvent)
    (expected : EachStep (Exchange.step site) Exchange.ChallengeExpected (.start site) events) :
    EachState (Exchange.step site) (Exchange.LoginAgreed site) (.start site) events := by
  have sound := expected.eachState (fun _ _ sound => Exchange.Sound.step sound) (sound_start site)
  exact sound.mono fun _ sound ready => sound.pastAuth (.inr ready)

private def oneHotspot : Site where
  client :=
    { id := 5, password := ascii "secret", callsign := "N0CALL", rxFreq := 438800000, txFreq := 431200000
      txPower := 1, colorCode := 1, latitude := ascii "00000000", longitude := ascii "000000000", height := 0
      location := "", description := "", url := "", slots := 0 }
  server := { name := "master", id := 9, password := ascii "secret" }
  sha256 := fun _ => .replicate 32 0
  addr := fun dial => { ip := "192.0.2.1", port := 40000 + dial }
  isClient := fun addr => addr.ip == "192.0.2.1"
  addr_isClient := fun _ => rfl

private def anyChallenge : Env :=
  { clock := fun _ => 1000, challenge := some (.replicate 4 7), order := .increasing String }

theorem ready_client_authenticated_plain_login :
    let events : List ExchangeEvent :=
      [.toServer 0 0 anyChallenge, .toClient 1 0 0, .toServer 2 0 anyChallenge, .toClient 4 0 0,
        .toServer 5 0 anyChallenge, .toClient 6 0 0]
    (runFrom (Exchange.step oneHotspot) (.start oneHotspot) events).client.state = .ready ∧
      EachState (Exchange.step oneHotspot) (Exchange.LoginAgreed oneHotspot) (.start oneHotspot) events :=
  ⟨by decide +kernel, ready_client_authenticated _ _ (by decide +kernel)⟩

/-- The server answers the login of the client with one challenge and the network
delivers it three times.  The client takes the copies for the answers to its RPTK
and its RPTC, neither of which reaches the server. -/
theorem repeated_challenge_makes_client_ready :
    ¬ EachState (Exchange.step oneHotspot) (Exchange.LoginAgreed oneHotspot) (.start oneHotspot)
      [.toServer 0 0 anyChallenge, .toClient 1 0 0, .toClient 1 0 0, .toClient 1 0 0] := by
  intro agreed
  have accepted := (agreed.2.2.2.2 (by decide +kernel)).accepted
  exact absurd accepted (by decide +kernel)

end Ipsc2Mmdvm.Mmdvm
