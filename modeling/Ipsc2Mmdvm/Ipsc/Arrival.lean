import Ipsc2Mmdvm.Data.Transitions
import Ipsc2Mmdvm.Ipsc.Server

namespace Ipsc2Mmdvm.Ipsc

open Data Proto List Option ServerConfig

/-! The reader starts one goroutine for each datagram.  It waits for the lock of the address it came
from, handles the packet under it and, for a user packet, starts a second goroutine that calls the
burst handler. -/

section Sorted

variable {α : Type} {before : α → α → Prop} {all done : List α} {next : α}

end Sorted

inductive Phase where
  | waiting
  | locked
  | handled
  | finished
deriving DecidableEq

inductive BurstCall where
  | notStarted
  | runnable (packetType : UInt8) (data : Bytes)
  | called
deriving DecidableEq

structure Goroutine where
  addr : UDPAddr
  data : Bytes
  phase : Phase := .waiting
  burst : BurstCall := .notStarted

structure Invocation where
  number : Nat
  packetType : UInt8
  data : Bytes
  addr : UDPAddr
deriving DecidableEq

structure Runtime where
  peers : Peers := ∅
  goroutines : List Goroutine := []
  handed : List Invocation := []

inductive Schedule where
  | receive (addr : UDPAddr) (data : Bytes)
  | lock (number : Nat)
  | handle (number : Nat) (env : PacketEnv)
  | unlock (number : Nat)
  | callBurstHandler (number : Nat)

def startedBurst (effects : List Effect) : BurstCall :=
  match effects.findSome? fun
      | .goBurstHandler packetType data _ => some (packetType, data)
      | _ => none with
  | some (packetType, data) => .runnable packetType data
  | none => .notStarted

namespace Runtime

def lockFree (s : Runtime) (addr : UDPAddr) : Bool :=
  s.goroutines.all fun g => g.addr.string != addr.string || (g.phase != .locked && g.phase != .handled)

def update (s : Runtime) (number : Nat) (f : Goroutine → Goroutine) : Runtime :=
  { s with goroutines := s.goroutines.modify number f }

def step (cfg : ServerConfig) (s : Runtime) : Schedule → Runtime
  | .receive addr data => { s with goroutines := s.goroutines ++ [{ addr, data }] }
  | .lock number =>
    match s.goroutines[number]? with
    | some g =>
      if g.phase = .waiting ∧ s.lockFree g.addr = true then s.update number ({ · with phase := .locked })
      else s
    | none => s
  | .handle number env =>
    match s.goroutines[number]? with
    | some g =>
      if g.phase = .locked then
        match handlePacket cfg env s.peers g.addr g.data with
        | .error _ => s.update number ({ · with phase := .handled })
        | .ok (peers, effects) =>
          { s.update number ({ · with phase := .handled, burst := startedBurst effects }) with peers }
      else s
    | none => s
  | .unlock number =>
    match s.goroutines[number]? with
    | some g => if g.phase = .handled then s.update number ({ · with phase := .finished }) else s
    | none => s
  | .callBurstHandler number =>
    match s.goroutines[number]? with
    | some g =>
      match g.burst with
      | .runnable packetType data =>
        { s.update number ({ · with burst := .called }) with
          handed := s.handed ++ [⟨number, packetType, data, g.addr⟩] }
      | _ => s
    | none => s

end Runtime

def userPacket (cfg : ServerConfig) (data : Bytes) : Option (UInt8 × Bytes) :=
  match data, stripAuth cfg data with
  | packetType :: _, .ok stripped =>
    if (PacketType.ofByte packetType).any PacketType.isUser = true ∧ 5 ≤ stripped.length then some (packetType, stripped) else none
  | _, _ => none

def burstOf (packet : Option (UInt8 × Bytes)) : BurstCall :=
  match packet with
  | some (packetType, data) => .runnable packetType data
  | none => .notStarted

theorem burstOf_ne_called (packet : Option (UInt8 × Bytes)) : burstOf packet ≠ .called := by
  cases packet <;> exact BurstCall.noConfusion

def burstAfter : Handled → BurstCall
  | .ok (_, effects) => startedBurst effects
  | .error _ => .notStarted

section Handling

variable (cfg : ServerConfig) (env : PacketEnv) (peers : Peers) (addr : UDPAddr)

theorem dispatch_burst (packetType : UInt8) (kind : Option PacketType) (data : Bytes) :
    burstAfter (dispatch cfg env peers addr packetType kind data) =
      burstOf (if kind.any PacketType.isUser = true ∧ 5 ≤ data.length then some (packetType, data) else none) := by
  by_cases short : data.length < 5
  · have parsed : parsePeerID data = .error .tooShortForPeerID := if_pos short
    have none : ¬ (kind.any PacketType.isUser = true ∧ 5 ≤ data.length) := by omega
    rw [if_neg none]
    rcases kind with _ | kind
    · rfl
    · cases kind <;> simp only [dispatch, handleUserPacket, handleRepeaterWakeUp,
        handleMasterRegisterRequest, handleMasterAliveRequest, handlePeerListRequest, parsed] <;> rfl
  · have parsed : parsePeerID data = .ok (uint32At data 1) := if_neg short
    have long : 5 ≤ data.length := by omega
    rcases kind with _ | kind
    · rfl
    · cases kind <;> simp only [dispatch, handleUserPacket, handleRepeaterWakeUp,
        handleMasterRegisterRequest, handleMasterAliveRequest, handlePeerListRequest, parsed, long,
        any_some, PacketType.isUser, and_true, if_true, Bool.false_eq_true, if_false] <;> rfl

theorem handlePacket_burst (data : Bytes) :
    burstAfter (handlePacket cfg env peers addr data) = burstOf (userPacket cfg data) := by
  cases data with
  | nil => rfl
  | cons packetType rest =>
    simp only [handlePacket, userPacket]
    cases stripAuth cfg (packetType :: rest) with
    | error reason => rfl
    | ok stripped => exact dispatch_burst cfg env peers addr packetType _ stripped

end Handling

def Goroutine.invocation (cfg : ServerConfig) (g : Goroutine) (number : Nat) : Option Invocation :=
  (userPacket cfg g.data).map fun (packetType, data) => ⟨number, packetType, data, g.addr⟩

def Goroutine.quiet (g : Goroutine) : Bool :=
  g.phase == .finished && (g.burst == .notStarted || g.burst == .called)

namespace Runtime

def accepted (cfg : ServerConfig) (s : Runtime) : List Invocation :=
  (List.range s.goroutines.length).filterMap fun number =>
    s.goroutines[number]?.bind fun g => g.invocation cfg number

section Accepted

variable {cfg : ServerConfig} {s : Runtime} {invocation : Invocation} {number : Nat}

theorem invocation_number {g : Goroutine} (accepted : g.invocation cfg number = some invocation) :
    invocation.number = number := by
  simp only [Goroutine.invocation, map_eq_some_iff] at accepted
  obtain ⟨_, _, rfl⟩ := accepted
  rfl

theorem mem_accepted : invocation ∈ s.accepted cfg ↔ ∃ g, s.goroutines[invocation.number]? = some g ∧
      g.invocation cfg invocation.number = some invocation := by
  simp only [accepted, mem_filterMap, mem_range, bind_eq_some_iff]
  constructor
  · intro listed
    obtain ⟨number, _, g, found, accepted⟩ := listed
    have same := invocation_number accepted
    exact ⟨g, same ▸ found, same ▸ accepted⟩
  · intro listed
    obtain ⟨g, found, accepted⟩ := listed
    exact ⟨invocation.number, (List.getElem?_eq_some_iff.mp found).1, g, found, accepted⟩

theorem accepted_update {f : Goroutine → Goroutine} (same : ∀ g, (f g).addr = g.addr ∧ (f g).data = g.data) :
    (s.update number f).accepted cfg = s.accepted cfg := by
  simp only [accepted, update, length_modify]
  apply filterMap_congr
  intro other _
  rw [getElem?_modify]
  cases s.goroutines[other]? with
  | none => rfl
  | some g => split <;> simp [Goroutine.invocation, same]

theorem accepted_receive {addr : UDPAddr} {data : Bytes} :
    s.accepted cfg <+: (s.step cfg (.receive addr data)).accepted cfg := by
  simp only [accepted, step, length_append, length_singleton, range_succ, filterMap_append]
  refine ⟨_, congrArg (· ++ _) (filterMap_congr ?_)⟩
  intro other known
  rw [getElem?_append_left (mem_range.mp known)]

end Accepted

end Runtime

def Goroutine.Consistent (cfg : ServerConfig) (g : Goroutine) : Prop :=
  match g.phase with
  | .waiting | .locked => g.burst = .notStarted
  | .handled | .finished =>
    g.burst = burstOf (userPacket cfg g.data) ∨ (g.burst = .called ∧ (userPacket cfg g.data).isSome = true)

namespace Runtime

structure Tracks (cfg : ServerConfig) (s : Runtime) : Prop where
  consistent : ∀ g ∈ s.goroutines, g.Consistent cfg
  called : ∀ number g, s.goroutines[number]? = some g →
    (g.burst = .called ↔ number ∈ s.handed.map Invocation.number)
  accepted : ∀ invocation ∈ s.handed, invocation ∈ s.accepted cfg

section Steps

variable {cfg : ServerConfig} {s : Runtime} {number : Nat} {g : Goroutine} {f : Goroutine → Goroutine}
  {packetType : UInt8} {data : Bytes} {invocation : Invocation}

theorem getElem?_update (other : Nat) : (s.update number f).goroutines[other]? =
      if number = other then s.goroutines[other]?.map f else s.goroutines[other]? := by
  rw [update, getElem?_modify]
  split <;> simp

theorem consistent_update (consistent : ∀ g ∈ s.goroutines, g.Consistent cfg)
    (found : s.goroutines[number]? = some g) (updated : (f g).Consistent cfg) :
    ∀ g' ∈ (s.update number f).goroutines, g'.Consistent cfg := by
  intro g' member
  obtain ⟨other, at'⟩ := mem_iff_getElem?.mp member
  rw [getElem?_update] at at'
  split at at'
  · rename_i own
    subst own
    rw [found] at at'
    cases at'
    exact updated
  · exact consistent g' (mem_of_getElem? at')

section

variable (tracks : s.Tracks cfg)

include tracks

theorem Tracks.update (found : s.goroutines[number]? = some g)
    (same : ∀ g, (f g).addr = g.addr ∧ (f g).data = g.data) (consistent : (f g).Consistent cfg)
    (called : (f g).burst = .called ↔ g.burst = .called) : Tracks cfg (s.update number f) := by
  refine ⟨consistent_update tracks.consistent found consistent, ?_, ?_⟩
  · intro other g' at'
    rw [getElem?_update] at at'
    split at at'
    · rename_i own
      subst own
      rw [found] at at'
      cases at'
      exact called.trans (tracks.called _ _ found)
    · exact tracks.called other g' at'
  · intro invocation handed
    exact (accepted_update same).symm ▸ tracks.accepted invocation handed

theorem Tracks.withPeers (peers : Peers) : Tracks cfg { s with peers } :=
  ⟨tracks.consistent, tracks.called, tracks.accepted⟩

theorem Tracks.number_lt (handed : number ∈ s.handed.map Invocation.number) : number < s.goroutines.length := by
  obtain ⟨invocation, listed, rfl⟩ := mem_map.mp handed
  obtain ⟨g, found, _⟩ := mem_accepted.mp (tracks.accepted invocation listed)
  exact (List.getElem?_eq_some_iff.mp found).1

theorem Tracks.receive (addr : UDPAddr) (data : Bytes) : Tracks cfg (s.step cfg (.receive addr data)) := by
  refine ⟨?_, ?_, ?_⟩
  · intro g member
    rcases mem_append.mp member with old | new
    · exact tracks.consistent g old
    · cases mem_singleton.mp new
      exact rfl
  · intro number g found
    by_cases known : number < s.goroutines.length
    · rw [step, getElem?_append_left known] at found
      exact tracks.called number g found
    · have started : g.burst = .notStarted := by
        rw [step, getElem?_append_right (Nat.le_of_not_lt known)] at found
        cases mem_singleton.mp (mem_of_getElem? found)
        rfl
      have unhanded : number ∉ s.handed.map Invocation.number := fun handed =>
        known (tracks.number_lt handed)
      exact iff_of_false (by simp [started]) unhanded
  · intro invocation handed
    exact accepted_receive.subset (tracks.accepted invocation handed)

theorem Tracks.lock (number : Nat) : Tracks cfg (s.step cfg (.lock number)) := by
  simp only [step]
  split
  · rename_i g found
    split
    · rename_i free
      have early := tracks.consistent g (mem_of_getElem? found)
      simp only [Goroutine.Consistent, free.1] at early
      refine tracks.update found (fun _ => ⟨rfl, rfl⟩) ?_ Iff.rfl
      exact early
    · exact tracks
  · exact tracks

theorem Tracks.handle (number : Nat) (env : PacketEnv) : Tracks cfg (s.step cfg (.handle number env)) := by
  simp only [step]
  split
  · rename_i g found
    split
    · rename_i locked
      have early := tracks.consistent g (mem_of_getElem? found)
      simp only [Goroutine.Consistent, locked] at early
      have started := handlePacket_burst cfg env s.peers g.addr g.data
      split
      · rename_i refused
        rw [refused] at started
        refine tracks.update found (fun _ => ⟨rfl, rfl⟩) ?_ Iff.rfl
        exact Or.inl (early.trans started)
      · rename_i peers effects accepted
        rw [accepted] at started
        have uncalled : startedBurst effects ≠ .called := fun called =>
          burstOf_ne_called _ (started.symm.trans called)
        apply Tracks.withPeers
        refine tracks.update found (fun _ => ⟨rfl, rfl⟩) (Or.inl started) ?_
        exact iff_of_false uncalled (by simp [early])
    · exact tracks
  · exact tracks

theorem Tracks.unlock (number : Nat) : Tracks cfg (s.step cfg (.unlock number)) := by
  simp only [step]
  split
  · rename_i g found
    split
    · rename_i handled
      have late := tracks.consistent g (mem_of_getElem? found)
      simp only [Goroutine.Consistent, handled] at late
      refine tracks.update found (fun _ => ⟨rfl, rfl⟩) ?_ Iff.rfl
      exact late
    · exact tracks
  · exact tracks

theorem Tracks.runnable (found : s.goroutines[number]? = some g) (runnable : g.burst = .runnable packetType data) :
    userPacket cfg g.data = some (packetType, data) := by
  have consistent := tracks.consistent g (mem_of_getElem? found)
  simp only [Goroutine.Consistent, runnable] at consistent
  split at consistent
  · cases consistent
  · cases consistent
  all_goals
    obtain started | called := consistent
    · cases packet : userPacket cfg g.data with
      | none => simp [packet, burstOf] at started
      | some pair =>
        simp only [packet, burstOf, BurstCall.runnable.injEq] at started
        rw [started.1, started.2]
    · cases called.1

end

theorem step_callBurstHandler (found : s.goroutines[number]? = some g) (runnable : g.burst = .runnable packetType data) :
    s.step cfg (.callBurstHandler number) =
      { s.update number ({ · with burst := .called }) with
        handed := s.handed ++ [⟨number, packetType, data, g.addr⟩] } := by
  simp only [step, found, runnable]

section

variable (tracks : s.Tracks cfg)
  (found : s.goroutines[number]? = some g)
  (runnable : g.burst = .runnable packetType data)

include tracks found runnable

theorem Tracks.listed : ⟨number, packetType, data, g.addr⟩ ∈ s.accepted cfg := by
  refine mem_accepted.mpr ⟨g, found, ?_⟩
  rw [Goroutine.invocation, tracks.runnable found runnable]
  rfl

theorem Tracks.consistent_called : ({ g with burst := .called } : Goroutine).Consistent cfg := by
  have consistent := tracks.consistent g (mem_of_getElem? found)
  have packet := tracks.runnable found runnable
  simp only [Goroutine.Consistent, runnable] at consistent ⊢
  cases phase : g.phase <;> simp only [phase] at consistent ⊢
  · cases consistent
  · cases consistent
  all_goals simp [packet]

theorem Tracks.call : Tracks cfg (s.step cfg (.callBurstHandler number)) := by
  rw [step_callBurstHandler found runnable]
  refine ⟨consistent_update tracks.consistent found (tracks.consistent_called found runnable), ?_, ?_⟩
  · intro other g' at'
    have at' := (getElem?_update other).symm.trans at'
    split at at'
    · rename_i own
      rw [← own, found] at at'
      cases at'
      simp [own]
    · rename_i differs
      have old := tracks.called other g' at'
      simpa [Ne.symm differs] using old
  · intro invocation handed
    have same : (s.update number ({ · with burst := .called })).accepted cfg = s.accepted cfg :=
      accepted_update fun _ => ⟨rfl, rfl⟩
    rcases mem_append.mp handed with old | new
    · exact same ▸ tracks.accepted invocation old
    · cases mem_singleton.mp new
      exact same ▸ tracks.listed found runnable

end

theorem Tracks.step (tracks : s.Tracks cfg) (event : Schedule) : Tracks cfg (s.step cfg event) := by
  cases event with
  | receive addr data => exact tracks.receive addr data
  | lock number => exact tracks.lock number
  | handle number env => exact tracks.handle number env
  | unlock number => exact tracks.unlock number
  | callBurstHandler number =>
    cases found : s.goroutines[number]? with
    | none => simpa only [Runtime.step, found] using tracks
    | some g =>
      cases burst : g.burst with
      | notStarted | called => simpa only [Runtime.step, found, burst] using tracks
      | runnable packetType data => exact tracks.call found burst

section

variable (tracks : s.Tracks cfg)
  (found : s.goroutines[number]? = some g)
  (runnable : g.burst = .runnable packetType data)

include tracks found runnable

end

end Steps

theorem tracks_empty (cfg : ServerConfig) : Tracks cfg {} := ⟨by simp, by simp, by simp⟩

private def repeater : UDPAddr := ⟨"10.0.0.1", 50000, ""⟩

def received (s : Runtime) : List (UDPAddr × Bytes) := s.goroutines.map fun g => (g.addr, g.data)

section

variable {cfg : ServerConfig} {env : PacketEnv} {peers peers' : Peers} {addr : UDPAddr} {data stripped : Bytes}
  {effects : List Effect} {id : UInt32} {peer : Peer} {s : Runtime}

theorem sealed_of_stripAuth (passed : stripAuth cfg data = .ok stripped) : data = cfg.sealed stripped := by
  cases enabled : cfg.authEnabled with
  | false => simpa [stripAuth, sealed, enabled] using passed
  | true =>
    simp only [stripAuth, enabled, if_true] at passed
    split_ifs at passed with short refused
    cases passed
    have tag : data.drop (data.length - 10) = (cfg.hmac (data.take (data.length - 10))).toList.take 10 := by
      simpa [auth] using refused
    simp [sealed, enabled, ← tag]

theorem peers_dispatch {packetType : UInt8} {kind : Option PacketType}
    (handled : dispatch cfg env peers addr packetType kind data = .ok (peers', effects))
    (found : peers'.lookup id = some peer) :
    peers.lookup id = some peer ∨ uint32At data 1 = id ∧ peer.addr = some addr := by
  rcases kind with _ | kind
  · cases handled
  · cases parsed : parsePeerID data <;> cases kind <;> simp only [dispatch, handleUserPacket, handleRepeaterWakeUp,
      handleMasterRegisterRequest, handleMasterAliveRequest, handlePeerListRequest, parsed] at handled <;> cases handled
    all_goals grind [parsePeerID, markPeerAlive, upsertPeer, GoMap.lookup_insert_eq_some]

theorem peers_handlePacket (handled : handlePacket cfg env peers addr data = .ok (peers', effects))
    (found : peers'.lookup id = some peer) :
    peers.lookup id = some peer ∨
      ∃ stripped, data = cfg.sealed stripped ∧ uint32At stripped 1 = id ∧ peer.addr = some addr := by
  cases data with
  | nil => cases handled
  | cons packetType rest =>
    simp only [handlePacket] at handled
    cases passed : stripAuth cfg (packetType :: rest) with
    | error reason =>
      rw [passed] at handled
      cases handled
    | ok stripped =>
      rw [passed] at handled
      exact (peers_dispatch handled found).imp_right fun own => ⟨stripped, sealed_of_stripAuth passed, own⟩

theorem received_update {number : Nat} {f : Goroutine → Goroutine} (same : ∀ g, (f g).addr = g.addr ∧ (f g).data = g.data) :
    (s.update number f).received = s.received := by
  refine ext_getElem? fun i => ?_
  simp only [received, update, getElem?_map, getElem?_modify]
  cases s.goroutines[i]? with
  | none => rfl
  | some g => split <;> simp [same]

theorem received_step (event : Schedule) : s.received ⊆ (s.step cfg event).received := by
  have kept {number : Nat} {f : Goroutine → Goroutine} (same : ∀ g, (f g).addr = g.addr ∧ (f g).data = g.data) :
      s.received ⊆ (s.update number f).received := by
    rw [received_update same]
    exact fun _ => id
  cases event <;> simp only [step] <;> (repeat' split)
  case receive => simp [received]
  all_goals first
    | exact fun _ => id
    | exact kept fun _ => ⟨rfl, rfl⟩

theorem peers_step {event : Schedule} (found : (s.step cfg event).peers.lookup id = some peer) :
    s.peers.lookup id = some peer ∨
      ∃ addr data, (addr, cfg.sealed data) ∈ s.received ∧ uint32At data 1 = id ∧ peer.addr = some addr := by
  cases event with
  | handle number env =>
    simp only [step] at found
    split at found
    · rename_i g waiting
      split at found
      · split at found
        · exact .inl found
        · rename_i handled
          refine (peers_handlePacket handled found).imp_right fun ⟨data, sent, own⟩ => ⟨g.addr, data, ?_, own⟩
          exact sent ▸ mem_map.mpr ⟨g, mem_of_getElem? waiting, rfl⟩
      · exact .inl found
    · exact .inl found
  | receive | lock | unlock | callBurstHandler => grind [step, update]

/-- Each peer in the table sent a sealed datagram with its ID, from its address. -/
def Vouched (cfg : ServerConfig) (s : Runtime) : Prop :=
  ∀ id peer, s.peers.lookup id = some peer →
    ∃ addr data, (addr, cfg.sealed data) ∈ s.received ∧ uint32At data 1 = id ∧ peer.addr = some addr

theorem Vouched.step (vouched : s.Vouched cfg) (event : Schedule) : (s.step cfg event).Vouched cfg := by
  intro id peer found
  obtain ⟨addr, data, sent, own⟩ := (peers_step found).elim (vouched id peer) fun own => own
  exact ⟨addr, data, received_step event sent, own⟩

theorem Tracks.sealed {call : Invocation} (tracks : s.Tracks cfg) (handed : call ∈ s.handed) :
    (call.addr, cfg.sealed call.data) ∈ s.received := by
  obtain ⟨g, found, accepted⟩ := mem_accepted.mp (tracks.accepted call handed)
  obtain ⟨⟨packetType, data⟩, packet, same⟩ := map_eq_some_iff.mp accepted
  have sent : g.data = cfg.sealed data := by
    simp only [userPacket] at packet
    split at packet
    · rename_i passed
      split_ifs at packet
      cases packet
      exact sealed_of_stripAuth passed
    · cases packet
  rw [congrArg Invocation.addr same.symm, congrArg Invocation.data same.symm, ← sent]
  exact mem_map.mpr ⟨g, mem_of_getElem? found, rfl⟩

/-- However the goroutines are scheduled, with authentication enabled only datagrams that are sealed
with the key count: for the table of peers, and for what the burst handler is called with. -/
theorem only_sealed_datagrams_count (cfg : ServerConfig) (schedule : List Schedule) :
    let s := runFrom (step cfg) {} schedule
    s.Vouched cfg ∧ ∀ call ∈ s.handed, (call.addr, cfg.sealed call.data) ∈ s.received := by
  have tracks : (runFrom (step cfg) {} schedule).Tracks cfg :=
    runFrom_induct (fun _ event tracks => tracks.step event) (tracks_empty cfg)
  refine ⟨runFrom_induct (fun _ event vouched => vouched.step event) ?_, fun _ => tracks.sealed⟩
  intro id peer found
  cases found

end

end Runtime

end Ipsc2Mmdvm.Ipsc
