import Ipsc2Mmdvm.Ipsc.Discipline

namespace Ipsc2Mmdvm.Ipsc

open Data Dmr Proto PtrMap Option

/-! A header whose link control is decoded settles the addresses of its call, unless its call
control still stands for a stream with others. -/

def callControlOf (data : Bytes) : UInt32 := uint32At (slice data 13 17) 0

def BoundTo (t : Translator) (callControl : UInt32) (src dst : UInt64) : Prop :=
  ∃ rss, t.reverseStreams.find callControl = some rss ∧ (t.reverseStreams.deref rss).src = src ∧
    (t.reverseStreams.deref rss).dst = dst

def KeepsAddresses (dmrgo : Dmrgo) (callControl : UInt32) (src dst : UInt64) : Translator → List Arrival → Prop
  | _, [] => True
  | t, a :: later => ∀ next pkts, t.translateToMMDVM dmrgo a.env a.packetType a.data = .ok (next, pkts) →
      (callControlOf a.data = callControl → ∀ p ∈ pkts, isVoice p = true → p.src = src ∧ p.dst = dst) ∧
        ((next.reverseStreams.find callControl).isSome = true → KeepsAddresses dmrgo callControl src dst next later)

/-- After the header its call control stands for a stream with these addresses, and whatever comes
later, the voice packets of the call have them. -/
def HeaderWins (dmrgo : Dmrgo) (env : ReverseEnv) (t : Translator) (packetType : UInt8) (data : Bytes)
    (src dst : UInt64) : Prop :=
  ∃ next pkts, t.translateToMMDVM dmrgo env packetType data = .ok (next, pkts) ∧
    BoundTo next (callControlOf data) src dst ∧
    ∀ later, (∀ a ∈ later, 31 ≤ a.data.length) → KeepsAddresses dmrgo (callControlOf data) src dst next later

def Dmrgo.GoInts (dmrgo : Dmrgo) : Prop :=
  ∀ bits dataType flc, dmrgo.decodeFromBits bits dataType = some flc →
    flc.sourceAddress < 2 ^ 63 ∧ flc.groupAddress < 2 ^ 63 ∧ flc.targetAddress < 2 ^ 63

section

variable {dmrgo : Dmrgo} {t : Translator} {r : Received} {env : ReverseEnv} {call : Call} {rss other : Ref}
  {data : Bytes} {result : Translator × List Packet} {found : Translator × Ref} {callControl : UInt32}
  {state : ReverseStreamState}

theorem Lookup.kept (lookup : Lookup r env t found) (bound : t.reverseStreams.find callControl = some rss) :
    found.1.reverseStreams.find callControl = some rss ∧ found.1.reverseStreams.deref rss = t.reverseStreams.deref rss := by
  have distinct : t.reverseStreams.find r.callControl = none → callControl ≠ r.callControl := by
    intro unbound same
    rw [same, unbound] at bound
    cases bound
  cases lookup with
  | known _ _ => exact ⟨bound, rfl⟩
  | byTuple _ other unbound present _ _ | byPeer _ other unbound present _ _ =>
    simp only [Translator.alias]
    rw [find_store (lt_next present), if_neg (distinct unbound), deref_store]
    exact ⟨bound, rfl⟩
  | created unbound =>
    simp only [Translator.create]
    rw [find_create, if_neg (distinct unbound), deref_store, deref_alloc, if_neg (lt_next bound).ne]
    exact ⟨bound, rfl⟩

theorem put_addresses (src : state.src = (t.reverseStreams.deref rss).src) (dst : state.dst = (t.reverseStreams.deref rss).dst)
    (other : Ref) :
    ((t.put rss state).reverseStreams.deref other).src = (t.reverseStreams.deref other).src ∧
      ((t.put rss state).reverseStreams.deref other).dst = (t.reverseStreams.deref other).dst := by
  rw [deref_put]
  split
  · rename_i same
    subst same
    exact ⟨src, dst⟩
  · exact ⟨rfl, rfl⟩

theorem deref_seen_addresses (other : Ref) :
    ((r.seen env t).reverseStreams.deref other).src = ((r.stream env t).1.reverseStreams.deref other).src ∧
      ((r.seen env t).reverseStreams.deref other).dst = ((r.stream env t).1.reverseStreams.deref other).dst := by
  simp only [Received.seen]
  apply put_addresses <;> rfl

section

variable (emission : Emission dmrgo t call rss data result)

include emission

theorem Emission.addresses (other : Ref) :
    (result.1.reverseStreams.deref other).src = (t.reverseStreams.deref other).src ∧
      (result.1.reverseStreams.deref other).dst = (t.reverseStreams.deref other).dst := by
  cases emission with
  | nothing => exact ⟨rfl, rfl⟩
  | _ => apply put_addresses <;> rfl

theorem Emission.find (present : result.1.reverseStreams.find callControl = some other) :
    t.reverseStreams.find callControl = some other := by
  cases emission with
  | terminator dmrData => exact (find_deleteWhere.mp present).1
  | _ => exact present

theorem Emission.packets : ∀ p ∈ result.2, p.src = call.src ∧ p.dst = call.dst := by
  cases emission with
  | nothing => simp
  | voice burst frames => simp [voicePacket, Translator.packet]
  | _ => simp [dataPacket, Translator.packet]

end

theorem call_within (src : state.src ≠ 0) (dst : state.dst ≠ 0) :
    (call.within state).src = state.src ∧ (call.within state).dst = state.dst := by
  simp [Call.within, src, dst]

end

section

variable {dmrgo : Dmrgo} {t : Translator} {a : Arrival} {result : Translator × List Packet} {rss : Ref}
  {callControl : UInt32} {src dst : UInt64}

theorem TranslateStep.kept (step : TranslateStep dmrgo a t result)
    (bound : t.reverseStreams.find callControl = some rss)
    (still : (result.1.reverseStreams.find callControl).isSome = true) :
    result.1.reverseStreams.find callControl = some rss ∧
      (result.1.reverseStreams.deref rss).src = (t.reverseStreams.deref rss).src ∧
      (result.1.reverseStreams.deref rss).dst = (t.reverseStreams.deref rss).dst := by
  cases step with
  | unsupported other => exact ⟨bound, rfl, rfl⟩
  | translated supported emission =>
    have kept := (lookup_stream (received dmrgo a.packetType a.data) a.env t).kept bound
    obtain ⟨other, present⟩ := isSome_iff_exists.mp still
    have before := emission.find present
    have same : other = rss := some.inj (before.symm.trans kept.1)
    have addresses := emission.addresses rss
    have seen := @deref_seen_addresses t (received dmrgo a.packetType a.data) a.env rss
    rw [kept.2] at seen
    exact ⟨same ▸ present, addresses.1.trans seen.1, addresses.2.trans seen.2⟩

theorem TranslateStep.packets (step : TranslateStep dmrgo a t result) (own : callControlOf a.data = callControl)
    (bound : BoundTo t callControl src dst) (sourced : src ≠ 0) (targeted : dst ≠ 0) :
    ∀ p ∈ result.2, p.src = src ∧ p.dst = dst := by
  obtain ⟨rss, bound, rfl, rfl⟩ := bound
  cases step with
  | unsupported other => simp
  | translated supported emission =>
    have lookup := lookup_stream (received dmrgo a.packetType a.data) a.env t
    have kept := lookup.kept bound
    have found : (received dmrgo a.packetType a.data).callControl = callControl := own
    have same : ((received dmrgo a.packetType a.data).stream a.env t).2 = rss := by
      have bound' := lookup.bound
      rw [found, kept.1] at bound'
      exact (some.inj bound').symm
    intro p member
    have carried := emission.packets p member
    simp only [Received.callWithin, same, kept.2] at carried
    have within := @call_within (received dmrgo a.packetType a.data).call _ sourced targeted
    exact ⟨carried.1.trans within.1, carried.2.trans within.2⟩

theorem keepsAddresses (sourced : src ≠ 0) (targeted : dst ≠ 0) (later : List Arrival)
    (long : ∀ a ∈ later, 31 ≤ a.data.length) (bound : BoundTo t callControl src dst) :
    KeepsAddresses dmrgo callControl src dst t later := by
  induction later generalizing t with
  | nil => trivial
  | cons a rest ih =>
    intro next pkts computed
    obtain ⟨result, computed', step⟩ := translateToMMDVM_step dmrgo a t (long a List.mem_cons_self)
    cases computed.symm.trans computed'
    refine ⟨fun own p member _ => step.packets own bound sourced targeted p member, fun still => ?_⟩
    obtain ⟨rss, present, hasSrc, hasDst⟩ := bound
    obtain ⟨present', src', dst'⟩ := step.kept present still
    exact ih (fun b member => long b (List.mem_cons_of_mem a member))
      ⟨rss, present', src'.trans hasSrc, dst'.trans hasDst⟩

end

theorem toUInt64_ne_zero {address : Int} (positive : 0 < address) (bound : address < 2 ^ 63) :
    address.toNat.toUInt64 ≠ 0 := by
  intro zero
  have value : address.toNat.toUInt64.toNat = address.toNat := UInt64.toNat_ofNat_of_lt' (by
    simp only [UInt64.size]
    omega)
  rw [zero] at value
  have : (0 : UInt64).toNat = 0 := rfl
  omega

theorem addresses_ne_zero {flc : FullLinkControl} {src dst : UInt64} (sourceBound : flc.sourceAddress < 2 ^ 63)
    (groupBound : flc.groupAddress < 2 ^ 63) (targetBound : flc.targetAddress < 2 ^ 63)
    (found : flc.addresses = some (src, dst)) : src ≠ 0 ∧ dst ≠ 0 := by
  simp only [FullLinkControl.addresses] at found
  split at found
  · cases found
  · rename_i sourced
    have source := toUInt64_ne_zero (Int.not_le.mp sourced) sourceBound
    split at found
    · split at found
      · cases found
      · rename_i grouped
        cases found
        exact ⟨source, toUInt64_ne_zero (Int.not_le.mp grouped) groupBound⟩
    · split at found
      · split at found
        · cases found
        · rename_i targeted
          cases found
          exact ⟨source, toUInt64_ne_zero (Int.not_le.mp targeted) targetBound⟩
      · cases found

theorem recovered_ne_zero {dmrgo : Dmrgo} {data : Bytes} {burstType : UInt8} {src dst : UInt64}
    (goInts : dmrgo.GoInts) (found : recoverAddressesFromFullLC dmrgo data burstType = .ok (some (src, dst))) :
    src ≠ 0 ∧ dst ≠ 0 := by
  simp only [recoverAddressesFromFullLC] at found
  split at found
  · cases found
  · split at found
    · cases found
    · rename_i dataType _
      cases read : checkedSlice data 38 50 with
      | error reason =>
        rw [read] at found
        cases found
      | ok lc =>
        rw [read] at found
        obtain ⟨flc, decoded, addresses⟩ := bind_eq_some_iff.mp (Except.ok.inj found)
        obtain ⟨sourceBound, groupBound, targetBound⟩ := goInts _ _ flc decoded
        exact addresses_ne_zero sourceBound groupBound targetBound addresses

section

variable {dmrgo : Dmrgo} {t : Translator} {call : Call} {rss : Ref} {isEnd : Bool} {data : Bytes}

theorem translateBurst_header : ∃ result, t.translateBurst dmrgo call rss ipscBurstVoiceHead isEnd data = .ok result ∧
      (∀ callControl, result.1.reverseStreams.find callControl = t.reverseStreams.find callControl) ∧
      ∀ other, (result.1.reverseStreams.deref other).src = (t.reverseStreams.deref other).src ∧
        (result.1.reverseStreams.deref other).dst = (t.reverseStreams.deref other).dst := by
  obtain ⟨result, computed, emission⟩ := @translateBurst_emission dmrgo t call data rss ipscBurstVoiceHead isEnd
  refine ⟨result, computed, ?_, emission.addresses⟩
  simp only [Translator.translateBurst, if_pos] at computed
  split at computed
  · cases computed
    exact fun _ => rfl
  · obtain ⟨dmrData, built⟩ :=
      @buildMMDVMDataPacket_eq dmrgo t call data (t.reverseStreams.deref rss) dataTypeVoiceLCHeader
    rw [built] at computed
    cases computed
    exact fun _ => rfl

end

theorem Lookup.addresses {r : Received} {env : ReverseEnv} {t : Translator} {found : Translator × Ref}
    (lookup : Lookup r env t found) (header : r.burstType = ipscBurstVoiceHead)
    (free : ∀ rss, t.reverseStreams.find r.callControl = some rss →
      (t.reverseStreams.deref rss).src = r.call.src ∧ (t.reverseStreams.deref rss).dst = r.call.dst) :
    (found.1.reverseStreams.deref found.2).src = r.call.src ∧ (found.1.reverseStreams.deref found.2).dst = r.call.dst := by
  cases lookup with
  | known rss bound => exact free rss bound
  | byTuple rss other unbound present src dst =>
    simp only [Translator.alias, deref_store]
    exact ⟨src, dst⟩
  | byPeer rss other unbound present untrusted notHeader => exact absurd header notHeader
  | created unbound => simp [Translator.create, Received.newState]

def Translator.FreeFor (t : Translator) (callControl : UInt32) (src dst : UInt64) : Prop :=
  ∀ rss, t.reverseStreams.find callControl = some rss →
    (t.reverseStreams.deref rss).src = src ∧ (t.reverseStreams.deref rss).dst = dst

section

variable {dmrgo : Dmrgo} {env : ReverseEnv} {t : Translator} {packetType : UInt8} {data : Bytes} {src dst : UInt64}

theorem translateToMMDVM_header (supported : isSupported packetType = true) (long : 50 ≤ data.length)
    (header : data.getD 30 0 = ipscBurstVoiceHead) :
    ∃ result, t.translateToMMDVM dmrgo env packetType data = .ok result ∧
      (∀ callControl, result.1.reverseStreams.find callControl =
        ((received dmrgo packetType data).stream env t).1.reverseStreams.find callControl) ∧
      ∀ other, (result.1.reverseStreams.deref other).src =
            (((received dmrgo packetType data).stream env t).1.reverseStreams.deref other).src ∧
          (result.1.reverseStreams.deref other).dst =
            (((received dmrgo packetType data).stream env t).1.reverseStreams.deref other).dst := by
  obtain ⟨result, computed, finds, addresses⟩ := @translateBurst_header dmrgo
    ((received dmrgo packetType data).seen env t) ((received dmrgo packetType data).callWithin env t)
    ((received dmrgo packetType data).stream env t).2 (received dmrgo packetType data).isEnd data
  have seen := @deref_seen_addresses t (received dmrgo packetType data) env
  refine ⟨result, ?_, finds, fun other => ?_⟩
  · rw [translateToMMDVM_eq (by omega) supported, ← computed]
    exact congrArg (fun burstType => Translator.translateBurst dmrgo _ _ _ burstType _ data) header
  · exact ⟨(addresses other).1.trans (seen other).1, (addresses other).2.trans (seen other).2⟩

theorem HeaderWins.freeFor (wins : HeaderWins dmrgo env t packetType data src dst)
    (supported : isSupported packetType = true) (long : 50 ≤ data.length)
    (header : data.getD 30 0 = ipscBurstVoiceHead) : t.FreeFor (callControlOf data) src dst := by
  intro rss bound
  obtain ⟨result, translated, finds, addresses⟩ :=
    @translateToMMDVM_header dmrgo env t packetType data supported long header
  obtain ⟨next, pkts, computed, ⟨rss', bound', hasSrc, hasDst⟩, _⟩ := wins
  cases computed.symm.trans translated
  have kept := (lookup_stream (received dmrgo packetType data) env t).kept bound
  rw [finds] at bound'
  have same : rss' = rss := some.inj (bound'.symm.trans kept.1)
  subst same
  rw [(addresses rss').1, kept.2] at hasSrc
  rw [(addresses rss').2, kept.2] at hasDst
  exact ⟨hasSrc, hasDst⟩

theorem Translator.FreeFor.headerWins (free : t.FreeFor (callControlOf data) src dst) (goInts : dmrgo.GoInts)
    (supported : isSupported packetType = true) (long : 50 ≤ data.length)
    (header : data.getD 30 0 = ipscBurstVoiceHead)
    (decoded : recoverAddressesFromFullLC dmrgo data ipscBurstVoiceHead = .ok (some (src, dst))) :
    HeaderWins dmrgo env t packetType data src dst := by
  have recovers : recovered dmrgo data (data.getD 30 0) = some (src, dst) := by
    rw [header, recovered, decoded]
    rfl
  have callSrc : (received dmrgo packetType data).call.src = src := by simp only [received, recovers]
  have callDst : (received dmrgo packetType data).call.dst = dst := by simp only [received, recovers]
  have lookup := lookup_stream (received dmrgo packetType data) env t
  have settled := lookup.addresses header (by rw [callSrc, callDst]; exact free)
  obtain ⟨sourced, targeted⟩ := recovered_ne_zero goInts decoded
  obtain ⟨result, translated, finds, addresses⟩ :=
    @translateToMMDVM_header dmrgo env t packetType data supported long header
  have bound : BoundTo result.1 (callControlOf data) src dst := by
    refine ⟨_, (finds _).trans lookup.bound, ?_, ?_⟩
    · rw [(addresses _).1, settled.1, callSrc]
    · rw [(addresses _).2, settled.2, callDst]
  exact ⟨result.1, result.2, translated, bound, fun later long => keepsAddresses sourced targeted later long bound⟩

end

theorem header_wins_iff (dmrgo : Dmrgo) (goInts : dmrgo.GoInts) (env : ReverseEnv) (t : Translator) (packetType : UInt8)
    (data : Bytes) (src dst : UInt64) (supported : isSupported packetType = true) (long : 50 ≤ data.length)
    (header : data.getD 30 0 = ipscBurstVoiceHead)
    (decoded : recoverAddressesFromFullLC dmrgo data ipscBurstVoiceHead = .ok (some (src, dst))) :
    HeaderWins dmrgo env t packetType data src dst ↔ t.FreeFor (callControlOf data) src dst :=
  ⟨fun wins => wins.freeFor supported long header, fun free => free.headerWins goInts supported long header decoded⟩

def shortAddresses : Dmrgo where
  decodeFromBits bits _ := some
    { flco := flcoGroupVoiceChannelUser
      groupAddress := (byteOf fun j => bits.getD (40 + j) false).toNat
      sourceAddress := (byteOf fun j => bits.getD (64 + j) false).toNat }
  encodeFullLC _ := none
  encodeBurst _ := Vector.replicate 33 0

theorem shortAddresses_goInts : shortAddresses.GoInts := by
  intro bits dataType flc decoded
  cases decoded
  have source := (byteOf fun j => bits.getD (64 + j) false).toNat_lt
  have group := (byteOf fun j => bits.getD (40 + j) false).toNat_lt
  refine ⟨?_, ?_, ?_⟩ <;> dsimp only <;> omega

def groupHeader (src callControl : UInt8) : Bytes :=
  [0x80, 0, 0, 0, 1, 0, 0, 0, src, 0, 0, 9, 2, 0, 0, 0, callControl, 0] ++ List.replicate 12 0 ++
    [0x01] ++ List.replicate 7 0 ++ [0, 0, 0, 0, 0, 9, 0, 0, src, 0, 0, 0] ++ List.replicate 4 0

theorem header_wins_on_new_call :
    HeaderWins shortAddresses (atTime 1000) newIPSCTranslator 0x80 (groupHeader 5 1) 5 9 :=
  (header_wins_iff shortAddresses shortAddresses_goInts (atTime 1000) newIPSCTranslator 0x80 (groupHeader 5 1) 5 9
    rfl (by decide) rfl rfl).mpr (by
      intro rss bound
      simp [newIPSCTranslator] at bound)

/-- The terminator of the call from 5 is lost, and a minute later the call from 6 uses its call control. -/
theorem header_absorbed :
    ∃ t pkts, newIPSCTranslator.translateToMMDVM shortAddresses (atTime 1000) 0x80 (groupHeader 5 1) = .ok (t, pkts) ∧
      recoverAddressesFromFullLC shortAddresses (groupHeader 6 1) ipscBurstVoiceHead = .ok (some (6, 9)) ∧
      ¬ HeaderWins shortAddresses (atTime 61000000000) t 0x80 (groupHeader 6 1) 6 9 := by
  obtain ⟨result, translated, finds, addresses⟩ :=
    @translateToMMDVM_header shortAddresses (atTime 1000) newIPSCTranslator 0x80 (groupHeader 5 1) rfl (by decide) rfl
  refine ⟨result.1, result.2, translated, rfl, fun wins => ?_⟩
  have bound : result.1.reverseStreams.find (callControlOf (groupHeader 6 1)) = some 0 := (finds _).trans (by decide +kernel)
  have stale : (result.1.reverseStreams.deref 0).src = 5 := (addresses 0).1.trans (by decide +kernel)
  have settled := (wins.freeFor rfl (by decide) rfl 0 bound).1
  rw [stale] at settled
  exact absurd settled (by decide)

end Ipsc2Mmdvm.Ipsc
