import Ipsc2Mmdvm.Hytera.Decode
import Mathlib.Algebra.Group.Nat.Defs
import Mathlib.Data.List.Forall2

namespace Ipsc2Mmdvm.Hytera

open Data Proto List Decoder Function

/-! The run with the datagrams of all repeaters is compared with the run of one repeater alone.
Stream IDs need not be the same in both; it matters which packets share one. -/

structure Datagram (ι : Type) where
  repeater : ι
  data : Bytes
  now : Time

section

variable {ι : Type} (bridgeID : UInt32)

def results : Option Decoder → List (Datagram ι) → List (ι × Option (Decoded Packet))
  | _, [] => []
  | none, d :: ds => (d.repeater, none) :: results none ds
  | some s, d :: ds =>
    match decodeToMMDVM bridgeID s d.data d.now with
    | (_, .panic) => (d.repeater, some .panic) :: results none ds
    | (s, result) => (d.repeater, some result) :: results (some s) ds

def resultsOf [DecidableEq ι] {α : Type} (a : ι) (all : List (ι × α)) : List α :=
  (all.filter fun entry => entry.1 = a).map Prod.snd

end

def withoutStream : Option (Decoded Packet) → Option (Decoded Packet)
  | some (.ok pkt) => some (.ok { pkt with streamID := 0 })
  | result => result

def Share (results : List (Option (Decoded Packet))) (i j : Nat) : Prop :=
  ∃ pkt pkt', results[i]? = some (some (.ok pkt)) ∧ results[j]? = some (some (.ok pkt')) ∧
    pkt.streamID = pkt'.streamID

/-- The same datagrams are accepted, with the same sequence numbers, and the same ones
share a stream. -/
def SameResults (results results' : List (Option (Decoded Packet))) : Prop :=
  results.map withoutStream = results'.map withoutStream ∧ ∀ i j, Share results i j ↔ Share results' i j

structure Independent {ι : Type} [DecidableEq ι] (bridgeID : UInt32) (ds : List (Datagram ι)) : Prop where
  alone : ∀ a, SameResults (resultsOf a (results bridgeID (some {}) ds))
    (resultsOf a (results bridgeID (some {}) (ds.filter fun d => d.repeater = a)))
  streams : ∀ a b pkt pkt', (a, some (.ok pkt)) ∈ results bridgeID (some {}) ds →
    (b, some (.ok pkt')) ∈ results bridgeID (some {}) ds → a ≠ b → pkt.streamID ≠ pkt'.streamID

def slotOf (data : Bytes) : Option Bool :=
  if 38 ≤ data.length ∧ hasHyteraDMRHeader data then some (data.getD 12 0 != 0x01) else none

/-- Different repeaters use different slots, no datagram ends the process, and there
are not enough of them to use up the stream IDs. -/
structure KeptApart {ι : Type} (ds : List (Datagram ι)) : Prop where
  slots : ∀ d ∈ ds, ∀ d' ∈ ds, d.repeater ≠ d'.repeater → ∀ slot, slotOf d.data = some slot →
    slotOf d'.data ≠ some slot
  survives : ∀ d ∈ ds, hasHyteraDMRHeader d.data → d.data.length ≠ 38
  few : ds.length + 1 < 2 ^ 32

variable {data : Bytes} {slotType : SlotType} {kind : UInt64 × UInt64} {inbound : Inbound}
  {st st' : SlotState}

theorem parsePayload_slot (parsed : parsePayload data slotType kind = .ok inbound) :
    inbound.slot = (data.getD 12 0 != 0x01) := by
  simp only [parsePayload] at parsed
  split at parsed
  · cases parsed
  · split at parsed
    · cases parsed
    · split at parsed
      · cases parsed
      · cases parsed
        rfl

theorem swapDMRPayload_eq_none (failed : swapDMRPayload data = none) : data = [] := by
  simp only [swapDMRPayload] at failed
  split at failed
  · cases failed
  · split at failed
    · assumption
    · cases failed

theorem parsePayload_panic (panicked : parsePayload data slotType kind = .panic) : data.length = 38 := by
  simp only [parsePayload] at panicked
  split at panicked
  · cases panicked
  · cases swapped : swapDMRPayload (slice data 26 (data.length - 12)) with
    | none =>
      have empty := congrArg length (swapDMRPayload_eq_none swapped)
      simp only [slice, length_take, length_drop, length_nil] at empty
      omega
    | some payload =>
      rw [swapped] at panicked
      dsimp only at panicked
      split at panicked <;> cases panicked

theorem parseInbound_cases {result : Decoded Inbound} (parsed : parseInbound data = result) :
    (∃ reason, result = .error reason) ∨ (38 ≤ data.length ∧ hasHyteraDMRHeader data ∧
        ∃ slotType kind, parsePayload data slotType kind = result) := by
  simp only [parseInbound] at parsed
  split at parsed
  · exact .inl ⟨_, parsed.symm⟩
  · split at parsed
    · exact .inl ⟨_, parsed.symm⟩
    · rename_i long header
      split at parsed
      · exact .inl ⟨_, parsed.symm⟩
      · split at parsed
        · exact .inl ⟨_, parsed.symm⟩
        · exact .inr ⟨Nat.le_of_not_lt long, by simpa using header, _, _, parsed⟩

theorem slotOf_of_parseInbound (parsed : parseInbound data = .ok inbound) : slotOf data = some inbound.slot := by
  obtain ⟨reason, impossible⟩ | ⟨long, header, slotType, kind, payload⟩ := parseInbound_cases parsed
  · cases impossible
  · rw [slotOf, if_pos ⟨long, header⟩, parsePayload_slot payload]

theorem parseInbound_panic (panicked : parseInbound data = .panic) : hasHyteraDMRHeader data ∧ data.length = 38 := by
  obtain ⟨reason, impossible⟩ | ⟨long, header, slotType, kind, payload⟩ := parseInbound_cases panicked
  · cases impossible
  · exact ⟨header, parsePayload_panic payload⟩

theorem toNat_nextStream {id : UInt32} (room : id.toNat + 1 < 2 ^ 32) : (nextStream id).toNat = id.toNat + 1 := by
  have added : (id + 1).toNat = id.toNat + 1 := by
    rw [UInt32.toNat_add]
    exact Nat.mod_eq_of_lt room
  have nonzero : id + 1 ≠ 0 := by
    intro zero
    rw [zero] at added
    exact absurd added (Nat.succ_ne_zero _).symm
  rw [nextStream, if_neg nonzero, added]

section Runs

variable {ι : Type} (bridgeID : UInt32)

def decoded : Decoder → List (Datagram ι) → List (ι × Decoded Packet)
  | _, [] => []
  | s, d :: ds =>
    (d.repeater, (decodeToMMDVM bridgeID s d.data d.now).2) ::
      decoded (decodeToMMDVM bridgeID s d.data d.now).1 ds

theorem results_eq_decoded (s : Decoder) (ds : List (Datagram ι))
    (survives : ∀ d ∈ ds, hasHyteraDMRHeader d.data → d.data.length ≠ 38) :
    results bridgeID (some s) ds = (decoded bridgeID s ds).map fun entry => (entry.1, some entry.2) := by
  induction ds generalizing s with
  | nil => rfl
  | cons d ds ih =>
    have rest := fun s => ih s fun other member => survives other (mem_cons_of_mem d member)
    have alive : (decodeToMMDVM bridgeID s d.data d.now).2 ≠ .panic := by
      simp only [decodeToMMDVM]
      cases parsed : parseInbound d.data with
      | ok inbound =>
        simp only [accept]
        split <;> simp
      | error reason => simp
      | panic =>
        obtain ⟨header, length⟩ := parseInbound_panic parsed
        exact absurd length (survives d (by simp) header)
    cases step : decodeToMMDVM bridgeID s d.data d.now with
    | mk next result =>
      rw [step] at alive
      cases result with
      | panic => exact absurd rfl alive
      | ok | error => simp only [results, decoded, step, map_cons, rest]

theorem nextStreamID_accept_le (s : Decoder) (inbound : Inbound) (now : Time)
    (room : s.nextStreamID.toNat + 1 < 2 ^ 32) :
    s.nextStreamID.toNat ≤ (s.accept bridgeID inbound now).1.nextStreamID.toNat ∧
      (s.accept bridgeID inbound now).1.nextStreamID.toNat ≤ s.nextStreamID.toNat + 1 := by
  simp only [accept]
  split
  · exact ⟨Nat.le_refl _, Nat.le_succ _⟩
  · dsimp only
    split
    · rw [toNat_nextStream room]
      omega
    · exact ⟨Nat.le_refl _, Nat.le_succ _⟩

theorem slots_accept_of_ne (s : Decoder) (inbound : Inbound) (now : Time) {slot : Bool} (other : slot ≠ inbound.slot) :
    (s.accept bridgeID inbound now).1.slots slot = s.slots slot := by
  simp only [accept]
  split
  · rfl
  · exact update_of_ne other _ _

theorem nextStreamID_decodeToMMDVM_le (s : Decoder) (data : Bytes) (now : Time)
    (room : s.nextStreamID.toNat + 1 < 2 ^ 32) :
    (decodeToMMDVM bridgeID s data now).1.nextStreamID.toNat ≤ s.nextStreamID.toNat + 1 := by
  simp only [decodeToMMDVM]
  cases parseInbound data with
  | ok inbound => exact (nextStreamID_accept_le bridgeID s inbound now room).2
  | error | panic => exact Nat.le_succ _

end Runs

def SlotState.Alike (st st' : SlotState) : Prop := st = { st' with streamID := st.streamID }

theorem SlotState.Alike.repeats (alike : st.Alike st') (seqIn : Option UInt8) :
    st.repeats seqIn = st'.repeats seqIn := by
  rw [alike]
  rfl

theorem SlotState.Alike.startsStream (alike : st.Alike st') (inbound : Inbound) (now : Time) :
    st.startsStream inbound now = st'.startsStream inbound now := by
  rw [alike]
  rfl

theorem SlotState.Alike.mmdvmSeq (alike : st.Alike st') : st.mmdvmSeq = st'.mmdvmSeq := by
  rw [alike]

theorem SlotState.Alike.accept (alike : st.Alike st') (inbound : Inbound) (id id' : UInt32) (now : Time) :
    (st.accept inbound id now).Alike (st'.accept inbound id' now) := by
  rw [alike]
  rfl

/-- The run with all repeaters beside the run with one: on the slots of the one they
differ in their streams alone, and the pairs say which stream is which. -/
structure Linked (own : Bool → Prop) (full solo : Decoder) (pairs : List (UInt32 × UInt32)) : Prop where
  alike : ∀ slot, own slot → (full.slots slot).Alike (solo.slots slot)
  current : ∀ slot, own slot → (solo.slots slot).active = true →
    ((full.slots slot).streamID, (solo.slots slot).streamID) ∈ pairs
  below : ∀ pair ∈ pairs, pair.1.toNat < full.nextStreamID.toNat ∧ pair.2.toNat < solo.nextStreamID.toNat
  matched : ∀ pair ∈ pairs, ∀ pair' ∈ pairs, (pair.1 = pair'.1 ↔ pair.2 = pair'.2)

inductive Corresponds (pairs : List (UInt32 × UInt32)) : Decoded Packet → Decoded Packet → Prop where
  | error (reason : DecodeError) : Corresponds pairs (.error reason) (.error reason)
  | ok (pkt : Packet) (pair : UInt32 × UInt32) (member : pair ∈ pairs) :
      Corresponds pairs (.ok { pkt with streamID := pair.1.toUInt64 })
        (.ok { pkt with streamID := pair.2.toUInt64 })

theorem Corresponds.mono {pairs pairs' : List (UInt32 × UInt32)} (more : pairs ⊆ pairs')
    {result result' : Decoded Packet} (corresponds : Corresponds pairs result result') :
    Corresponds pairs' result result' := by
  cases corresponds with
  | error reason => exact .error reason
  | ok pkt pair member => exact .ok pkt pair (more member)

section Linked

variable {own : Bool → Prop} {full solo : Decoder} {pairs : List (UInt32 × UInt32)}

theorem Linked.start (linked : Linked own full solo pairs) (room : full.nextStreamID.toNat + 1 < 2 ^ 32)
    (room' : solo.nextStreamID.toNat + 1 < 2 ^ 32) :
    Linked own { full with nextStreamID := nextStream full.nextStreamID }
      { solo with nextStreamID := nextStream solo.nextStreamID }
      ((full.nextStreamID, solo.nextStreamID) :: pairs) where
  alike := linked.alike
  current slot owned active := mem_cons_of_mem _ (linked.current slot owned active)
  below pair member := by
    rw [toNat_nextStream room, toNat_nextStream room']
    cases member with
    | head => exact ⟨Nat.lt_succ_self _, Nat.lt_succ_self _⟩
    | tail _ older =>
      have bounds := linked.below pair older
      omega
  matched pair member pair' member' := by
    -- a new number is above every number given so far
    have above : ∀ older ∈ pairs, older.1 ≠ full.nextStreamID ∧ older.2 ≠ solo.nextStreamID := by
      intro older given
      have bounds := linked.below older given
      constructor <;> intro equal <;> rw [equal] at bounds <;> omega
    cases member with
    | head =>
      cases member' with
      | head => simp
      | tail _ older' =>
        have differ := above pair' older'
        exact ⟨fun equal => absurd equal.symm differ.1, fun equal => absurd equal.symm differ.2⟩
    | tail _ older =>
      cases member' with
      | head =>
        have differ := above pair older
        exact ⟨fun equal => absurd equal differ.1, fun equal => absurd equal differ.2⟩
      | tail _ older' => exact linked.matched pair older pair' older'

theorem Linked.update (linked : Linked own full solo pairs) {inbound : Inbound} (owned : own inbound.slot)
    {id id' : UInt32} (member : (id, id') ∈ pairs) (now : Time) :
    Linked own
      { full with
        slots := update full.slots inbound.slot ((full.slots inbound.slot).accept inbound id now) }
      { solo with
        slots := update solo.slots inbound.slot ((solo.slots inbound.slot).accept inbound id' now) }
      pairs where
  alike slot owned' := by
    by_cases same : slot = inbound.slot
    · subst same
      simpa using (linked.alike inbound.slot owned).accept inbound id id' now
    · simpa [same] using linked.alike slot owned'
  current slot owned' active := by
    by_cases same : slot = inbound.slot
    · subst same
      simpa [SlotState.accept] using member
    · simp only [update_of_ne same] at active ⊢
      exact linked.current slot owned' active
  below := linked.below
  matched := linked.matched

variable (bridgeID : UInt32) {inbound : Inbound} {now : Time}

theorem Linked.accept_own (linked : Linked own full solo pairs) (owned : own inbound.slot)
    (room : full.nextStreamID.toNat + 1 < 2 ^ 32) (room' : solo.nextStreamID.toNat + 1 < 2 ^ 32) :
    ∃ pairs', pairs ⊆ pairs' ∧
      Linked own (full.accept bridgeID inbound now).1 (solo.accept bridgeID inbound now).1 pairs' ∧
      Corresponds pairs' (full.accept bridgeID inbound now).2 (solo.accept bridgeID inbound now).2 := by
  have alike := linked.alike inbound.slot owned
  simp only [accept, alike.repeats, alike.startsStream, alike.mmdvmSeq]
  cases repeated : (solo.slots inbound.slot).repeats inbound.seqIn with
  | true => exact ⟨pairs, List.Subset.refl _, linked, .error _⟩
  | false =>
    cases starts : (solo.slots inbound.slot).startsStream inbound now with
    | true =>
      have started := linked.start room room'
      have member : (full.nextStreamID, solo.nextStreamID) ∈
          (full.nextStreamID, solo.nextStreamID) :: pairs := mem_cons_self
      exact ⟨_, subset_cons_self _ _, started.update owned member now,
        .ok (inbound.packet bridgeID (solo.slots inbound.slot).mmdvmSeq 0) _ member⟩
    | false =>
      have member := linked.current inbound.slot owned (SlotState.active_of_continues starts)
      exact ⟨pairs, List.Subset.refl _, linked.update owned member now,
        .ok (inbound.packet bridgeID (solo.slots inbound.slot).mmdvmSeq 0) _ member⟩

theorem Linked.accept_other (linked : Linked own full solo pairs) (foreign : ¬ own inbound.slot)
    (room : full.nextStreamID.toNat + 1 < 2 ^ 32) :
    Linked own (full.accept bridgeID inbound now).1 solo pairs := by
  have kept : ∀ slot, own slot → (full.accept bridgeID inbound now).1.slots slot = full.slots slot := by
    intro slot owned
    exact slots_accept_of_ne bridgeID full inbound now fun equal => foreign (equal ▸ owned)
  exact
    { alike := by
        intro slot owned
        rw [kept slot owned]
        exact linked.alike slot owned
      current := by
        intro slot owned active
        rw [kept slot owned]
        exact linked.current slot owned active
      below := by
        intro pair member
        have bounds := linked.below pair member
        have grows := nextStreamID_accept_le bridgeID full inbound now room
        omega
      matched := linked.matched }

variable {data : Bytes} (now)

theorem Linked.decode_own (linked : Linked own full solo pairs)
    (owned : ∀ slot, slotOf data = some slot → own slot) (survives : hasHyteraDMRHeader data → data.length ≠ 38)
    (room : full.nextStreamID.toNat + 1 < 2 ^ 32) (room' : solo.nextStreamID.toNat + 1 < 2 ^ 32) :
    ∃ pairs', pairs ⊆ pairs' ∧
      Linked own (decodeToMMDVM bridgeID full data now).1 (decodeToMMDVM bridgeID solo data now).1 pairs' ∧
      Corresponds pairs' (decodeToMMDVM bridgeID full data now).2 (decodeToMMDVM bridgeID solo data now).2 := by
  simp only [decodeToMMDVM]
  cases parsed : parseInbound data with
  | ok inbound =>
    exact linked.accept_own bridgeID (owned inbound.slot (slotOf_of_parseInbound parsed)) room room'
  | error reason => exact ⟨pairs, List.Subset.refl _, linked, .error reason⟩
  | panic =>
    obtain ⟨header, length⟩ := parseInbound_panic parsed
    exact absurd length (survives header)

theorem Linked.decode_other (linked : Linked own full solo pairs)
    (foreign : ∀ slot, slotOf data = some slot → ¬ own slot) (room : full.nextStreamID.toNat + 1 < 2 ^ 32) :
    Linked own (decodeToMMDVM bridgeID full data now).1 solo pairs := by
  simp only [decodeToMMDVM]
  cases parsed : parseInbound data with
  | ok inbound => exact linked.accept_other bridgeID (foreign inbound.slot (slotOf_of_parseInbound parsed)) room
  | error | panic => exact linked

theorem Linked.run {ι : Type} [DecidableEq ι] (a : ι) (ds : List (Datagram ι)) (linked : Linked own full solo pairs)
    (owned : ∀ d ∈ ds, d.repeater = a → ∀ slot, slotOf d.data = some slot → own slot)
    (foreign : ∀ d ∈ ds, d.repeater ≠ a → ∀ slot, slotOf d.data = some slot → ¬ own slot)
    (survives : ∀ d ∈ ds, hasHyteraDMRHeader d.data → d.data.length ≠ 38)
    (room : full.nextStreamID.toNat + ds.length < 2 ^ 32) (room' : solo.nextStreamID.toNat + ds.length < 2 ^ 32) :
    ∃ pairs', pairs ⊆ pairs' ∧ (∀ pair ∈ pairs', ∀ pair' ∈ pairs', (pair.1 = pair'.1 ↔ pair.2 = pair'.2)) ∧
      List.Forall₂ (Corresponds pairs') (resultsOf a (decoded bridgeID full ds))
        (resultsOf a (decoded bridgeID solo (ds.filter fun d => d.repeater = a))) := by
  induction ds generalizing full solo pairs with
  | nil => exact ⟨pairs, List.Subset.refl _, linked.matched, .nil⟩
  | cons d ds ih =>
    simp only [length_cons] at room room'
    have grown := nextStreamID_decodeToMMDVM_le bridgeID full d.data d.now (by omega)
    have grown' := nextStreamID_decodeToMMDVM_le bridgeID solo d.data d.now (by omega)
    have rest : ∀ {full solo pairs}, Linked own full solo pairs →
        full.nextStreamID.toNat + ds.length < 2 ^ 32 → solo.nextStreamID.toNat + ds.length < 2 ^ 32 → _ :=
      fun linked => ih linked (fun d' member => owned d' (mem_cons_of_mem d member))
        (fun d' member => foreign d' (mem_cons_of_mem d member))
        (fun d' member => survives d' (mem_cons_of_mem d member))
    by_cases mine : d.repeater = a
    · obtain ⟨extended, more, stepped, corresponds⟩ :=
        linked.decode_own bridgeID d.now (owned d mem_cons_self mine) (survives d mem_cons_self) (by omega) (by omega)
      obtain ⟨pairs', further, matched, related⟩ := rest stepped (by omega) (by omega)
      refine ⟨pairs', List.Subset.trans more further, matched, ?_⟩
      simp only [decoded, resultsOf, filter_cons, mine, decide_true, if_true, map_cons]
      exact .cons (corresponds.mono further) related
    · have stepped := linked.decode_other bridgeID d.now (foreign d mem_cons_self mine) (by omega)
      obtain ⟨pairs', further, matched, related⟩ := rest stepped (by omega) (by omega)
      refine ⟨pairs', further, matched, ?_⟩
      simpa [decoded, resultsOf, mine] using related

end Linked

section Corresponding

variable {pairs : List (UInt32 × UInt32)} {all all' : List (Decoded Packet)}

theorem Corresponds.swap {result result' : Decoded Packet} (corresponds : Corresponds pairs result result') :
    Corresponds (pairs.map Prod.swap) result' result := by
  cases corresponds with
  | error reason => exact .error reason
  | ok pkt pair member => exact .ok pkt pair.swap (mem_map_of_mem member)

theorem withoutStream_of_corresponds (related : List.Forall₂ (Corresponds pairs) all all') :
    (all.map some).map withoutStream = (all'.map some).map withoutStream := by
  induction related with
  | nil => rfl
  | cons first rest ih =>
    simp only [map_cons, ih]
    cases first with
    | error | ok => rfl

theorem pair_of_corresponds (related : List.Forall₂ (Corresponds pairs) all all') {i : Nat} {pkt : Packet}
    (result : all[i]? = some (.ok pkt)) :
    ∃ pair ∈ pairs, ∃ pkt', all'[i]? = some (.ok pkt') ∧ pkt.streamID = pair.1.toUInt64 ∧
      pkt'.streamID = pair.2.toUInt64 := by
  induction related generalizing i with
  | nil => cases result
  | cons first rest ih =>
    cases i with
    | zero =>
      cases first with
      | error reason => cases result
      | ok shape pair member =>
        cases result
        exact ⟨pair, member, _, rfl, rfl, rfl⟩
    | succ i => exact ih result

theorem share_of_corresponds (matched : ∀ pair ∈ pairs, ∀ pair' ∈ pairs, pair.1 = pair'.1 → pair.2 = pair'.2)
    (related : List.Forall₂ (Corresponds pairs) all all') {i j : Nat} (shared : Share (all.map some) i j) :
    Share (all'.map some) i j := by
  obtain ⟨pkt, pkt', atI, atJ, same⟩ := shared
  have atI : all[i]? = some (.ok pkt) := by simpa using atI
  have atJ : all[j]? = some (.ok pkt') := by simpa using atJ
  obtain ⟨pair, member, packet, found, stream, stream'⟩ := pair_of_corresponds related atI
  obtain ⟨other, member', packet', found', streamJ, streamJ'⟩ := pair_of_corresponds related atJ
  have equal : pair.1 = other.1 := by
    rw [stream, streamJ] at same
    exact UInt32.toUInt64_inj.mp same
  refine ⟨packet, packet', by simp [found], by simp [found'], ?_⟩
  rw [stream', streamJ', matched pair member other member' equal]

theorem sameResults_of_corresponds (matched : ∀ pair ∈ pairs, ∀ pair' ∈ pairs, (pair.1 = pair'.1 ↔ pair.2 = pair'.2))
    (related : List.Forall₂ (Corresponds pairs) all all') : SameResults (all.map some) (all'.map some) := by
  have swapped : List.Forall₂ (Corresponds (pairs.map Prod.swap)) all' all :=
    List.Forall₂.flip (related.imp fun _ _ corresponds => corresponds.swap)
  have matched' : ∀ pair ∈ pairs.map Prod.swap, ∀ pair' ∈ pairs.map Prod.swap, pair.1 = pair'.1 → pair.2 = pair'.2 := by
    simp only [mem_map]
    intro pair found pair' found'
    obtain ⟨source, member, swap⟩ := found
    obtain ⟨source', member', swap'⟩ := found'
    subst swap swap'
    exact (matched source member source' member').mpr
  refine ⟨withoutStream_of_corresponds related, fun i j => ⟨?_, ?_⟩⟩
  · exact share_of_corresponds (fun pair member pair' member' => (matched pair member pair' member').mp) related
  · exact share_of_corresponds matched' swapped

theorem resultsOf_map_some {ι : Type} [DecidableEq ι] (a : ι) (entries : List (ι × Decoded Packet)) :
    resultsOf a (entries.map fun entry => (entry.1, some entry.2)) = (resultsOf a entries).map some := by
  induction entries with
  | nil => rfl
  | cons entry entries ih =>
    simp only [resultsOf] at ih
    by_cases mine : entry.1 = a
    · simp [resultsOf, mine, ih]
    · simp [resultsOf, mine, ih]

end Corresponding

structure Owned {ι : Type} (uses : ι → Bool → Prop) (s : Decoder) (started : List (ι × UInt32)) : Prop where
  current : ∀ slot, (s.slots slot).active = true → ∃ a, uses a slot ∧ (a, (s.slots slot).streamID) ∈ started
  below : ∀ entry ∈ started, entry.2.toNat < s.nextStreamID.toNat
  single : ∀ entry ∈ started, ∀ entry' ∈ started, entry.2 = entry'.2 → entry.1 = entry'.1

section Owned

variable {ι : Type} {uses : ι → Bool → Prop} {s : Decoder} {started : List (ι × UInt32)}

theorem Owned.start (owned : Owned uses s started) (a : ι) (room : s.nextStreamID.toNat + 1 < 2 ^ 32) :
    Owned uses { s with nextStreamID := nextStream s.nextStreamID } ((a, s.nextStreamID) :: started) where
  current slot active := by
    obtain ⟨b, used, member⟩ := owned.current slot active
    exact ⟨b, used, mem_cons_of_mem _ member⟩
  below entry member := by
    rw [toNat_nextStream room]
    cases member with
    | head => exact Nat.lt_succ_self _
    | tail _ older => exact Nat.lt_succ_of_lt (owned.below entry older)
  single entry member entry' member' equal := by
    have above : ∀ older ∈ started, older.2 ≠ s.nextStreamID := by
      intro older given same
      have bound := owned.below older given
      rw [same] at bound
      exact Nat.lt_irrefl _ bound
    cases member with
    | head =>
      cases member' with
      | head => rfl
      | tail _ older' => exact absurd equal.symm (above entry' older')
    | tail _ older =>
      cases member' with
      | head => exact absurd equal (above entry older)
      | tail _ older' => exact owned.single entry older entry' older' equal

theorem Owned.update (owned : Owned uses s started) {a : ι} {inbound : Inbound} (used : uses a inbound.slot)
    {id : UInt32} (member : (a, id) ∈ started) (now : Time) :
    Owned uses
      { s with slots := update s.slots inbound.slot ((s.slots inbound.slot).accept inbound id now) }
      started where
  current slot active := by
    by_cases same : slot = inbound.slot
    · subst same
      exact ⟨a, used, by simpa [SlotState.accept] using member⟩
    · simp only [update_of_ne same] at active ⊢
      exact owned.current slot active
  below := owned.below
  single := owned.single

variable (bridgeID : UInt32)

theorem Owned.decode (owned : Owned uses s started) {a : ι} {data : Bytes} (now : Time)
    (used : ∀ slot, slotOf data = some slot → uses a slot ∧ ∀ b, uses b slot → b = a)
    (room : s.nextStreamID.toNat + 1 < 2 ^ 32) :
    ∃ started', started ⊆ started' ∧ Owned uses (decodeToMMDVM bridgeID s data now).1 started' ∧
      ∀ pkt, (decodeToMMDVM bridgeID s data now).2 = .ok pkt →
        ∃ id, pkt.streamID = id.toUInt64 ∧ (a, id) ∈ started' := by
  simp only [decodeToMMDVM]
  cases parsed : parseInbound data with
  | error | panic => exact ⟨started, List.Subset.refl _, owned, by simp⟩
  | ok inbound =>
    obtain ⟨mine, onlyMine⟩ := used inbound.slot (slotOf_of_parseInbound parsed)
    simp only [accept]
    cases (s.slots inbound.slot).repeats inbound.seqIn with
    | true => exact ⟨started, List.Subset.refl _, owned, by simp⟩
    | false =>
      cases starts : (s.slots inbound.slot).startsStream inbound now with
      | true =>
        have member : (a, s.nextStreamID) ∈ (a, s.nextStreamID) :: started := mem_cons_self
        refine ⟨_, subset_cons_self _ _, (owned.start a room).update mine member now, ?_⟩
        intro pkt accepted
        cases accepted
        exact ⟨s.nextStreamID, rfl, member⟩
      | false =>
        obtain ⟨b, used', member⟩ := owned.current inbound.slot (SlotState.active_of_continues starts)
        obtain rfl := onlyMine b used'
        refine ⟨started, List.Subset.refl _, owned.update mine member now, ?_⟩
        intro pkt accepted
        cases accepted
        exact ⟨(s.slots inbound.slot).streamID, rfl, member⟩

theorem Owned.run (owned : Owned uses s started) (ds : List (Datagram ι))
    (used : ∀ d ∈ ds, ∀ slot, slotOf d.data = some slot → uses d.repeater slot ∧ ∀ b, uses b slot → b = d.repeater)
    (room : s.nextStreamID.toNat + ds.length < 2 ^ 32) :
    ∃ started', started ⊆ started' ∧
      (∀ entry ∈ started', ∀ entry' ∈ started', entry.2 = entry'.2 → entry.1 = entry'.1) ∧
      ∀ a pkt, (a, .ok pkt) ∈ decoded bridgeID s ds → ∃ id, pkt.streamID = id.toUInt64 ∧ (a, id) ∈ started' := by
  induction ds generalizing s started with
  | nil => exact ⟨started, List.Subset.refl _, owned.single, by simp [decoded]⟩
  | cons d ds ih =>
    simp only [length_cons] at room
    have grown := nextStreamID_decodeToMMDVM_le bridgeID s d.data d.now (by omega)
    obtain ⟨extended, more, stepped, carries⟩ := owned.decode bridgeID d.now (used d mem_cons_self) (by omega)
    obtain ⟨started', further, single, later⟩ :=
      ih stepped (fun d' member => used d' (mem_cons_of_mem d member)) (by omega)
    refine ⟨started', List.Subset.trans more further, single, ?_⟩
    intro a pkt member
    simp only [decoded, mem_cons, Prod.mk.injEq] at member
    cases member with
    | inl first =>
      obtain ⟨rfl, accepted⟩ := first
      obtain ⟨id, stream, given⟩ := carries pkt accepted.symm
      exact ⟨id, stream, further given⟩
    | inr rest => exact later a pkt rest

end Owned

section

variable {ι : Type} [DecidableEq ι] {ds : List (Datagram ι)}

omit [DecidableEq ι] in
theorem KeptApart.room (apart : KeptApart ds) : ({} : Decoder).nextStreamID.toNat + ds.length < 2 ^ 32 := by
  have one : ({} : Decoder).nextStreamID.toNat = 1 := rfl
  have few := apart.few
  omega

theorem KeptApart.sameResults (apart : KeptApart ds) (bridgeID : UInt32) (a : ι) :
    SameResults (resultsOf a (results bridgeID (some {}) ds))
      (resultsOf a (results bridgeID (some {}) (ds.filter fun d => d.repeater = a))) := by
  let own : Bool → Prop := fun slot => ∃ d ∈ ds, d.repeater = a ∧ slotOf d.data = some slot
  have fresh : Linked own {} {} [] :=
    { alike := fun _ _ => rfl
      current := by simp
      below := by simp
      matched := by simp }
  have foreign : ∀ d ∈ ds, d.repeater ≠ a → ∀ slot, slotOf d.data = some slot → ¬ own slot := by
    intro d member other slot here owned
    obtain ⟨d', member', mine, there⟩ := owned
    exact apart.slots d member d' member' (fun equal => other (equal.trans mine)) slot here there
  obtain ⟨pairs, _, matched, related⟩ := fresh.run bridgeID a ds
    (fun d member mine slot here => ⟨d, member, mine, here⟩) foreign apart.survives apart.room apart.room
  rw [results_eq_decoded bridgeID {} ds apart.survives,
    results_eq_decoded bridgeID {} (ds.filter fun d => d.repeater = a)
      fun d member => apart.survives d (mem_of_mem_filter member),
    resultsOf_map_some, resultsOf_map_some]
  exact sameResults_of_corresponds matched related

theorem KeptApart.streams_differ (apart : KeptApart ds) (bridgeID : UInt32) {a b : ι} {pkt pkt' : Packet}
    (mine : (a, some (.ok pkt)) ∈ results bridgeID (some {}) ds)
    (yours : (b, some (.ok pkt')) ∈ results bridgeID (some {}) ds) (differ : a ≠ b) :
    pkt.streamID ≠ pkt'.streamID := by
  let uses : ι → Bool → Prop := fun c slot => ∃ d ∈ ds, d.repeater = c ∧ slotOf d.data = some slot
  have fresh : Owned uses {} [] :=
    { current := by simp
      below := by simp
      single := by simp }
  have used : ∀ d ∈ ds, ∀ slot, slotOf d.data = some slot →
      uses d.repeater slot ∧ ∀ c, uses c slot → c = d.repeater := by
    intro d member slot here
    refine ⟨⟨d, member, rfl, here⟩, fun c shared => ?_⟩
    obtain ⟨d', member', same, there⟩ := shared
    by_contra other
    exact apart.slots d member d' member' (fun equal => other (same.symm.trans equal.symm)) slot here there
  obtain ⟨started, _, single, carries⟩ := fresh.run bridgeID ds used apart.room
  rw [results_eq_decoded bridgeID {} ds apart.survives] at mine yours
  obtain ⟨id, stream, given⟩ := carries a pkt (by simpa using mine)
  obtain ⟨id', stream', given'⟩ := carries b pkt' (by simpa using yours)
  intro equal
  rw [stream, stream'] at equal
  exact differ (single _ given _ given' (UInt32.toUInt64_inj.mp equal))

/-- Repeaters that are kept apart do not disturb each other. -/
theorem repeaters_independent (bridgeID : UInt32) (ds : List (Datagram ι)) (apart : KeptApart ds) :
    Independent bridgeID ds where
  alone := apart.sameResults bridgeID
  streams _ _ _ _ mine yours differ := apart.streams_differ bridgeID mine yours differ

end

def sampleDatagram (seq slot : UInt8) : Bytes :=
  List.replicate 4 hyteraPrefixA ++ [seq] ++ List.replicate 7 0 ++ [slot] ++ List.replicate 5 0 ++ [0x11, 0x11] ++
    List.replicate 52 0

theorem repeaters_independent_on_two_slots :
    Independent 7 [⟨true, sampleDatagram 1 1, 10⟩, ⟨false, sampleDatagram 1 2, 11⟩,
      ⟨true, sampleDatagram 2 1, 12⟩] :=
  repeaters_independent 7 _
    { slots := by decide +kernel
      survives := by decide +kernel
      few := by decide }

/-- Both repeaters number their datagrams from 1; the second one's first is dropped. -/
theorem repeaters_disturb_on_one_slot :
    ¬ Independent 7 [⟨true, sampleDatagram 1 1, 10⟩, ⟨false, sampleDatagram 1 1, 11⟩] := by
  intro independent
  have same := (independent.alone false).1
  revert same
  decide +kernel

end Ipsc2Mmdvm.Hytera
