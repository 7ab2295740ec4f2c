import Ipsc2Mmdvm.Ipsc.Steps

namespace Ipsc2Mmdvm.Ipsc

open Data Dmr Proto PtrMap
open List hiding Vector

/-! The packets with one stream ID are numbered from zero, have at most one header and end with
their terminator, and the voice packets among them follow the superframe. -/

def isVoiceHeader (p : Packet) : Bool :=
  p.frameType == frameTypeDataSync && p.dtypeOrVSeq == dataTypeVoiceLCHeader.toUInt64

def isTerminator (p : Packet) : Bool :=
  p.frameType == frameTypeDataSync && p.dtypeOrVSeq == dataTypeTerminatorWithLC.toUInt64

def isVoice (p : Packet) : Bool := p.frameType == frameTypeVoice || p.frameType == frameTypeVoiceSync

def ofStream (pkts : List Packet) (id : UInt64) : List Packet := pkts.filter fun p => p.streamID == id

structure StreamDiscipline (pkts : List Packet) : Prop where
  seq : ∀ k p, pkts[k]? = some p → p.seq.toNat = k % 256
  oneHeader : pkts.countP isVoiceHeader ≤ 1
  oneTerminator : pkts.countP isTerminator ≤ 1
  /-- Nothing comes after the terminator. -/
  ends : ∀ k p, pkts[k]? = some p → isTerminator p = true → k + 1 = pkts.length
  advances : ∀ before p between q after, pkts = before ++ p :: (between ++ q :: after) →
    isVoice p = true → isVoice q = true → (∀ x ∈ between, isVoice x = false ∧ isVoiceHeader x = false) →
    q.dtypeOrVSeq.toNat = (p.dtypeOrVSeq.toNat + 1) % 6
  restarts : ∀ before h between q after, pkts = before ++ h :: (between ++ q :: after) →
    isVoiceHeader h = true → isVoice q = true → (∀ x ∈ between, isVoice x = false) → q.dtypeOrVSeq.toNat = 0
  sync : ∀ p ∈ pkts, isVoice p = true → (p.frameType = frameTypeVoiceSync ↔ p.dtypeOrVSeq.toNat = 0)

def nextPosition (position : Nat) (p : Packet) : Nat :=
  if isVoiceHeader p then 0 else if isVoice p then (p.dtypeOrVSeq.toNat + 1) % 6 else position

def AtPosition (position : Nat) (p : Packet) : Prop :=
  isVoice p = true → p.dtypeOrVSeq.toNat = position ∧ (p.frameType = frameTypeVoiceSync ↔ position = 0)

def Positioned : Nat → List Packet → Prop
  | _, [] => True
  | position, p :: rest => AtPosition position p ∧ Positioned (nextPosition position p) rest

variable {pkts history : List Packet} {position : Nat} {state : ReverseStreamState}

theorem positioned_append {later : List Packet} : Positioned position (pkts ++ later) ↔
      Positioned position pkts ∧ Positioned (pkts.foldl nextPosition position) later := by
  induction pkts generalizing position with
  | nil => simp [Positioned]
  | cons p rest ih => simp only [cons_append, Positioned, ih, and_assoc, foldl_cons]

theorem nextPosition_lt (inside : position < 6) (p : Packet) : nextPosition position p < 6 := by
  simp only [nextPosition]
  split
  · decide
  · split
    · exact Nat.mod_lt _ (by decide)
    · exact inside

theorem foldl_nextPosition_lt (inside : position < 6) (pkts : List Packet) : pkts.foldl nextPosition position < 6 := by
  induction pkts generalizing position with
  | nil => exact inside
  | cons p rest ih => exact ih (nextPosition_lt inside p)

theorem foldl_nextPosition_fixed (stays : ∀ p ∈ pkts, nextPosition position p = position) :
    pkts.foldl nextPosition position = position := by
  induction pkts with
  | nil => rfl
  | cons p rest ih =>
    rw [foldl_cons, stays p mem_cons_self, ih fun x member => stays x (mem_cons_of_mem p member)]

theorem isVoice_not_isVoiceHeader {p : Packet} (voice : isVoice p = true) : isVoiceHeader p = false := by
  simp only [isVoice, Bool.or_eq_true, beq_iff_eq] at voice
  simp only [isVoiceHeader, Bool.and_eq_false_iff, beq_eq_false_iff_ne]
  left
  obtain plain | sync := voice
  · rw [plain]
    decide
  · rw [sync]
    decide

structure Follows (state : ReverseStreamState) (pkts : List Packet) : Prop where
  next : state.seq.toNat = pkts.length % 256
  seq : ∀ k p, pkts[k]? = some p → p.seq.toNat = k % 256
  headers : pkts.countP isVoiceHeader = if state.started then 1 else 0
  ends : ∀ k p, pkts[k]? = some p → isTerminator p = true → k + 1 = pkts.length
  position : state.burstIndex = (pkts.foldl nextPosition 0 : Nat)
  positioned : Positioned 0 pkts

theorem follows_nil (seq : state.seq = 0) (fresh : state.started = false) (first : state.burstIndex = 0) :
    Follows state [] where
  next := by simp [seq]
  seq := by simp
  headers := by simp [fresh]
  ends := by simp
  position := first
  positioned := trivial

theorem Follows.congr {other : ReverseStreamState} (follows : Follows state pkts) (seq : other.seq = state.seq)
    (started : other.started = state.started) (burstIndex : other.burstIndex = state.burstIndex) : Follows other pkts where
  next := seq ▸ follows.next
  seq := follows.seq
  headers := started ▸ follows.headers
  ends := follows.ends
  position := burstIndex ▸ follows.position
  positioned := follows.positioned

theorem getElem?_snoc {pkt p : Packet} {k : Nat} (at' : (pkts ++ [pkt])[k]? = some p) :
    pkts[k]? = some p ∨ k = pkts.length ∧ p = pkt := by
  by_cases earlier : k < pkts.length
  · rw [getElem?_append_left earlier] at at'
    exact .inl at'
  · rw [getElem?_append_right (Nat.le_of_not_lt earlier), getElem?_singleton] at at'
    split at at'
    · cases at'
      exact .inr ⟨by omega, rfl⟩
    · cases at'

theorem Follows.snoc {after : ReverseStreamState} {pkt : Packet} (follows : Follows state pkts)
    (running : pkts.countP isTerminator = 0) (seq : pkt.seq = state.seq.toUInt64) (next : after.seq = state.seq + 1)
    (headers : (if after.started then 1 else 0) = (if state.started then 1 else 0) + if isVoiceHeader pkt then 1 else 0)
    (position : after.burstIndex = (nextPosition (pkts.foldl nextPosition 0) pkt : Nat))
    (positioned : AtPosition (pkts.foldl nextPosition 0) pkt) : Follows after (pkts ++ [pkt]) where
  next := by
    rw [next, UInt8.toNat_add, follows.next, length_append, length_singleton]
    simp
  seq := by
    intro k p at'
    obtain earlier | ⟨last, equal⟩ := getElem?_snoc at'
    · exact follows.seq k p earlier
    · rw [equal, seq, last, ← follows.next]
      simp
  headers := by
    rw [countP_append, follows.headers, headers, countP_singleton]
  ends := by
    intro k p at' terminates
    obtain earlier | ⟨last, _⟩ := getElem?_snoc at'
    · exact absurd terminates (countP_eq_zero.mp running p (mem_of_getElem? earlier))
    · rw [last, length_append, length_singleton]
  position := by
    rw [foldl_append, position]
    rfl
  positioned := positioned_append.mpr ⟨follows.positioned, positioned, trivial⟩

section

variable {t : Translator} {call : Call} {state : ReverseStreamState} {pkts : List Packet} {dmrData : DMRData}
  {dataType : DataType}

theorem dataPacket_not_isVoice : isVoice (dataPacket t call state dataType dmrData) = false := rfl

theorem dtypeOrVSeq_dataPacket (other : DataType) :
    ((dataPacket t call state dataType dmrData).dtypeOrVSeq == other.toUInt64) = decide (dataType = other) := by
  rw [Bool.eq_iff_iff, beq_iff_eq, decide_eq_true_iff]
  exact ⟨fun same => by simpa [dataPacket] using congrArg UInt64.toUInt8 same, fun same => by rw [dataPacket, same]⟩

theorem dataPacket_isVoiceHeader :
    isVoiceHeader (dataPacket t call state dataType dmrData) = decide (dataType = dataTypeVoiceLCHeader) :=
  dtypeOrVSeq_dataPacket _

theorem dataPacket_isTerminator :
    isTerminator (dataPacket t call state dataType dmrData) = decide (dataType = dataTypeTerminatorWithLC) :=
  dtypeOrVSeq_dataPacket _

theorem voicePacket_isVoice : isVoice (voicePacket t call state dmrData) = true := by
  simp only [isVoice, voicePacket]
  split <;> rfl

theorem voicePacket_not_isTerminator : isTerminator (voicePacket t call state dmrData) = false := by
  simp only [isTerminator, voicePacket]
  split <;> rfl

section

variable (follows : Follows state pkts)

include follows

theorem Follows.data (running : pkts.countP isTerminator = 0) (notHeader : dataType ≠ dataTypeVoiceLCHeader) :
    Follows state.afterData (pkts ++ [dataPacket t call state dataType dmrData]) := by
  have plain : isVoiceHeader (dataPacket t call state dataType dmrData) = false := by
    rw [dataPacket_isVoiceHeader]
    exact decide_eq_false notHeader
  refine follows.snoc running rfl rfl ?_ ?_ ?_
  · rw [plain]
    rfl
  · rw [nextPosition, plain, dataPacket_not_isVoice]
    exact follows.position
  · intro voice
    rw [dataPacket_not_isVoice] at voice
    exact Bool.noConfusion voice

theorem Follows.header (running : pkts.countP isTerminator = 0) (fresh : state.started = false) :
    Follows (state.afterHeader call) (pkts ++ [dataPacket t call state dataTypeVoiceLCHeader dmrData]) := by
  have header : isVoiceHeader (dataPacket t call state dataTypeVoiceLCHeader dmrData) = true := by
    rw [dataPacket_isVoiceHeader]
    rfl
  refine follows.snoc running rfl rfl ?_ ?_ ?_
  · rw [header, fresh]
    rfl
  · rw [nextPosition, header]
    rfl
  · intro voice
    rw [dataPacket_not_isVoice] at voice
    exact Bool.noConfusion voice

theorem Follows.position_eq : state.position = (pkts.foldl nextPosition 0 : Nat) := by
  have inside := foldl_nextPosition_lt (by decide : 0 < 6) pkts
  rw [ReverseStreamState.position, follows.position]
  have small : ((pkts.foldl nextPosition 0 : Nat) : Int).tmod 6 = (pkts.foldl nextPosition 0 : Nat) := by
    rw [Int.tmod_eq_emod_of_nonneg (Int.natCast_nonneg _)]
    omega
  rw [small, if_neg (by omega)]

theorem Follows.voice (running : pkts.countP isTerminator = 0) :
    Follows state.afterVoice (pkts ++ [voicePacket t call state dmrData]) := by
  have inside := foldl_nextPosition_lt (by decide : 0 < 6) pkts
  have position := follows.position_eq
  have voice : isVoice (voicePacket t call state dmrData) = true := voicePacket_isVoice
  have notHeader := isVoice_not_isVoiceHeader voice
  have placed : (voicePacket t call state dmrData).dtypeOrVSeq.toNat = pkts.foldl nextPosition 0 := by
    simp only [voicePacket, position, Int.toNat_natCast]
    exact UInt64.toNat_ofNat_of_lt' (Nat.lt_trans inside (by decide))
  refine follows.snoc running rfl rfl ?_ ?_ ?_
  · rw [notHeader]
    rfl
  · rw [nextPosition, notHeader, voice, placed]
    simp only [ReverseStreamState.afterVoice, follows.position]
    rw [Int.tmod_eq_emod_of_nonneg (by omega)]
    simp
  · intro _
    refine ⟨placed, ?_⟩
    simp only [voicePacket, position]
    split
    · rename_i zero
      exact iff_of_true rfl (by omega)
    · rename_i later
      exact iff_of_false (by decide) (by omega)

end

end

structure Recorded (t : Translator) (history : List Packet) : Prop where
  counter : t.nextStreamID.toNat = t.reverseStreams.next
  numbers : ∀ rss < t.reverseStreams.next, (t.reverseStreams.deref rss).streamID.toNat = rss + 1
  carried : ∀ p ∈ history, ∃ rss < t.reverseStreams.next, p.streamID = (t.reverseStreams.deref rss).streamID.toUInt64
  follows : ∀ rss < t.reverseStreams.next,
    Follows (t.reverseStreams.deref rss) (ofStream history (t.reverseStreams.deref rss).streamID.toUInt64)

def Running (t : Translator) (history : List Packet) : Prop :=
  ∀ callControl rss, t.reverseStreams.find callControl = some rss →
    (ofStream history (t.reverseStreams.deref rss).streamID.toUInt64).countP isTerminator = 0

section

variable {t : Translator} {rss other : Ref} {callControl : UInt32}

theorem Recorded.streamID_ne (recorded : Recorded t history) (inside : rss < t.reverseStreams.next)
    (inside' : other < t.reverseStreams.next) (differ : other ≠ rss) :
    (t.reverseStreams.deref rss).streamID.toUInt64 ≠ (t.reverseStreams.deref other).streamID.toUInt64 := by
  intro same
  have equal := congrArg UInt64.toNat same
  simp only [UInt32.toNat_toUInt64] at equal
  rw [recorded.numbers rss inside, recorded.numbers other inside'] at equal
  exact differ (Nat.succ.inj equal).symm

theorem ofStream_append_same {id : UInt64} (same : ∀ p ∈ pkts, p.streamID = id) :
    ofStream (history ++ pkts) id = ofStream history id ++ pkts := by
  rw [ofStream, filter_append]
  exact congrArg (ofStream history id ++ ·) (filter_eq_self.mpr (by simpa using same))

theorem ofStream_append_other {id : UInt64} (other : ∀ p ∈ pkts, p.streamID ≠ id) :
    ofStream (history ++ pkts) id = ofStream history id := by
  simpa [ofStream] using other

theorem deref_put : (t.put rss state).reverseStreams.deref other =
    if other = rss then state else t.reverseStreams.deref other := rfl

theorem Recorded.emit (recorded : Recorded t history) (inside : rss < t.reverseStreams.next)
    (sameID : state.streamID = (t.reverseStreams.deref rss).streamID)
    (carried : ∀ p ∈ pkts, p.streamID = (t.reverseStreams.deref rss).streamID.toUInt64)
    (follows : Follows state (ofStream history (t.reverseStreams.deref rss).streamID.toUInt64 ++ pkts)) :
    Recorded (t.put rss state) (history ++ pkts) where
  counter := recorded.counter
  numbers other inside' := by
    rw [streamID_put sameID]
    exact recorded.numbers other inside'
  carried := by
    intro p member
    obtain earlier | new := mem_append.mp member
    · obtain ⟨other, inside', same⟩ := recorded.carried p earlier
      exact ⟨other, inside', by rw [streamID_put sameID, same]⟩
    · exact ⟨rss, inside, by rw [streamID_put sameID, carried p new]⟩
  follows := by
    intro other inside'
    rw [streamID_put sameID]
    by_cases same : other = rss
    · subst same
      rw [ofStream_append_same carried, deref_put, if_pos rfl]
      exact follows
    · have differ := recorded.streamID_ne inside inside' same
      rw [ofStream_append_other fun p new => carried p new ▸ differ, deref_put, if_neg same]
      exact recorded.follows other inside'

theorem Recorded.alias (recorded : Recorded t history) (callControl : UInt32) (rss : Ref) :
    Recorded (t.alias callControl rss) history where
  counter := by simpa [Translator.alias] using recorded.counter
  numbers := by simpa [Translator.alias] using recorded.numbers
  carried := by simpa [Translator.alias] using recorded.carried
  follows := by simpa [Translator.alias] using recorded.follows

theorem Recorded.removeReverseStreamAliases (recorded : Recorded t history) :
    Recorded (t.removeReverseStreamAliases rss) history where
  counter := recorded.counter
  numbers := recorded.numbers
  carried := recorded.carried
  follows := recorded.follows

theorem Running.alias (running : Running t history) (present : t.reverseStreams.find callControl = some rss)
    (key : UInt32) : Running (t.alias key rss) history := by
  intro other shared stored
  simp only [Translator.alias, deref_store]
  simp only [Translator.alias] at stored
  rw [find_store (lt_next present)] at stored
  split at stored
  · cases stored
    exact running callControl rss present
  · exact running other shared stored

theorem running_removeReverseStreamAliases
    (running : ∀ callControl other, t.reverseStreams.find callControl = some other → other ≠ rss →
      (ofStream history (t.reverseStreams.deref other).streamID.toUInt64).countP isTerminator = 0) :
    Running (t.removeReverseStreamAliases rss) history := by
  intro callControl other stored
  obtain ⟨present, kept⟩ := find_deleteWhere.mp stored
  exact running callControl other present (by simpa using kept)

section

variable (recorded : Recorded t history) (bound : t.reverseStreams.next + 1 < 2 ^ 32)

include recorded bound

theorem Recorded.nextNumber : t.nextNumber.toNat = t.reverseStreams.next + 1 := by
  have counter := recorded.counter
  have plus : (t.nextStreamID + 1).toNat = t.reverseStreams.next + 1 := by
    rw [UInt32.toNat_add, counter]
    exact Nat.mod_eq_of_lt bound
  have notZero : t.nextStreamID + 1 ≠ 0 := by
    intro zero
    rw [zero] at plus
    exact absurd plus (Nat.succ_ne_zero _).symm
  rw [Translator.nextNumber, if_neg notZero, plus]

theorem Recorded.ofStream_next : ofStream history t.nextNumber.toUInt64 = [] := by
  rw [ofStream, filter_eq_nil_iff]
  intro p member same
  obtain ⟨other, inside, carries⟩ := recorded.carried p member
  have equal := congrArg UInt64.toNat (carries.symm.trans (beq_iff_eq.mp same))
  simp only [UInt32.toNat_toUInt64] at equal
  rw [recorded.numbers other inside, recorded.nextNumber bound] at equal
  exact absurd (Nat.succ.inj equal) inside.ne

theorem Recorded.create (number : state.streamID = t.nextNumber) (seq : state.seq = 0) (fresh : state.started = false)
    (first : state.burstIndex = 0) (callControl : UInt32) : Recorded (t.create callControl state) history := by
  have nextNumber := recorded.nextNumber bound
  have none := recorded.ofStream_next bound
  have older : ∀ other < t.reverseStreams.next,
      (t.create callControl state).reverseStreams.deref other = t.reverseStreams.deref other := by
    intro other inside
    simp [Translator.create, inside.ne]
  have newest : (t.create callControl state).reverseStreams.deref t.reverseStreams.next = state := by
    simp [Translator.create]
  have next : (t.create callControl state).reverseStreams.next = t.reverseStreams.next + 1 := by
    simp [Translator.create]
  exact
    { counter := by
        rw [next, ← nextNumber, ← number]
        rfl
      numbers := by
        intro other inside
        rw [next] at inside
        obtain earlier | last := Nat.lt_succ_iff_lt_or_eq.mp inside
        · rw [older other earlier]
          exact recorded.numbers other earlier
        · rw [last, newest, number, nextNumber]
      carried := by
        intro p member
        obtain ⟨other, inside, carries⟩ := recorded.carried p member
        exact ⟨other, next ▸ Nat.lt_succ_of_lt inside, by rw [older other inside, carries]⟩
      follows := by
        intro other inside
        rw [next] at inside
        obtain earlier | last := Nat.lt_succ_iff_lt_or_eq.mp inside
        · rw [older other earlier]
          exact recorded.follows other earlier
        · rw [last, newest, number, none]
          exact follows_nil seq fresh first }

end

theorem Running.create (running : Running t history) (recorded : Recorded t history)
    (bound : t.reverseStreams.next + 1 < 2 ^ 32) (number : state.streamID = t.nextNumber) (key : UInt32) :
    Running (t.create key state) history := by
  intro callControl shared stored
  simp only [Translator.create] at stored ⊢
  rw [find_create] at stored
  rw [deref_store, deref_alloc]
  split at stored
  · cases stored
    rw [if_pos rfl, number, recorded.ofStream_next bound]
    rfl
  · rw [if_neg (lt_next stored).ne]
    exact running callControl shared stored

end

structure Disciplined (t : Translator) (history : List Packet) : Prop where
  recorded : Recorded t history
  running : Running t history

section

variable {dmrgo : Dmrgo} {t : Translator} {history : List Packet} {r : Received} {env : ReverseEnv}
  {call : Call} {rss : Ref} {data : Bytes} {result : Translator × List Packet} {found : Translator × Ref}
  {callControl : UInt32}

theorem Lookup.bound (lookup : Lookup r env t found) : found.1.reverseStreams.find r.callControl = some found.2 := by
  cases lookup with
  | known rss bound => exact bound
  | byTuple rss other unbound present _ _ | byPeer rss other unbound present _ _ =>
    simp only [Translator.alias]
    rw [find_store (lt_next present), if_pos rfl]
  | created unbound =>
    simp only [Translator.create]
    rw [find_create, if_pos rfl]

theorem Lookup.next_le (lookup : Lookup r env t found) : t.reverseStreams.next ≤ found.1.reverseStreams.next := by
  cases lookup with
  | known rss bound => exact Nat.le_refl _
  | byTuple | byPeer => simp [Translator.alias]
  | created unbound => simp [Translator.create]

theorem Lookup.disciplined (lookup : Lookup r env t found) (disciplined : Disciplined t history)
    (bound : found.1.reverseStreams.next < 2 ^ 32) : Disciplined found.1 history := by
  obtain ⟨recorded, running⟩ := disciplined
  cases lookup with
  | known rss bound => exact ⟨recorded, running⟩
  | byTuple rss other unbound present _ _ | byPeer rss other unbound present _ _ =>
    exact ⟨recorded.alias _ _, running.alias present _⟩
  | created unbound =>
    have room : t.reverseStreams.next + 1 < 2 ^ 32 := by simpa [Translator.create] using bound
    exact ⟨recorded.create room rfl rfl rfl rfl _, running.create recorded room rfl _⟩

section

variable (disciplined : Disciplined t history) (live : t.reverseStreams.find callControl = some rss)

include disciplined live

theorem Disciplined.emit {state : ReverseStreamState} {pkts : List Packet} (sameID : state.streamID = (t.reverseStreams.deref rss).streamID)
    (carried : ∀ p ∈ pkts, p.streamID = (t.reverseStreams.deref rss).streamID.toUInt64)
    (follows : Follows state (ofStream history (t.reverseStreams.deref rss).streamID.toUInt64 ++ pkts))
    (goesOn : pkts.countP isTerminator = 0) : Disciplined (t.put rss state) (history ++ pkts) where
  recorded := disciplined.recorded.emit (lt_next live) sameID carried follows
  running := by
    intro key other present
    have before := disciplined.running key other present
    rw [streamID_put sameID]
    by_cases same : other = rss
    · rw [same] at before ⊢
      rw [ofStream_append_same carried, countP_append, before, goesOn]
    · have apart := disciplined.recorded.streamID_ne (lt_next live) (lt_next present) same
      rw [ofStream_append_other fun p new => carried p new ▸ apart]
      exact before

theorem Disciplined.touch (now : Time) : Disciplined (t.put rss { t.reverseStreams.deref rss with lastSeen := now }) history := by
  have follows := disciplined.recorded.follows rss (lt_next live)
  rw [← append_nil (ofStream _ _)] at follows
  rw [← append_nil history]
  exact disciplined.emit live rfl nofun (follows.congr rfl rfl rfl) rfl

end

theorem Emission.disciplined (emission : Emission dmrgo t call rss data result) (disciplined : Disciplined t history)
    (live : t.reverseStreams.find callControl = some rss) :
    Disciplined result.1 (history ++ result.2) := by
  have follows := disciplined.recorded.follows rss (lt_next live)
  have running := disciplined.running callControl rss live
  have emit {state : ReverseStreamState} {pkt : Packet} (sameID : state.streamID = (t.reverseStreams.deref rss).streamID)
      (carried : pkt.streamID = (t.reverseStreams.deref rss).streamID.toUInt64)
      (follows : Follows state (ofStream history (t.reverseStreams.deref rss).streamID.toUInt64 ++ [pkt]))
      (goesOn : isTerminator pkt = false) : Disciplined (t.put rss state) (history ++ [pkt]) :=
    disciplined.emit live sameID (by simpa using carried) follows (by simp [goesOn])
  cases emission with
  | nothing => simpa using disciplined
  | header dmrData fresh =>
    exact emit rfl rfl (follows.header running fresh) (by rw [dataPacket_isTerminator]; rfl)
  | terminator dmrData =>
    have ended : Follows (t.reverseStreams.deref rss).afterData
        (ofStream history (t.reverseStreams.deref rss).streamID.toUInt64 ++
          [dataPacket t call (t.reverseStreams.deref rss) dataTypeTerminatorWithLC dmrData]) :=
      follows.data running (by decide)
    have recorded : Recorded (t.put rss (t.reverseStreams.deref rss).afterData)
        (history ++ [dataPacket t call (t.reverseStreams.deref rss) dataTypeTerminatorWithLC dmrData]) :=
      disciplined.recorded.emit (lt_next live) rfl (by simp [dataPacket, Translator.packet]) ended
    refine ⟨recorded.removeReverseStreamAliases, running_removeReverseStreamAliases ?_⟩
    intro key other present differ
    have apart := disciplined.recorded.streamID_ne (lt_next live) (lt_next present) differ
    rw [deref_put, if_neg differ, ofStream_append_other (forall_mem_singleton.mpr apart)]
    exact disciplined.running key other present
  | voice burst frames => exact emit rfl rfl (follows.voice running) voicePacket_not_isTerminator
  | data dataType dmrData notHeader notTerminator =>
    exact emit rfl rfl (follows.data running notHeader)
      (by rw [dataPacket_isTerminator]; exact decide_eq_false notTerminator)

theorem Emission.next (emission : Emission dmrgo t call rss data result) :
    result.1.reverseStreams.next = t.reverseStreams.next := by
  cases emission <;> rfl

theorem TranslateStep.next_le {a : Arrival} (step : TranslateStep dmrgo a t result) :
    t.reverseStreams.next ≤ result.1.reverseStreams.next := by
  cases step with
  | unsupported other => exact Nat.le_refl _
  | translated supported emission =>
    rw [emission.next]
    exact (lookup_stream _ a.env t).next_le

theorem TranslateStep.disciplined {a : Arrival} (step : TranslateStep dmrgo a t result)
    (disciplined : Disciplined t history) (bound : result.1.reverseStreams.next < 2 ^ 32) :
    Disciplined result.1 (history ++ result.2) := by
  cases step with
  | unsupported other => simpa using disciplined
  | translated supported emission =>
    have lookup := lookup_stream (received dmrgo a.packetType a.data) a.env t
    rw [emission.next] at bound
    exact emission.disciplined ((lookup.disciplined disciplined bound).touch lookup.bound _) lookup.bound

theorem translateAll_disciplined (arrivals : List Arrival) (long : ∀ a ∈ arrivals, 31 ≤ a.data.length) :
    ∃ final emitted, t.translateAll dmrgo arrivals = .ok (final, emitted) ∧
      t.reverseStreams.next ≤ final.reverseStreams.next ∧
      (Disciplined t history → final.reverseStreams.next < 2 ^ 32 → Disciplined final (history ++ emitted)) := by
  induction arrivals generalizing t history with
  | nil => exact ⟨t, [], rfl, Nat.le_refl _, fun disciplined _ => by simpa using disciplined⟩
  | cons a later ih =>
    obtain ⟨⟨next, pkts⟩, computed, step⟩ := translateToMMDVM_step dmrgo a t (long a mem_cons_self)
    obtain ⟨final, rest, run, grows, keeps⟩ :=
      @ih next (history ++ pkts) fun b member => long b (mem_cons_of_mem a member)
    refine ⟨final, pkts ++ rest, ?_, Nat.le_trans step.next_le grows, ?_⟩
    · rw [Translator.translateAll, computed]
      simp only [bind, Except.bind, run]
      rfl
    · intro disciplined bound
      rw [← append_assoc]
      exact keeps (step.disciplined disciplined (Nat.lt_of_le_of_lt grows bound)) bound

end

theorem Follows.oneTerminator (follows : Follows state pkts) : pkts.countP isTerminator ≤ 1 := by
  obtain rfl | ⟨earlier, last, rfl⟩ := pkts.eq_nil_or_concat'
  · exact Nat.zero_le 1
  · have none : earlier.countP isTerminator = 0 := by
      rw [countP_eq_zero]
      intro p member terminates
      obtain ⟨k, inside, at'⟩ := mem_iff_getElem.mp member
      have here : (earlier ++ [last])[k]? = some p := by
        rw [getElem?_append_left inside, getElem?_eq_getElem inside, at']
      have final := follows.ends k p here terminates
      rw [length_append, length_singleton] at final
      omega
    rw [countP_append, none, Nat.zero_add]
    exact countP_le_length

theorem Follows.discipline (follows : Follows state pkts) : StreamDiscipline pkts where
  seq := follows.seq
  oneHeader := by
    rw [follows.headers]
    split <;> decide
  oneTerminator := follows.oneTerminator
  ends := follows.ends
  advances := by
    intro before p between q after split voice voice' quiet
    have positioned := follows.positioned
    rw [split, positioned_append] at positioned
    have later := (positioned_append.mp positioned.2.2).2
    have at' := (later.1 voice').1
    rw [foldl_nextPosition_fixed fun x member => by simp [nextPosition, quiet x member], nextPosition,
      isVoice_not_isVoiceHeader voice, voice] at at'
    exact at'
  restarts := by
    intro before h between q after split header voice noVoice
    have positioned := follows.positioned
    rw [split, positioned_append] at positioned
    have later := (positioned_append.mp positioned.2.2).2
    have at' := (later.1 voice).1
    rw [nextPosition, header, if_pos rfl,
      foldl_nextPosition_fixed fun x member => by simp [nextPosition, noVoice x member]] at at'
    exact at'
  sync := by
    intro p member voice
    obtain ⟨before, after, rfl⟩ := append_of_mem member
    have at' := (positioned_append.mp follows.positioned).2.1 voice
    rw [at'.1]
    exact at'.2

theorem Disciplined.discipline {t : Translator} (disciplined : Disciplined t history) (id : UInt64) :
    StreamDiscipline (ofStream history id) := by
  by_cases used : ∃ p ∈ history, p.streamID = id
  · obtain ⟨p, member, rfl⟩ := used
    obtain ⟨rss, inside, carries⟩ := disciplined.recorded.carried p member
    rw [carries]
    exact (disciplined.recorded.follows rss inside).discipline
  · have none : ofStream history id = [] := by
      rw [ofStream, filter_eq_nil_iff]
      intro p member same
      exact used ⟨p, member, beq_iff_eq.mp same⟩
    rw [none]
    exact (@follows_nil default rfl rfl rfl).discipline

theorem Disciplined.forgotten {t : Translator} (disciplined : Disciplined t history) {id : UInt64}
    (ended : ∃ p ∈ ofStream history id, isTerminator p = true) {callControl : UInt32} {rss : Ref}
    (present : t.reverseStreams.find callControl = some rss) :
    (t.reverseStreams.deref rss).streamID.toUInt64 ≠ id := by
  intro same
  obtain ⟨p, member, terminates⟩ := ended
  have running := disciplined.running callControl rss present
  rw [same] at running
  exact countP_eq_zero.mp running p member terminates

def configured (peerID : UInt32) (colorCode : UInt8) : Translator :=
  { newIPSCTranslator with repeaterID := peerID, colorCode := colorCode &&& 0x0F }

theorem disciplined_configured (peerID : UInt32) (colorCode : UInt8) : Disciplined (configured peerID colorCode) [] where
  recorded :=
    { counter := rfl
      numbers := fun rss inside => absurd inside (Nat.not_lt_zero rss)
      carried := by simp
      follows := fun rss inside => absurd inside (Nat.not_lt_zero rss) }
  running := by
    intro callControl rss present
    simp [configured, newIPSCTranslator] at present

theorem reverse_stream_discipline (dmrgo : Dmrgo) (peerID : UInt32) (colorCode : UInt8) (arrivals : List Arrival)
    (long : ∀ a ∈ arrivals, 31 ≤ a.data.length) :
    ∃ final emitted, (configured peerID colorCode).translateAll dmrgo arrivals = .ok (final, emitted) ∧
      (final.reverseStreams.next < 2 ^ 32 → ∀ id, StreamDiscipline (ofStream emitted id) ∧
          ((∃ p ∈ ofStream emitted id, isTerminator p = true) → ∀ callControl rss,
            final.reverseStreams.find callControl = some rss →
              (final.reverseStreams.deref rss).streamID.toUInt64 ≠ id)) := by
  obtain ⟨final, emitted, run, _, keeps⟩ :=
    @translateAll_disciplined dmrgo (configured peerID colorCode) [] arrivals long
  refine ⟨final, emitted, run, fun bound id => ?_⟩
  have disciplined := keeps (disciplined_configured peerID colorCode) bound
  exact ⟨disciplined.discipline id, fun ended callControl rss present => disciplined.forgotten ended present⟩

def mute : Dmrgo where
  decodeFromBits _ _ := none
  encodeFullLC _ := none
  encodeBurst _ := Vector.replicate 33 0

def atTime (now : Time) : ReverseEnv where
  now := now
  byTuple := .ranked UInt32.toNat fun _ _ => UInt32.toNat.inj
  byPeer := .ranked UInt32.toNat fun _ _ => UInt32.toNat.inj

def groupPacket (src callControl callInfo burstType : UInt8) : Bytes :=
  [0x80, 0, 0, 0, 1, 0, 0, 0, src, 0, 0, 9, 2, 0, 0, 0, callControl, callInfo] ++ List.replicate 12 0 ++
    [burstType] ++ List.replicate 23 0

theorem discipline_of_one_call :
    let arrivals : List Arrival :=
      [⟨atTime 1000, 0x80, groupPacket 5 1 0 0x01⟩, ⟨atTime 1060, 0x80, groupPacket 5 1 0 0x0A⟩,
        ⟨atTime 1120, 0x80, groupPacket 5 1 0x40 0x02⟩]
    ∃ final emitted, (configured 1 1).translateAll mute arrivals = .ok (final, emitted) ∧
      (final.reverseStreams.next < 2 ^ 32 → ∀ id, StreamDiscipline (ofStream emitted id) ∧
          ((∃ p ∈ ofStream emitted id, isTerminator p = true) → ∀ callControl rss,
            final.reverseStreams.find callControl = some rss →
              (final.reverseStreams.deref rss).streamID.toUInt64 ≠ id)) :=
  reverse_stream_discipline mute 1 1 _ (by decide)

end Ipsc2Mmdvm.Ipsc
