import Ipsc2Mmdvm.Ipsc.ForwardCalls
import Ipsc2Mmdvm.Ipsc.Headers

namespace Ipsc2Mmdvm.Ipsc

open Data Dmr Proto List PtrMap Function

/-! A packet is stamped with the counters of its stream, which then advance.  Several stream IDs may
stand for one stream; the call control is the number of the stream. -/

def rtpSeqOf (data : Bytes) : UInt16 := (data.getD 20 0).toUInt16 <<< 8 ||| (data.getD 21 0).toUInt16

def rtpTimestampOf (data : Bytes) : UInt32 := uint32At (slice data 22 26) 0

def endsCall (data : Bytes) : Bool := data.getD 17 0 &&& 0x40 != 0

structure Counters where
  callControl : UInt32
  rtpSeq : UInt16
  rtpTimestamp : UInt32

def Counters.advance (c : Counters) : Counters :=
  { c with rtpSeq := c.rtpSeq + 1, rtpTimestamp := c.rtpTimestamp + rtpTimestampIncrement }

def StreamState.counters (ss : StreamState) : Counters := ⟨ss.callControl, ss.rtpSeq, ss.rtpTimestamp⟩

def Counters.start (callControl : UInt32) : Counters := ⟨callControl, 0, 0⟩

def stampOf (data : Bytes) : Counters := ⟨callControlOf data, rtpSeqOf data, rtpTimestampOf data⟩

def Stamped : Counters → List Bytes → Prop
  | _, [] => True
  | c, data :: later => stampOf data = c ∧ Stamped c.advance later

open Counters

section

variable {c : Counters} {l m : List Bytes} {data : Bytes}

@[simp] theorem stamped_singleton : Stamped c [data] ↔ stampOf data = c := by
  simp [Stamped]

theorem stamped_append : Stamped c (l ++ m) ↔ Stamped c l ∧ Stamped (advance^[l.length] c) m := by
  induction l generalizing c with
  | nil => simp [Stamped]
  | cons data l ih => simp only [cons_append, Stamped, ih, length_cons, iterate_succ_apply, and_assoc]

theorem advance_iterate (n : Nat) (callControl : UInt32) :
    advance^[n] (.start callControl) = ⟨callControl, UInt16.ofNat n, UInt32.ofNat (480 * n)⟩ := by
  induction n with
  | zero => rfl
  | succ n ih =>
    rw [iterate_succ_apply', ih, advance, UInt16.ofNat_add, Nat.mul_add, UInt32.ofNat_add]
    rfl

@[simp] theorem advance_iterate_callControl (n : Nat) : (advance^[n] c).callControl = c.callControl := by
  induction n with
  | zero => rfl
  | succ n ih => rw [iterate_succ_apply', advance, ih]

theorem stampOf_of_stamped {k : Nat} (stamped : Stamped c l) (at' : l[k]? = some data) :
    stampOf data = advance^[k] c := by
  induction l generalizing c k with
  | nil => simp at at'
  | cons first later ih =>
    cases k with
    | zero =>
      cases at'
      exact stamped.1
    | succ k =>
      rw [iterate_succ_apply]
      exact ih stamped.2 at'

theorem callControlOf_of_stamped (stamped : Stamped c l) (member : data ∈ l) : callControlOf data = c.callControl := by
  obtain ⟨k, at'⟩ := mem_iff_getElem?.mp member
  have stamp := congrArg callControl (stampOf_of_stamped stamped at')
  rwa [advance_iterate_callControl] at stamp

end

section

variable {lib : BurstLibrary} {t : Forward} {pkt : Packet} {ss : StreamState} {isEnd isData marker : Bool}
  {payloadType : UInt8} {payload : Bytes}

theorem uint16_bytes (n : UInt16) : (n >>> 8).toUInt8.toUInt16 <<< 8 ||| n.toUInt8.toUInt16 = n := by
  have bound := n.toNat_lt
  apply UInt16.toNat_inj.mp
  simp only [UInt16.toNat_or, UInt16.toNat_shiftLeft, UInt8.toNat_toUInt16, UInt16.toNat_toUInt8, UInt16.toNat_shiftRight]
  have fits : (n.toNat / 256 % 256) <<< 8 % 65536 = (n.toNat / 256 % 256) <<< 8 := by
    simp only [Nat.shiftLeft_eq]
    omega
  simp [fits, Nat.shiftRight_eq_div_pow]
  rw [shiftLeft_or_byte _ (Nat.mod_lt _ (by decide))]
  omega

theorem stampOf_built :
    stampOf (buildIPSCHeader t pkt ss isEnd isData ++ (buildRTPHeader ss marker payloadType).1 ++ payload) =
      ss.counters := by
  have control := uint32At_putUint32 ss.callControl
  have seq := uint16_bytes ss.rtpSeq
  have timestamp := uint32At_putUint32 ss.rtpTimestamp
  exact congr (congr (congrArg mk control) seq) timestamp

theorem endsCall_built :
    endsCall (buildIPSCHeader t pkt ss isEnd isData ++ (buildRTPHeader ss marker payloadType).1 ++ payload) = isEnd := by
  have flag : (((if pkt.slot then 0x20 else 0x00) ||| (if isEnd then 0x40 else 0x00) : UInt8) &&& 0x40 != 0) = isEnd := by
    cases pkt.slot <;> cases isEnd <;> rfl
  exact flag

inductive FrameStep (t : Forward) (ref : Ref) : Forward × List Bytes → Prop where
  | silent : FrameStep t ref (t, [])
  | sends {state : StreamState} {data : List Bytes} (stamped : Stamped (t.streams.deref ref).counters data)
      (advanced : state.counters = Counters.advance^[data.length] (t.streams.deref ref).counters)
      (running : ∀ d ∈ data, endsCall d = false) : FrameStep t ref (t.put ref state, data)
  | ends {state : StreamState} {data : Bytes} (stamped : stampOf data = (t.streams.deref ref).counters)
      (advanced : state.counters = (t.streams.deref ref).counters.advance) (ended : endsCall data = true) :
      FrameStep t ref ((t.put ref state).removeForwardStreamAliases ref, [data])

theorem translateFrame_step (ref : Ref) : FrameStep t ref (t.translateFrame lib pkt ref) := by
  have lc (ss : StreamState) (isEnd isData marker : Bool) (payloadType burstType rssi : UInt8) :
      stampOf (buildLCPacket lib t pkt ss isEnd isData marker payloadType burstType rssi).1 = ss.counters ∧
        endsCall (buildLCPacket lib t pkt ss isEnd isData marker payloadType burstType rssi).1 = isEnd := by
    rw [buildLCPacket_eq]
    exact ⟨stampOf_built, endsCall_built⟩
  by_cases sync : pkt.frameType = frameTypeDataSync
  · by_cases header : pkt.dtypeOrVSeq = dataTypeVoiceLCHeader.toUInt64
    · rw [translateFrame_header (isVoiceHeader_iff.mpr ⟨sync, header⟩), voiceHeaders_eq]
      obtain ⟨first, firstRuns⟩ := lc (t.streams.deref ref) false false (t.streams.deref ref).firstPacket 0x5D ipscBurstVoiceHead 0x80
      obtain ⟨second, secondRuns⟩ :=
        lc (buildVoiceHeader lib t pkt (t.streams.deref ref) (t.streams.deref ref).firstPacket).2 false false false 0x5D ipscBurstVoiceHead 0x80
      refine .sends ⟨first, second, trivial⟩ rfl fun d member => ?_
      simp only [mem_cons, not_mem_nil, or_false] at member
      obtain rfl | rfl := member
      · exact firstRuns
      · exact secondRuns
    · by_cases terminator : pkt.dtypeOrVSeq = dataTypeTerminatorWithLC.toUInt64
      · rw [translateFrame_terminator (isTerminator_iff.mpr ⟨sync, terminator⟩)]
        obtain ⟨stamp, ended⟩ := lc (t.streams.deref ref) true false false 0x5E ipscBurstVoiceTerm 0x80
        exact .ends stamp rfl ended
      · cases forwarded : isForwardedData pkt.dtypeOrVSeq with
        | true =>
          rw [translateFrame_data sync forwarded]
          obtain ⟨stamp, running⟩ := lc (t.streams.deref ref) false true (t.streams.deref ref).firstPacket 0x5D pkt.dtypeOrVSeq.toUInt8 0xC0
          refine .sends (stamped_singleton.mpr stamp) rfl fun d member => ?_
          rw [mem_singleton.mp member]
          exact running
        | false =>
          rw [Forward.translateFrame, if_pos sync, if_neg header, if_neg terminator, forwarded]
          exact .silent
  · cases voice : isVoice pkt with
    | true =>
      rw [translateFrame_voice voice]
      cases isData : (lib.decodeFromBytes pkt.dmrData).isData with
      | true =>
        rw [buildVoiceBurst_data _ isData]
        exact .sends trivial rfl fun d member => by cases member
      | false =>
        rw [buildVoiceBurst_eq _ isData]
        refine .sends (stamped_singleton.mpr stampOf_built) rfl fun d member => ?_
        rw [mem_singleton.mp member]
        exact endsCall_built
    | false =>
      have other : ¬(pkt.frameType = frameTypeVoice ∨ pkt.frameType = frameTypeVoiceSync) := by
        rw [← isVoice_iff, voice]
        decide
      rw [Forward.translateFrame, if_neg sync, if_neg other]
      exact .silent

inductive StreamStep (t : Forward) (id : UInt32) : Forward × Ref → Prop where
  | known {ref : Ref} (bound : t.streams.find id = some ref) : StreamStep t id (t, ref)
  | shared {ref : Ref} {other : UInt32} (bound : t.streams.find other = some ref) :
      StreamStep t id ({ t with streams := t.streams.store id ref }, ref)
  | fresh (state : StreamState)
      (first : state.counters = .start (if t.nextCallControl + 1 = 0 then 1 else t.nextCallControl + 1)) :
      StreamStep t id
        ({ t with nextCallControl := state.callControl, streams := (t.streams.alloc state).store id t.streams.next },
          t.streams.next)

theorem forwardStream_step (env : ForwardEnv) : StreamStep t pkt.streamID.toUInt32 (t.forwardStream env pkt) := by
  simp only [Forward.forwardStream]
  split
  · exact .known ‹_›
  · split
    · rename_i stream recent
      split at recent
      · obtain ⟨⟨other, _⟩, picked, equal⟩ := Option.map_eq_some_iff.mp recent
        cases equal
        exact .shared (findWhere_some picked).1
      · cases recent
    · exact .fresh _ rfl

end

def ofCallControl (sent : List Bytes) (callControl : UInt32) : List Bytes :=
  sent.filter fun data => callControlOf data == callControl

structure Forward.Numbered (t : Forward) (sent : List Bytes) : Prop where
  counter : t.nextCallControl.toNat = t.streams.next
  controls : ∀ ref < t.streams.next, (t.streams.deref ref).callControl.toNat = ref + 1
  carried : ∀ data ∈ sent, ∃ ref < t.streams.next, callControlOf data = (t.streams.deref ref).callControl
  stamped : ∀ ref < t.streams.next, Stamped (.start (t.streams.deref ref).callControl)
    (ofCallControl sent (t.streams.deref ref).callControl)
  counters : ∀ ref < t.streams.next, (t.streams.deref ref).counters =
    Counters.advance^[(ofCallControl sent (t.streams.deref ref).callControl).length] (.start (t.streams.deref ref).callControl)
  ends : sent.Pairwise fun first later => endsCall first = true → callControlOf later ≠ callControlOf first

def Forward.calls (t : Forward) : Nat := t.streams.next

def Forward.Running (t : Forward) (sent : List Bytes) : Prop :=
  ∀ id ref, t.streams.find id = some ref → ∀ data ∈ sent, endsCall data = true →
    callControlOf data ≠ (t.streams.deref ref).callControl

section

variable {lib : BurstLibrary} {env : ForwardEnv} {t : Forward} {pkt : Packet} {sent data : List Bytes}
  {ref other : Ref} {id : UInt32} {state : StreamState} {callControl : UInt32} {found : Forward × Ref}
  {result : Forward × List Bytes}

theorem ofCallControl_append_same (same : ∀ d ∈ data, callControlOf d = callControl) :
    ofCallControl (sent ++ data) callControl = ofCallControl sent callControl ++ data := by
  rw [ofCallControl, filter_append, filter_eq_self.mpr fun d member => beq_iff_eq.mpr (same d member)]
  rfl

theorem ofCallControl_append_other (other : ∀ d ∈ data, callControlOf d ≠ callControl) :
    ofCallControl (sent ++ data) callControl = ofCallControl sent callControl := by
  have none : data.filter (fun d => callControlOf d == callControl) = [] :=
    filter_eq_nil_iff.mpr fun d member => by simpa using other d member
  rw [ofCallControl, filter_append, none, append_nil]
  rfl

theorem Forward.Numbered.callControl_ne (numbered : t.Numbered sent) (inside : ref < t.streams.next)
    (inside' : other < t.streams.next) (differ : other ≠ ref) :
    (t.streams.deref ref).callControl ≠ (t.streams.deref other).callControl := by
  intro same
  have number := numbered.controls ref inside
  rw [same, numbered.controls other inside'] at number
  exact differ (Nat.succ.inj number)

theorem callControl_put (same : state.callControl = (t.streams.deref ref).callControl) (other : Ref) :
    ((t.put ref state).streams.deref other).callControl = (t.streams.deref other).callControl := by
  rw [forward_deref_put]
  split
  · rename_i equal
    rw [equal, same]
  · rfl

theorem Forward.Numbered.emit (numbered : t.Numbered sent) (running : t.Running sent) (bound : t.streams.find id = some ref)
    (stamped : Stamped (t.streams.deref ref).counters data)
    (advanced : state.counters = advance^[data.length] (t.streams.deref ref).counters)
    (ends : data.Pairwise fun first later => endsCall first = true → callControlOf later ≠ callControlOf first) :
    (t.put ref state).Numbered (sent ++ data) := by
  have inside := lt_next bound
  have own : ∀ d ∈ data, callControlOf d = (t.streams.deref ref).callControl :=
    fun d member => callControlOf_of_stamped stamped member
  have control : state.callControl = (t.streams.deref ref).callControl := by
    have same := congrArg callControl advanced
    rwa [advance_iterate_callControl] at same
  have kept := callControl_put control
  have foreign {other : Ref} (inside' : other < t.streams.next) (differ : other ≠ ref) :
      ofCallControl (sent ++ data) (t.streams.deref other).callControl = ofCallControl sent (t.streams.deref other).callControl :=
    ofCallControl_append_other fun d member => own d member ▸ numbered.callControl_ne inside inside' differ
  have extended := @ofCallControl_append_same sent data _ own
  exact
    { counter := numbered.counter
      controls := fun other inside' => by
        rw [kept]
        exact numbered.controls other inside'
      carried := by
        intro d member
        rcases mem_append.mp member with earlier | new
        · obtain ⟨other, inside', same⟩ := numbered.carried d earlier
          exact ⟨other, inside', by rw [kept, same]⟩
        · exact ⟨ref, inside, by rw [kept, own d new]⟩
      stamped := by
        intro other inside'
        rw [kept]
        by_cases same : other = ref
        · subst same
          rw [extended, stamped_append, ← numbered.counters other inside']
          exact ⟨numbered.stamped other inside', stamped⟩
        · rw [foreign inside' same]
          exact numbered.stamped other inside'
      counters := by
        intro other inside'
        rw [kept, forward_deref_put]
        by_cases same : other = ref
        · subst same
          rw [if_pos rfl, extended, length_append, Nat.add_comm, iterate_add_apply,
            ← numbered.counters other inside', advanced]
        · rw [if_neg same, foreign inside' same]
          exact numbered.counters other inside'
      ends := by
        refine pairwise_append.mpr ⟨numbered.ends, ends, fun first earlier later new ended => ?_⟩
        rw [own later new]
        exact (running id ref bound first earlier ended).symm }

theorem Forward.Running.emit (running : t.Running sent) (control : state.callControl = (t.streams.deref ref).callControl)
    (open' : ∀ d ∈ data, endsCall d = false) : (t.put ref state).Running (sent ++ data) := by
  intro id other bound d member ended
  rw [callControl_put control]
  rcases mem_append.mp member with earlier | new
  · exact running id other bound d earlier ended
  · rw [open' d new] at ended
    cases ended

theorem Forward.Running.terminate (running : t.Running sent) (numbered : t.Numbered sent) {terminator : Bytes}
    (inside : ref < t.streams.next) (control : state.callControl = (t.streams.deref ref).callControl)
    (own : callControlOf terminator = (t.streams.deref ref).callControl) :
    ((t.put ref state).removeForwardStreamAliases ref).Running (sent ++ [terminator]) := by
  intro id other bound d member ended
  obtain ⟨bound, kept⟩ := find_deleteWhere.mp bound
  have bound : t.streams.find id = some other := bound
  have same : (((t.put ref state).removeForwardStreamAliases ref).streams.deref other).callControl =
      (t.streams.deref other).callControl := callControl_put control other
  rw [same]
  rcases mem_append.mp member with earlier | new
  · exact running id other bound d earlier ended
  · rw [mem_singleton.mp new, own]
    exact numbered.callControl_ne inside (lt_next bound) (by simpa using kept)

theorem Forward.Numbered.removeForwardStreamAliases (numbered : t.Numbered sent) :
    (t.removeForwardStreamAliases ref).Numbered sent where
  counter := numbered.counter
  controls := numbered.controls
  carried := numbered.carried
  stamped := numbered.stamped
  counters := numbered.counters
  ends := numbered.ends

theorem StreamStep.bound (step : StreamStep t id found) : found.1.streams.find id = some found.2 := by
  cases step with
  | known bound => exact bound
  | shared bound =>
    dsimp only
    rw [find_store (lt_next bound), if_pos rfl]
  | fresh state first =>
    dsimp only
    rw [find_create, if_pos rfl]

theorem StreamStep.calls_le (step : StreamStep t id found) : t.calls ≤ found.1.calls := by
  cases step with
  | known bound => exact Nat.le_refl _
  | shared | fresh => simp [Forward.calls]

theorem Forward.Numbered.nextCallControl (numbered : t.Numbered sent) (few : t.streams.next + 1 < 2 ^ 32) :
    (if t.nextCallControl + 1 = 0 then 1 else t.nextCallControl + 1).toNat = t.streams.next + 1 := by
  have next : (t.nextCallControl + 1).toNat = t.streams.next + 1 := by
    have sum := UInt32.toNat_add t.nextCallControl 1
    rw [numbered.counter] at sum
    rw [sum]
    exact Nat.mod_eq_of_lt few
  have some : t.nextCallControl + 1 ≠ 0 := by
    intro zero
    rw [zero] at next
    cases next
  rw [if_neg some, next]

theorem Forward.Numbered.fresh (numbered : t.Numbered sent) (number : state.callControl.toNat = t.streams.next + 1) :
    ∀ d ∈ sent, callControlOf d ≠ state.callControl := by
  intro d member same
  obtain ⟨ref, inside, carried⟩ := numbered.carried d member
  have numbers := numbered.controls ref inside
  rw [← carried, same, number] at numbers
  exact Nat.ne_of_lt inside (Nat.succ.inj numbers).symm

theorem StreamStep.numbered (step : StreamStep t id found) (numbered : t.Numbered sent) (running : t.Running sent)
    (few : found.1.calls < 2 ^ 32) : found.1.Numbered sent ∧ found.1.Running sent := by
  cases step with
  | known bound => exact ⟨numbered, running⟩
  | @shared ref other bound =>
    refine ⟨⟨?_, ?_, ?_, ?_, ?_, numbered.ends⟩, ?_⟩
    · simpa using numbered.counter
    · simpa using numbered.controls
    · simpa using numbered.carried
    · simpa using numbered.stamped
    · simpa using numbered.counters
    · intro key held held'
      dsimp only at held'
      rw [find_store (lt_next bound)] at held'
      rw [deref_store]
      split at held'
      · cases held'
        exact running other ref bound
      · exact running key held held'
  | fresh state first =>
    have number : state.callControl.toNat = t.streams.next + 1 := by
      have control : state.callControl = _ := congrArg callControl first
      rw [control]
      exact numbered.nextCallControl (by simpa [Forward.calls] using few)
    have unused := numbered.fresh number
    have nothing : ofCallControl sent state.callControl = [] :=
      filter_eq_nil_iff.mpr fun d member => by simpa using unused d member
    have start : state.counters = .start state.callControl := by
      rw [first]
      exact congrArg start (congrArg callControl first).symm
    have heap (ref : Ref) : ((t.streams.alloc state).store id t.streams.next).deref ref =
        if ref = t.streams.next then state else t.streams.deref ref := by
      rw [deref_store, deref_alloc]
    have older {ref : Ref} (inside : ref < ((t.streams.alloc state).store id t.streams.next).next)
        (differ : ref ≠ t.streams.next) : ref < t.streams.next := by
      rw [next_store, next_alloc] at inside
      exact Nat.lt_of_le_of_ne (Nat.le_of_lt_succ inside) differ
    refine ⟨⟨?_, ?_, ?_, ?_, ?_, numbered.ends⟩, ?_⟩
    · simpa using number
    · intro ref inside
      rw [heap]
      split
      · rename_i new
        rw [number, new]
      · exact numbered.controls ref (older inside ‹_›)
    · intro d member
      obtain ⟨ref, inside, carried⟩ := numbered.carried d member
      refine ⟨ref, by simpa using Nat.lt_succ_of_lt inside, ?_⟩
      rw [heap, if_neg (Nat.ne_of_lt inside), carried]
    · intro ref inside
      rw [heap]
      split
      · rw [nothing]
        trivial
      · exact numbered.stamped ref (older inside ‹_›)
    · intro ref inside
      rw [heap]
      split
      · rw [nothing, start]
        rfl
      · exact numbered.counters ref (older inside ‹_›)
    · intro key held held'
      dsimp only at held'
      rw [find_create] at held'
      rw [heap]
      split at held'
      · cases held'
        rw [if_pos rfl]
        exact fun d member _ => unused d member
      · rw [if_neg (Nat.ne_of_lt (lt_next held'))]
        exact running key held held'

theorem FrameStep.calls_eq (step : FrameStep t ref result) : result.1.calls = t.calls := by
  cases step <;> rfl

theorem FrameStep.numbered (step : FrameStep t ref result) (numbered : t.Numbered sent) (running : t.Running sent)
    (bound : t.streams.find id = some ref) :
    result.1.Numbered (sent ++ result.2) ∧ result.1.Running (sent ++ result.2) := by
  cases step with
  | silent =>
    rw [append_nil]
    exact ⟨numbered, running⟩
  | @sends state data stamped advanced open' =>
    have control : state.callControl = (t.streams.deref ref).callControl := by
      have same := congrArg callControl advanced
      rwa [advance_iterate_callControl] at same
    have ends : data.Pairwise fun first later => endsCall first = true → callControlOf later ≠ callControlOf first := by
      refine pairwise_of_forall_mem_list fun first member later _ ended => ?_
      rw [open' first member] at ended
      cases ended
    exact ⟨numbered.emit running bound stamped advanced ends, running.emit control open'⟩
  | @ends state terminator stamped advanced ended =>
    have control : state.callControl = (t.streams.deref ref).callControl := congrArg callControl advanced
    have own : callControlOf terminator = (t.streams.deref ref).callControl := congrArg callControl stamped
    have emitted := numbered.emit running bound (stamped_singleton.mpr stamped) advanced (pairwise_singleton ..)
    exact ⟨emitted.removeForwardStreamAliases, running.terminate numbered (lt_next bound) control own⟩

theorem translateToIPSC_numbered (lib : BurstLibrary) (env : ForwardEnv) (t : Forward) (pkt : Packet) :
    t.calls ≤ (t.translateToIPSC lib env pkt).1.calls ∧
      (t.Numbered sent → t.Running sent → (t.translateToIPSC lib env pkt).1.calls < 2 ^ 32 →
        (t.translateToIPSC lib env pkt).1.Numbered (sent ++ (t.translateToIPSC lib env pkt).2) ∧
          (t.translateToIPSC lib env pkt).1.Running (sent ++ (t.translateToIPSC lib env pkt).2)) := by
  by_cases large : pkt.streamID > 0xFFFFFFFF
  · rw [Forward.translateToIPSC, if_pos large, append_nil]
    exact ⟨Nat.le_refl _, fun numbered running _ => ⟨numbered, running⟩⟩
  · rw [translateToIPSC_eq large]
    have lookup := @forwardStream_step t pkt env
    have bound := lookup.bound
    have grows := lookup.calls_le
    have found := @StreamStep.numbered t sent pkt.streamID.toUInt32 _ lookup
    generalize (t.forwardStream env pkt).1 = source at *
    generalize (t.forwardStream env pkt).2 = ref at *
    have frame := @translateFrame_step lib (source.put ref (touched env pkt (source.streams.deref ref))) pkt ref
    have same : ((source.put ref (touched env pkt (source.streams.deref ref))).translateFrame lib pkt ref).1.calls = source.calls :=
      frame.calls_eq
    rw [same]
    refine ⟨grows, fun numbered running few => ?_⟩
    obtain ⟨numbered, running⟩ := found numbered running few
    -- marking the stream as seen sends nothing
    obtain ⟨seen, seenRunning⟩ := FrameStep.numbered
      (@FrameStep.sends source ref (touched env pkt (source.streams.deref ref)) [] trivial rfl (by simp))
      numbered running bound
    rw [append_nil] at seen seenRunning
    exact frame.numbered seen seenRunning bound

theorem translateEach_numbered (lib : BurstLibrary) (t : Forward) (steps : List (ForwardEnv × Packet)) :
    t.calls ≤ (t.translateEach lib steps).1.calls ∧
      (t.Numbered sent → t.Running sent → (t.translateEach lib steps).1.calls < 2 ^ 32 →
        (t.translateEach lib steps).1.Numbered (sent ++ (t.translateEach lib steps).2.flatten) ∧
          (t.translateEach lib steps).1.Running (sent ++ (t.translateEach lib steps).2.flatten)) := by
  induction steps generalizing t sent with
  | nil =>
    rw [Forward.translateEach, flatten_nil, append_nil]
    exact ⟨Nat.le_refl _, fun numbered running _ => ⟨numbered, running⟩⟩
  | cons step later ih =>
    obtain ⟨env, pkt⟩ := step
    obtain ⟨grows, keeps⟩ := @translateToIPSC_numbered sent lib env t pkt
    obtain ⟨grows', keeps'⟩ := @ih (sent ++ (t.translateToIPSC lib env pkt).2) (t.translateToIPSC lib env pkt).1
    rw [translateEach_cons rfl, flatten_cons, ← append_assoc]
    refine ⟨grows.trans grows', fun numbered running few => ?_⟩
    obtain ⟨numbered, running⟩ := keeps numbered running (grows'.trans_lt few)
    exact keeps' numbered running few

end

theorem newForward_numbered (peerID : UInt32) : (newForward peerID).Numbered [] where
  counter := rfl
  controls := fun ref inside => absurd inside (Nat.not_lt_zero ref)
  carried := by simp
  stamped := fun ref inside => absurd inside (Nat.not_lt_zero ref)
  counters := fun ref inside => absurd inside (Nat.not_lt_zero ref)
  ends := .nil

/-- The packets that carry one call control are numbered from zero, none carries the call
control zero, and after the terminator of a call nothing refers to it. -/
theorem forward_call_numbering (lib : BurstLibrary) (peerID : UInt32) (steps : List (ForwardEnv × Packet))
    (few : ((newForward peerID).translateEach lib steps).1.calls < 2 ^ 32) :
    (∀ callControl k data,
        (ofCallControl ((newForward peerID).translateEach lib steps).2.flatten callControl)[k]? = some data →
        rtpSeqOf data = UInt16.ofNat k ∧ rtpTimestampOf data = UInt32.ofNat (480 * k)) ∧
      (∀ data ∈ ((newForward peerID).translateEach lib steps).2.flatten, callControlOf data ≠ 0) ∧
      (((newForward peerID).translateEach lib steps).2.flatten.Pairwise fun first later =>
        endsCall first = true → callControlOf later ≠ callControlOf first) ∧
      ∀ before later, steps = before ++ later →
        ∀ data ∈ ((newForward peerID).translateEach lib before).2.flatten, endsCall data = true →
        ∀ id ref, ((newForward peerID).translateEach lib before).1.streams.find id = some ref →
          (((newForward peerID).translateEach lib before).1.streams.deref ref).callControl ≠ callControlOf data := by
  have reached (steps : List (ForwardEnv × Packet)) (few : ((newForward peerID).translateEach lib steps).1.calls < 2 ^ 32) :
      ((newForward peerID).translateEach lib steps).1.Numbered ((newForward peerID).translateEach lib steps).2.flatten ∧
        ((newForward peerID).translateEach lib steps).1.Running ((newForward peerID).translateEach lib steps).2.flatten :=
    (@translateEach_numbered [] lib (newForward peerID) steps).2 (newForward_numbered peerID) (by simp [Forward.Running]) few
  have numbered := (reached steps few).1
  refine ⟨fun callControl k data at' => ?_, fun data member zero => ?_, numbered.ends, ?_⟩
  · have member := List.mem_filter.mp (List.mem_of_getElem? at')
    obtain ⟨ref, inside, carried⟩ := numbered.carried data member.1
    rw [eq_of_beq member.2] at carried
    subst carried
    have stamp := stampOf_of_stamped (numbered.stamped ref inside) at'
    rw [advance_iterate] at stamp
    exact ⟨congrArg Counters.rtpSeq stamp, congrArg Counters.rtpTimestamp stamp⟩
  · obtain ⟨ref, inside, carried⟩ := numbered.carried data member
    have number := numbered.controls ref inside
    rw [← carried, zero] at number
    cases number
  · intro before later split data member ended id ref bound
    rw [split, translateEach_append] at few
    have few := (@translateEach_numbered [] lib _ later).1.trans_lt few
    exact ((reached before few).2 id ref bound data member ended).symm

def switchedCall : List (ForwardEnv × Packet) :=
  let env : ForwardEnv := ⟨1, 1, .ranked UInt32.toNat injective_toNat_uint32⟩
  let pkt : Packet := { src := 5, dst := 9, groupCall := true }
  [(env, { pkt with streamID := 1, frameType := 2, dtypeOrVSeq := 1 }), (env, { pkt with streamID := 2, frameType := 1 }),
    (env, { pkt with streamID := 2, frameType := 2, dtypeOrVSeq := 2 })]

theorem forward_call_numbering_switched :
    ((newForward 1).translateEach plainLibrary switchedCall).1.calls = 1 ∧
      ∃ terminator, (ofCallControl ((newForward 1).translateEach plainLibrary switchedCall).2.flatten 1)[3]? = some terminator ∧
        endsCall terminator = true ∧ rtpSeqOf terminator = 3 ∧ rtpTimestampOf terminator = 1440 := by
  have last : (ofCallControl ((newForward 1).translateEach plainLibrary switchedCall).2.flatten 1)[3]?.map endsCall =
      some true := by decide +kernel
  obtain ⟨terminator, at', ended⟩ := Option.map_eq_some_iff.mp last
  exact ⟨by decide +kernel, terminator, at', ended,
    (forward_call_numbering plainLibrary 1 switchedCall (by decide +kernel)).1 1 3 terminator at'⟩

end Ipsc2Mmdvm.Ipsc
