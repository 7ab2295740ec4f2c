import Ipsc2Mmdvm.Data.Transitions
import Ipsc2Mmdvm.Hytera.Outbound

namespace Ipsc2Mmdvm.Hytera

open Data Dmr Proto List

/-! A number is taken before a packet is encoded.  If it cannot be encoded, or if there is no
address to send it to, the number is lost. -/

/-- The packets since a switch are numbered from 1 on; `last` is the number before the events.
Startup packets and packets that cannot be encoded have none. -/
def Consecutive : UInt8 → List OutEvent → Prop
  | _, [] => True
  | _, .switch _ :: events => Consecutive 0 events
  | last, .startup _ _ :: events => Consecutive last events
  | last, .encoded data _ :: events => data.getD 4 0 = last + 1 ∧ Consecutive (last + 1) events
  | last, .rejected _ :: events => Consecutive last events

def lastNumber : UInt8 → List OutEvent → UInt8
  | last, [] => last
  | _, .switch _ :: events => lastNumber 0 events
  | last, .startup _ _ :: events => lastNumber last events
  | _, .encoded data _ :: events => lastNumber (data.getD 4 0) events
  | last, .rejected _ :: events => lastNumber last events

structure NoHoles (first : UInt8) (out : Outgoing) : Prop where
  consecutive : Consecutive first out.events
  counter : out.st.outSeq = lastNumber first out.events

theorem lastNumber_append (first : UInt8) (events later : List OutEvent) :
    lastNumber first (events ++ later) = lastNumber (lastNumber first events) later := by
  induction events generalizing first with
  | nil => rfl
  | cons event events ih => cases event <;> exact ih _

theorem consecutive_append (first : UInt8) (events later : List OutEvent) :
    Consecutive first (events ++ later) ↔ Consecutive first events ∧ Consecutive (lastNumber first events) later := by
  induction events generalizing first with
  | nil => simp [Consecutive, lastNumber]
  | cons event events ih =>
    cases event with
    | encoded data addrs =>
      simp only [cons_append, Consecutive, lastNumber, ih, and_assoc]
      refine and_congr_right ?_
      intro numbered
      rw [numbered]
    | switch | startup | rejected => exact ih _

theorem noHoles_append {first : UInt8} {before out : Outgoing} (kept : NoHoles first before) :
    NoHoles first { out with events := before.events ++ out.events } ↔ NoHoles before.st.outSeq out := by
  rw [kept.counter]
  constructor
  · intro whole
    exact ⟨((consecutive_append ..).mp whole.consecutive).2, whole.counter.trans (lastNumber_append ..)⟩
  · intro rest
    exact ⟨(consecutive_append ..).mpr ⟨kept.consecutive, rest.consecutive⟩, rest.counter.trans (lastNumber_append ..).symm⟩

theorem noHoles_startups {first : UInt8} {out : Outgoing} (kept : NoHoles first out) {events : List OutEvent}
    (startups : ∀ event ∈ events, ∃ data addrs, event = .startup data addrs) {st : OutSlot} (same : st.outSeq = out.st.outSeq) :
    NoHoles first { st, events := out.events ++ events } := by
  have silent (last : UInt8) : Consecutive last events ∧ lastNumber last events = last := by
    induction events with
    | nil => exact ⟨trivial, rfl⟩
    | cons event events ih =>
      obtain ⟨data, addrs, startup⟩ := startups event mem_cons_self
      subst startup
      exact ih fun event member => startups event (mem_cons_of_mem _ member)
  refine ⟨(consecutive_append ..).mpr ⟨kept.consecutive, (silent _).1⟩, ?_⟩
  rw [lastNumber_append, (silent _).2]
  exact same.trans kept.counter

def Encodable (pkt : Packet) : Prop := ∃ kind, encodeSlotType pkt = .ok kind

variable {pkt : Packet}

theorem encodable_of_isLCHeader (header : isLCHeader pkt = true) : Encodable pkt := by
  simp only [isLCHeader, Bool.and_eq_true, beq_iff_eq] at header
  refine ⟨(.voiceLCHeader, packetTypeA), ?_⟩
  simp only [encodeSlotType, header.1, header.2]
  rfl

theorem encodable_congr {other : Packet} (frameType : other.frameType = pkt.frameType)
    (dtype : other.dtypeOrVSeq = pkt.dtypeOrVSeq) : Encodable other ↔ Encodable pkt := by
  simp only [Encodable, encodeSlotType, frameType, dtype]

theorem encodeFromMMDVMWithState_ok (cfg : Option UInt8) (encodable : Encodable pkt) (outSeq : UInt8) :
    ∃ data, encodeFromMMDVMWithState cfg pkt outSeq = (outSeq + 1, .ok data) ∧ data.getD 4 0 = outSeq + 1 := by
  obtain ⟨⟨slotType, packetType⟩, kind⟩ := encodable
  have size : pkt.dmrData.toList.length = 33 := pkt.dmrData.size_toArray
  obtain ⟨payload, swapped, length, -⟩ := @swapDMRPayload_swapDMRPayload pkt.dmrData.toList (by rw [size])
  rw [size] at length
  refine ⟨encodeHeader cfg pkt.slot (outSeq + 1) packetType slotType ++ payload ++ encodeTail pkt, ?_, rfl⟩
  simp only [encodeFromMMDVMWithState, kind, swapped, Option.getD_some, length, ne_eq, not_true_eq_false, if_false]

theorem encodeFromMMDVMWithState_error (cfg : Option UInt8) (refused : ¬Encodable pkt) (outSeq : UInt8) :
    ∃ reason, encodeFromMMDVMWithState cfg pkt outSeq = (outSeq + 1, .error reason) := by
  simp only [encodeFromMMDVMWithState]
  cases kind : encodeSlotType pkt with
  | ok kind' => exact absurd ⟨kind', kind⟩ refused
  | error reason => exact ⟨reason, rfl⟩

theorem getD_setHyteraHeaderColorCode (data : Bytes) (colorCode : UInt8) :
    (setHyteraHeaderColorCode data colorCode).getD 4 0 = data.getD 4 0 := by
  simp only [setHyteraHeaderColorCode]
  split
  case isTrue => rfl
  case isFalse long =>
    simp only [writeAt, append_assoc]
    rw [getD_append _ _ _ _ (by rw [length_take]; omega), getD_eq_getElem?_getD, getD_eq_getElem?_getD,
      getElem?_take, if_pos (by omega)]

section

variable {env : OutEnv} {sourceKey : String} {pkt : Packet} {fromMoto : Bool} {motoCC : UInt8} {first : UInt8}
  {out : Outgoing} {progress : Progress}

def GoesOn (first : UInt8) (progress : Progress) : Prop := ∃ out, progress = .ok out ∧ NoHoles first out

def Loses (first : UInt8) (progress : Progress) : Prop := ∃ out, progress = .error out ∧ ¬NoHoles first out

theorem GoesOn.bind {rest : Outgoing → Progress} (goesOn : GoesOn first progress) {Conclusion : Progress → Prop}
    (continues : ∀ out, NoHoles first out → Conclusion (rest out)) :
    Conclusion (progress >>= rest) := by
  obtain ⟨out, done, kept⟩ := goesOn
  rw [done]
  exact continues out kept

theorem goesOn_repeatedly {body : Outgoing → Progress} (each : ∀ out, NoHoles first out → GoesOn first (body out))
    (count : Nat) (kept : NoHoles first out) : GoesOn first (repeatedly body count out) := by
  induction count generalizing out with
  | zero => exact ⟨out, rfl, kept⟩
  | succ count ih => exact (each out kept).bind fun _ kept => ih kept

theorem loses_of_taken {st : OutSlot} {events : List OutEvent} (kept : NoHoles first out) (taken : st.outSeq = out.st.outSeq + 1)
    (unsent : lastNumber first events = lastNumber first out.events) : Loses first (.error { st, events }) := by
  refine ⟨_, rfl, ?_⟩
  intro keptAfter
  have same := keptAfter.counter
  simp only [taken, unsent, ← kept.counter] at same
  exact absurd (UInt8.add_eq_left.mp same) (by decide)

theorem sendSync_goesOn (reached : targetDMRAddrs env sourceKey ≠ []) (kept : NoHoles first out) :
    GoesOn first (sendSync env sourceKey pkt fromMoto motoCC out) := by
  simp only [sendSync]
  split
  · exact ⟨out, rfl, kept⟩
  · simp only [sendEncodedToHytera]
    split
    case h_1 unreached => exact absurd unreached reached
    case h_2 =>
      refine ⟨_, rfl, noHoles_startups kept ?_ rfl⟩
      intro event member
      exact ⟨_, _, mem_singleton.mp member⟩

theorem encodeAndSend_goesOn (reached : targetDMRAddrs env sourceKey ≠ []) (encodable : Encodable pkt)
    (kept : NoHoles first out) : GoesOn first (encodeAndSend env sourceKey pkt fromMoto motoCC out) := by
  obtain ⟨data, encoded, number⟩ := encodeFromMMDVMWithState_ok env.cfg encodable out.st.outSeq
  simp only [encodeAndSend, encoded, sendEncodedToHytera]
  split
  case h_1 unreached => exact absurd unreached reached
  case h_2 =>
    have carried : (if fromMoto = true then setHyteraHeaderColorCode data motoCC else data).getD 4 0 = out.st.outSeq + 1 := by
      split
      · rw [getD_setHyteraHeaderColorCode, number]
      · exact number
    refine ⟨_, rfl, (consecutive_append ..).mpr ⟨kept.consecutive, ?_, trivial⟩, ?_⟩
    · rw [← kept.counter, carried]
    · rw [lastNumber_append]
      exact carried.symm

theorem encodeAndSend_loses_of_refused (refused : ¬Encodable pkt) (kept : NoHoles first out) :
    Loses first (encodeAndSend env sourceKey pkt fromMoto motoCC out) := by
  obtain ⟨reason, failed⟩ := encodeFromMMDVMWithState_error env.cfg refused out.st.outSeq
  simp only [encodeAndSend, failed]
  exact loses_of_taken kept rfl (lastNumber_append ..)

theorem encodeAndSend_loses_of_unreached (unreached : targetDMRAddrs env sourceKey = []) (kept : NoHoles first out) :
    Loses first (encodeAndSend env sourceKey pkt fromMoto motoCC out) := by
  by_cases encodable : Encodable pkt
  · obtain ⟨data, encoded, -⟩ := encodeFromMMDVMWithState_ok env.cfg encodable out.st.outSeq
    simp only [encodeAndSend, encoded, sendEncodedToHytera, unreached]
    exact loses_of_taken kept rfl rfl
  · exact encodeAndSend_loses_of_refused encodable kept

theorem Loses.bind (loses : Loses first progress) (rest : Outgoing → Progress) : Loses first (progress >>= rest) := by
  obtain ⟨out, failed, hole⟩ := loses
  rw [failed]
  exact ⟨out, rfl, hole⟩

theorem GoesOn.noHoles (goesOn : GoesOn first progress) : NoHoles first progress.outgoing := by
  obtain ⟨out, done, kept⟩ := goesOn
  rw [done]
  exact kept

theorem Loses.hole (loses : Loses first progress) : ¬NoHoles first progress.outgoing := by
  obtain ⟨out, failed, hole⟩ := loses
  rw [failed]
  exact hole

theorem transmit_cons (outPacket : Packet) : ∃ rest : Outgoing → Progress,
    transmit env sourceKey pkt outPacket fromMoto motoCC out =
      ((if isLCHeader pkt then sendSync env sourceKey pkt fromMoto motoCC out else .ok out) >>=
        encodeAndSend env sourceKey outPacket fromMoto motoCC) >>= rest := by
  obtain ⟨count, repeats⟩ : ∃ count, (if fromMoto && isLCHeader pkt then motoHeaderRepeats else 1) = count + 1 := by
    split <;> exact ⟨_, rfl⟩
  exact ⟨_, by rw [transmit, repeats, repeatedly]⟩

/-- Whether the numbers taken by `transmit` are sent: those of a route that is not reached are
not taken if a sync packet comes first. -/
def Transmits (env : OutEnv) (sourceKey : String) (pkt : Packet) (fromMoto : Bool) (motoCC : UInt8) : Prop :=
  (targetDMRAddrs env sourceKey ≠ [] ∧ Encodable pkt) ∨
    (targetDMRAddrs env sourceKey = [] ∧ isLCHeader pkt = true ∧
      (buildStartupPacketForRoute env.cfg env.startupTemplates .sync pkt fromMoto motoCC).isSome = true)

theorem transmit_noHoles_iff {outPacket : Packet} (sameKind : Encodable outPacket ↔ Encodable pkt) (kept : NoHoles first out) :
    NoHoles first (transmit env sourceKey pkt outPacket fromMoto motoCC out).outgoing ↔
      Transmits env sourceKey pkt fromMoto motoCC := by
  obtain ⟨rest, first_round⟩ := @transmit_cons env sourceKey pkt fromMoto motoCC out outPacket
  by_cases unreached : targetDMRAddrs env sourceKey = []
  · cases header : isLCHeader pkt with
    | false =>
      refine iff_of_false ?_ (by simp [Transmits, unreached, header])
      rw [first_round, header]
      exact (Loses.bind (encodeAndSend_loses_of_unreached unreached kept) rest).hole
    | true =>
      rw [first_round, if_pos header, sendSync]
      cases built : buildStartupPacketForRoute env.cfg env.startupTemplates .sync pkt fromMoto motoCC with
      | none =>
        refine iff_of_false ?_ (by simp [Transmits, unreached, built])
        exact (Loses.bind (encodeAndSend_loses_of_unreached unreached kept) rest).hole
      | some data =>
        refine iff_of_true ?_ (.inr ⟨unreached, header, by rw [built]; rfl⟩)
        simp only [sendEncodedToHytera, unreached]
        exact kept
  · by_cases encodable : Encodable pkt
    · refine iff_of_true ?_ (.inl ⟨unreached, encodable⟩)
      refine (goesOn_repeatedly ?_ _ kept).noHoles
      intro out kept
      have synced : GoesOn first (if isLCHeader pkt then sendSync env sourceKey pkt fromMoto motoCC out else .ok out) := by
        split
        · exact sendSync_goesOn unreached kept
        · exact ⟨out, rfl, kept⟩
      exact synced.bind fun _ kept => encodeAndSend_goesOn unreached (sameKind.mpr encodable) kept
    · refine iff_of_false ?_ (by simp [Transmits, unreached, encodable])
      rw [first_round, if_neg fun header => encodable (encodable_of_isLCHeader header)]
      exact (Loses.bind (encodeAndSend_loses_of_refused (fun refused => encodable (sameKind.mp refused)) kept) rest).hole

theorem sendSynthesizedMotoHeader_goesOn (reached : targetDMRAddrs env sourceKey ≠ []) (so : UInt8) (kept : NoHoles first out) :
    GoesOn first (sendSynthesizedMotoHeader env sourceKey pkt motoCC so out) := by
  refine goesOn_repeatedly ?_ _ kept
  intro out kept
  exact (sendSync_goesOn reached kept).bind fun _ kept => encodeAndSend_goesOn reached (encodable_of_isLCHeader rfl) kept

theorem sendSynthesizedMotoHeader_of_unreached (unreached : targetDMRAddrs env sourceKey = []) (so : UInt8) :
    sendSynthesizedMotoHeader env sourceKey pkt motoCC so out = .error out := by
  simp only [sendSynthesizedMotoHeader, motoHeaderRepeats, repeatedly, sendSync, buildStartupPacketForRoute, if_true,
    buildFixedStartupPacket, reduceCtorEq, if_false, sendEncodedToHytera, unreached]
  rfl

variable {lib : Layer2} {st : OutSlot}

theorem wakeups_startup {event : OutEvent} (member : event ∈ wakeups env lib st pkt fromMoto sourceKey) :
    ∃ data addrs, event = .startup data addrs := by
  have sent {repeats : Nat} (member : event ∈ sendWakeups env lib pkt repeats sourceKey fromMoto) :
      ∃ data addrs, event = .startup data addrs := by
    obtain ⟨addr, -, member⟩ := mem_flatMap.mp member
    obtain ⟨slot, -, built⟩ := mem_filterMap.mp member
    obtain ⟨data, -, startup⟩ := Option.map_eq_some_iff.mp built
    exact ⟨data, [addr], startup.symm⟩
  simp only [wakeups] at member
  split at member
  · cases member
  split at member
  · exact sent member
  split at member
  · exact sent member
  · cases member

theorem beginSending_noHoles : NoHoles st.outSeq (beginSending env sourceKey lib pkt fromMoto st) := by
  simp only [beginSending]
  split
  · have switched : NoHoles st.outSeq ⟨switchStream st pkt fromMoto, [.switch pkt.streamID]⟩ := ⟨trivial, rfl⟩
    exact noHoles_startups switched (fun _ => wakeups_startup) rfl
  · have started : NoHoles st.outSeq ⟨st, []⟩ := ⟨trivial, rfl⟩
    exact noHoles_startups started (fun _ => wakeups_startup) rfl

def Continues (env : OutEnv) (sourceKey : String) (lib : Layer2) (pkt : Packet) (fromMoto : Bool) (st : OutSlot) : Prop :=
  env.stopped = true ∨ Transmits env sourceKey pkt fromMoto (motoColorCode env lib pkt fromMoto) ∨
    (targetDMRAddrs env sourceKey = [] ∧ synthesizes env pkt fromMoto st = true)

theorem outSeq_resolveMotoServiceOptions : (resolveMotoServiceOptions pkt st).1.outSeq = st.outSeq := by
  simp only [resolveMotoServiceOptions]
  split <;> rfl

theorem sendPacketTo_noHoles_iff : NoHoles st.outSeq (sendPacketTo env sourceKey lib pkt fromMoto st).outgoing ↔
      Continues env sourceKey lib pkt fromMoto st := by
  have begun := @beginSending_noHoles env sourceKey pkt fromMoto lib st
  simp only [sendPacketTo, Continues]
  cases stopped : env.stopped with
  | true => exact iff_of_true ⟨trivial, rfl⟩ (.inl rfl)
  | false =>
    simp only [Bool.false_eq_true, if_false, false_or]
    cases moto : fromMoto with
    | false =>
      rw [moto] at begun
      simp only [Bool.false_eq_true, if_false, synthesizes, Bool.false_and, and_false, or_false, motoColorCode]
      exact transmit_noHoles_iff Iff.rfl begun
    | true =>
      rw [moto] at begun
      simp only [if_true]
      generalize motoColorCode env lib pkt true = motoCC
      generalize beginSending env sourceKey lib pkt true st = out at begun ⊢
      have resolved : NoHoles st.outSeq { out with st := (resolveMotoServiceOptions pkt out.st).1 } :=
        ⟨begun.consecutive, outSeq_resolveMotoServiceOptions.trans begun.counter⟩
      cases synthesized : synthesizes env pkt true st with
      | false =>
        simp only [Bool.false_eq_true, and_false, or_false, if_false]
        exact transmit_noHoles_iff (encodable_congr rfl rfl) resolved
      | true =>
        simp only [and_true, if_true]
        by_cases unreached : targetDMRAddrs env sourceKey = []
        · rw [sendSynthesizedMotoHeader_of_unreached unreached]
          exact iff_of_true resolved (.inr unreached)
        · rw [or_iff_left unreached]
          obtain ⟨sent, done, kept⟩ := sendSynthesizedMotoHeader_goesOn unreached _ resolved
          rw [done]
          exact transmit_noHoles_iff (encodable_congr rfl rfl) kept

end

structure OutCall where
  env : OutEnv
  sourceKey : String
  pkt : Packet
  fromMoto : Bool

def OutCall.route (call : OutCall) : String × Bool := (call.sourceKey, call.pkt.slot)

/-- A call changes the state of its own route and slot; what happened there before is kept. -/
def sendStep (lib : Layer2) (routes : String × Bool → Outgoing) (call : OutCall) : String × Bool → Outgoing :=
  let before := routes call.route
  let after := (sendPacketTo call.env call.sourceKey lib call.pkt call.fromMoto before.st).outgoing
  Function.update routes call.route { after with events := before.events ++ after.events }

/-- In every state reached, on every route and slot, the numbers follow each other from 1 on after
a switch and the counter is at the last number sent, exactly if every packet can be encoded.  For
a route without an address, and so too for one that the send filter refuses, the packet has to
begin with a sync packet instead. -/
theorem hytera_numbers_without_holes_iff (lib : Layer2) (slots : String × Bool → OutSlot) (calls : List OutCall) :
    EachState (sendStep lib) (fun routes => ∀ route, NoHoles (slots route).outSeq (routes route))
        (fun route => { st := slots route, events := [] }) calls ↔
      EachStep (sendStep lib)
        (fun routes call => Continues call.env call.sourceKey lib call.pkt call.fromMoto (routes call.route).st)
        (fun route => { st := slots route, events := [] }) calls := by
  refine @eachState_iff_eachStep _ _ _ _ (sendStep lib) _ calls (fun _ => True) (fun _ _ _ => trivial) ?_ trivial
    fun route => ⟨trivial, rfl⟩
  intro routes call _ kept
  have own := @noHoles_append _ _ (sendPacketTo call.env call.sourceKey lib call.pkt call.fromMoto (routes call.route).st).outgoing
    (kept call.route)
  rw [sendPacketTo_noHoles_iff] at own
  rw [← own]
  constructor
  · intro after
    have here := after call.route
    rwa [sendStep, Function.update_self] at here
  · intro here route
    by_cases same : route = call.route
    · subst same
      rwa [sendStep, Function.update_self]
    · rw [sendStep, Function.update_of_ne same]
      exact kept route

instance Consecutive.decidable : ∀ (last : UInt8) (events : List OutEvent), Decidable (Consecutive last events)
  | _, [] => .isTrue trivial
  | _, .switch _ :: events => Consecutive.decidable 0 events
  | last, .startup _ _ :: events => Consecutive.decidable last events
  | last, .encoded _ _ :: events => @instDecidableAnd _ _ inferInstance (Consecutive.decidable (last + 1) events)
  | last, .rejected _ :: events => Consecutive.decidable last events

def OutEvent.number : OutEvent → Option UInt8
  | .encoded data _ => some (data.getD 4 0)
  | _ => none

def plainLayer2 : Layer2 where
  Burst := DMRData
  decodeFromBytes := id
  hasEmbeddedSignalling := fun _ => false
  colorCode := fun _ => 0
  setColorCode := fun burst _ => burst
  lcss := fun _ => .singleFragmentLCorCSBK
  setLCSS := fun burst _ => burst
  unpackEmbeddedSignallingData := fun burst _ => burst
  encode := id
  slotTypeColorCode := fun _ => 0
  embeddedColorCode := fun _ => 0

def sampleCall (frameType dtypeOrVSeq : UInt64) : OutCall where
  env :=
    { cfg := some 1
      repeaterDMRAddr := (∅ : GoMap String UDPAddr).insert "192.0.2.7" ⟨"192.0.2.7", 50001, ""⟩
      order := .increasing String
      sendFilter := none
      startupTemplates := ∅
      now := 1000
      sentAt := 1001 }
  sourceKey := "hytera:192.0.2.7"
  pkt := { src := 1, dst := 9, streamID := 5, frameType, dtypeOrVSeq }
  fromMoto := false

/-- The packet after an MBC header (data type 4) is sent with number 3. -/
theorem hytera_number_lost_by_rejected_packet :
    let sent := (runFrom (sendStep plainLayer2) (fun _ => { st := {}, events := [] })
      [sampleCall 2 1, sampleCall 2 4, sampleCall 0 1] ("hytera:192.0.2.7", false)).events
    sent.filterMap OutEvent.number = [1, 3] ∧ OutEvent.rejected (.dataType 4) ∈ sent ∧ ¬Consecutive 0 sent := by
  decide +kernel

end Ipsc2Mmdvm.Hytera
