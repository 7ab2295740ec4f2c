import Ipsc2Mmdvm.Hytera.AnalogSession

namespace Ipsc2Mmdvm.Hytera

open Data Proto Nrl List

/-! A start is followed by its end before the next start.  `handleNRLPacket` does not look at
`closed`, so a packet handled after `close` starts a call that nothing ends. -/

def Alternate : List NRLCallEvent → Prop
  | [] => True
  | [start] => start.ended = false
  | start :: stop :: later =>
    start.ended = false ∧ stop.ended = true ∧ stop.streamID = start.streamID ∧ Alternate later

instance Alternate.decidable : ∀ events : List NRLCallEvent, Decidable (Alternate events)
  | [] => .isTrue trivial
  | [start] => inferInstanceAs (Decidable (start.ended = false))
  | _ :: _ :: later =>
    @instDecidableAnd _ _ inferInstance (@instDecidableAnd _ _ inferInstance
      (@instDecidableAnd _ _ inferInstance (Alternate.decidable later)))

def AnalogOutput.callEvent : AnalogOutput → Option NRLCallEvent
  | .call event => some event
  | _ => none

def callsOf (sent : List AnalogOutput) : List NRLCallEvent := sent.filterMap AnalogOutput.callEvent

inductive Paired : List NRLCallEvent → Prop
  | none : Paired []
  | more {done : List NRLCallEvent} {start stop : NRLCallEvent} (earlier : Paired done)
      (starts : start.ended = false) (stops : stop.ended = true) (same : stop.streamID = start.streamID) :
      Paired (done ++ [start, stop])

variable {done : List NRLCallEvent}

theorem Paired.alternate_append {rest : List NRLCallEvent} (paired : Paired done) (goesOn : Alternate rest) :
    Alternate (done ++ rest) := by
  induction paired generalizing rest with
  | none => exact goesOn
  | more _ starts stops same ih =>
    rw [append_assoc]
    exact ih ⟨starts, stops, same, goesOn⟩

theorem Paired.getLast_ended (paired : Paired done) : ∀ event ∈ done.getLast?, event.ended = true := by
  cases paired with
  | none => simp
  | more _ _ stops _ => simpa using stops

section

variable {link : AnalogLink} {s next : AnalogSession} {now : Time} {pkt : NRL21Packet}

def AnalogSession.reports (link : AnalogLink) (s : AnalogSession) : Bool := link.callHandler && s.callStreamID != 0

@[simp] theorem callsOf_nil : callsOf [] = [] := rfl

@[simp] theorem callsOf_append (sent more : List AnalogOutput) : callsOf (sent ++ more) = callsOf sent ++ callsOf more :=
  filterMap_append

@[simp] theorem callsOf_emitAudioChunk (frontend streamID : String) (sourceDMRID : UInt32) (pcm : List Int16) (ended : Bool) :
    callsOf (emitAudioChunk link frontend streamID sourceDMRID pcm ended) = [] := by
  simp only [emitAudioChunk]
  split <;> rfl

@[simp] theorem callsOf_emitCallAudio (pcm : List Int16) (ended : Bool) : callsOf (s.emitCallAudio link pcm ended) = [] :=
  callsOf_emitAudioChunk ..

theorem callsOf_emitCallEventLocked (ended : Bool) :
    callsOf (s.emitCallEventLocked link ended) = if s.reports link then [s.callEvent link ended] else [] := by
  have audio : callsOf (if ended then s.emitCallAudio link [] true else []) = [] := by
    split <;> simp
  simp only [AnalogSession.emitCallEventLocked]
  split
  · rename_i silent
    have unreported : s.reports link = false := by
      cases (Bool.or_eq_true _ _).mp silent with
      | inl missing => simp [AnalogSession.reports, Bool.not_eq_true' _ |>.mp missing]
      | inr unnumbered => simp [AnalogSession.reports, eq_of_beq unnumbered]
    rw [unreported, if_neg Bool.false_ne_true]
    split <;> simp
  · rename_i told
    have reported : s.reports link = true := by simpa [AnalogSession.reports] using told
    rw [reported, if_pos rfl]
    exact congrArg (s.callEvent link ended :: ·) audio

structure SameCall (s next : AnalogSession) : Prop where
  active : next.callActive = s.callActive
  stream : next.callStreamID = s.callStreamID
  closed : next.closed = s.closed

theorem SameCall.trans {first : AnalogSession} (before : SameCall first s) (after : SameCall s next) : SameCall first next :=
  ⟨after.active.trans before.active, after.stream.trans before.stream, after.closed.trans before.closed⟩

theorem sameCall_bootstrapHyteraFallbackLocked : SameCall s (s.bootstrapHyteraFallbackLocked link) := by
  simp only [AnalogSession.bootstrapHyteraFallbackLocked]
  split <;> split <;> exact ⟨rfl, rfl, rfl⟩

theorem sameCall_buildHyteraAnalogPacket (voice : Bytes) : SameCall s (s.buildHyteraAnalogPacket link voice).1 := by
  refine SameCall.trans (@sameCall_bootstrapHyteraFallbackLocked link s) ?_
  simp only [AnalogSession.buildHyteraAnalogPacket]
  split
  · exact ⟨rfl, rfl, rfl⟩
  · split <;> exact ⟨rfl, rfl, rfl⟩

theorem callsOf_packets (built : Option (Bytes × UDPAddr)) :
    callsOf (built.toList.map fun packet => .packet packet.2 packet.1) = [] := by
  cases built <;> rfl

theorem sendGroups_spec (fuel : Nat) (s : AnalogSession) :
    SameCall s (s.sendGroups link fuel).1 ∧ callsOf (s.sendGroups link fuel).2 = [] := by
  induction fuel generalizing s with
  | zero => exact ⟨⟨rfl, rfl, rfl⟩, rfl⟩
  | succ fuel ih =>
    simp only [AnalogSession.sendGroups]
    split
    · exact ⟨⟨rfl, rfl, rfl⟩, rfl⟩
    · rename_i full
      generalize shortened : { s with ulawBuffer := s.ulawBuffer.drop hyteraAnalogFrameGroup } = rest
      have kept : SameCall s rest := by
        subst shortened
        exact ⟨rfl, rfl, rfl⟩
      obtain ⟨after, quiet⟩ := ih (rest.buildHyteraAnalogPacket link (s.ulawBuffer.take hyteraAnalogFrameGroup)).1
      refine ⟨(kept.trans (sameCall_buildHyteraAnalogPacket _)).trans after, ?_⟩
      rw [callsOf_append, callsOf_packets, quiet]
      rfl

theorem flushGroups_spec : SameCall s (s.flushGroups link).1 ∧ callsOf (s.flushGroups link).2 = [] := by
  simp only [AnalogSession.flushGroups]
  split
  · exact ⟨⟨rfl, rfl, rfl⟩, rfl⟩
  · exact sendGroups_spec _ _

structure Balanced (link : AnalogLink) (s : AnalogSession) (calls : List NRLCallEvent) : Prop where
  finished : (s.callActive && s.reports link) = false → Paired calls
  started : (s.callActive && s.reports link) = true →
    ∃ done start, Paired done ∧ start.ended = false ∧ start.streamID = s.callStreamID ∧ calls = done ++ [start]

variable {calls : List NRLCallEvent}

theorem Balanced.alternate (balanced : Balanced link s calls) : Alternate calls := by
  cases inside : s.callActive && s.reports link with
  | false =>
    have complete := @Paired.alternate_append _ [] (balanced.finished inside) trivial
    rwa [append_nil] at complete
  | true =>
    obtain ⟨done, start, paired, starts, _, equal⟩ := balanced.started inside
    rw [equal]
    exact paired.alternate_append starts

theorem Balanced.sameCall (balanced : Balanced link s calls) (same : SameCall s next) : Balanced link next calls := by
  have inside : (next.callActive && next.reports link) = (s.callActive && s.reports link) := by
    simp only [AnalogSession.reports, same.active, same.stream]
  refine ⟨fun outside => balanced.finished (inside ▸ outside), fun within => ?_⟩
  rw [same.stream]
  exact balanced.started (inside ▸ within)

theorem balanced_of_idle (idle : s.callActive = false) (paired : Paired calls) : Balanced link s calls := by
  refine ⟨fun _ => paired, fun within => ?_⟩
  rw [idle] at within
  cases within

theorem Balanced.finish (balanced : Balanced link s calls) :
    Paired (calls ++ callsOf (if s.callActive then s.emitCallEventLocked link true else [])) := by
  cases inside : s.callActive && s.reports link with
  | false =>
    have quiet : callsOf (if s.callActive then s.emitCallEventLocked link true else []) = [] := by
      cases Bool.and_eq_false_iff.mp inside with
      | inl idle => simp [idle]
      | inr unreported =>
        split
        · simp [callsOf_emitCallEventLocked, unreported]
        · rfl
    rw [quiet, append_nil]
    exact balanced.finished inside
  | true =>
    obtain ⟨done, start, paired, starts, stream, equal⟩ := balanced.started inside
    obtain ⟨active, reported⟩ := (Bool.and_eq_true _ _).mp inside
    rw [equal, active, if_pos rfl, callsOf_emitCallEventLocked, reported, if_pos rfl, append_assoc]
    exact paired.more starts rfl stream.symm

theorem Paired.begin (paired : Paired calls) (active : next.callActive = true) :
    Balanced link next (calls ++ callsOf (next.emitCallEventLocked link false)) := by
  rw [callsOf_emitCallEventLocked]
  refine ⟨fun outside => ?_, fun within => ?_⟩
  · rw [active, Bool.true_and] at outside
    simpa [outside] using paired
  · rw [active, Bool.true_and] at within
    exact ⟨calls, next.callEvent link false, paired, rfl, rfl, by rw [within, if_pos rfl]⟩

section

variable (balanced : Balanced link s calls)

include balanced

theorem Balanced.enterCall :
    Balanced link (s.enterCall link now pkt).1 (calls ++ callsOf (s.enterCall link now pkt).2) := by
  simp only [AnalogSession.enterCall]
  split
  · rw [callsOf_append, ← append_assoc]
    exact balanced.finish.begin rfl
  · simpa using balanced

theorem Balanced.handleNRLPacket :
    Balanced link (s.handleNRLPacket link now pkt).1 (calls ++ callsOf (s.handleNRLPacket link now pkt).2) := by
  simp only [AnalogSession.handleNRLPacket]
  split
  · simpa using balanced
  · have marked : Balanced link { s with lastActivityAt := now } calls := balanced.sameCall ⟨rfl, rfl, rfl⟩
    have entered := @Balanced.enterCall link _ now pkt calls marked
    generalize { s with lastActivityAt := now }.enterCall link now pkt = result at entered ⊢
    obtain ⟨inCall, told⟩ := result
    simp only [callsOf_append, callsOf_emitCallAudio, flushGroups_spec.2, append_nil]
    have buffered : SameCall inCall { inCall with
        callLastVoiceAt := now
        ulawBuffer := inCall.ulawBuffer ++ alawChunkToUlaw (wholeFrames pkt.data) } := ⟨rfl, rfl, rfl⟩
    exact (entered.sameCall buffered).sameCall flushGroups_spec.1

theorem Balanced.expireCallIfIdle :
    Balanced link (s.expireCallIfIdle link now).1 (calls ++ callsOf (s.expireCallIfIdle link now).2) := by
  simp only [AnalogSession.expireCallIfIdle]
  cases active : s.callActive with
  | false => simpa using balanced
  | true =>
    simp only [Bool.not_true, Bool.false_eq_true, if_false]
    split
    · simpa using balanced
    · refine balanced_of_idle rfl ?_
      simpa only [active, if_true] using balanced.finish

theorem Balanced.close : Balanced link (s.close link).1 (calls ++ callsOf (s.close link).2) := by
  simp only [AnalogSession.close]
  split
  · simpa using balanced
  · exact balanced_of_idle rfl balanced.finish

theorem Balanced.handleHyteraVoice (addr : UDPAddr) (data : Bytes) :
    Balanced link (s.handleHyteraVoice link now addr data).1 (calls ++ callsOf (s.handleHyteraVoice link now addr data).2) := by
  have quiet : callsOf (s.handleHyteraVoice link now addr data).2 = [] := by
    simp only [AnalogSession.handleHyteraVoice]
    split <;> simp
  rw [quiet, append_nil]
  refine balanced.sameCall ?_
  simp only [AnalogSession.handleHyteraVoice]
  split <;> split <;> exact ⟨rfl, rfl, rfl⟩

end

theorem sameCall_updateConfig (cfg : AnalogPeer) : SameCall s (s.updateConfig cfg) := by
  simp only [AnalogSession.updateConfig]
  split <;> exact ⟨rfl, rfl, rfl⟩

theorem Balanced.handle (balanced : Balanced link s calls) (event : AnalogEvent) :
    Balanced link (event.handle link s).1 (calls ++ callsOf (event.handle link s).2) := by
  cases event with
  | packet now pkt => exact balanced.handleNRLPacket
  | expire now => exact balanced.expireCallIfIdle
  | close => exact balanced.close
  | voice now addr data => exact balanced.handleHyteraVoice addr data
  | configure cfg =>
    simp only [AnalogEvent.handle, callsOf_nil, append_nil]
    exact balanced.sameCall (sameCall_updateConfig cfg)

end

def Settled (trace : AnalogTrace) : Prop :=
  Alternate (callsOf trace.sent) ∧
    (trace.session.closed = true → ∀ event ∈ (callsOf trace.sent).getLast?, event.ended = true)

instance (trace : AnalogTrace) : Decidable (Settled trace) := inferInstanceAs (Decidable (_ ∧ _))

def AnalogEvent.announces (link : AnalogLink) (s : AnalogSession) : AnalogEvent → Bool
  | .packet now pkt => pkt.type == 1 && pkt.data != [] && s.startsCall link now pkt && (s.nextCall link pkt).reports link
  | _ => false

section

variable {link : AnalogLink} {s : AnalogSession} {calls : List NRLCallEvent} {event : AnalogEvent}

theorem closed_enterCall (now : Time) (pkt : NRL21Packet) : (s.enterCall link now pkt).1.closed = s.closed := by
  simp only [AnalogSession.enterCall]
  split <;> rfl

theorem closed_handleNRLPacket (now : Time) (pkt : NRL21Packet) : (s.handleNRLPacket link now pkt).1.closed = s.closed := by
  simp only [AnalogSession.handleNRLPacket]
  split
  · rfl
  · exact flushGroups_spec.1.closed.trans (closed_enterCall now pkt)

theorem callsOf_handleNRLPacket {now : Time} {pkt : NRL21Packet} (voice : pkt.type = 1 ∧ pkt.data ≠ []) :
    callsOf (s.handleNRLPacket link now pkt).2 = callsOf ({ s with lastActivityAt := now }.enterCall link now pkt).2 := by
  simp only [AnalogSession.handleNRLPacket]
  rw [if_neg (by simpa using voice)]
  simp only [callsOf_append, callsOf_emitCallAudio, flushGroups_spec.2, append_nil]

theorem getLast_append_ended {more : List NRLCallEvent} (before : ∀ event ∈ calls.getLast?, event.ended = true)
    (after : ∀ event ∈ more, event.ended = true) : ∀ event ∈ (calls ++ more).getLast?, event.ended = true := by
  intro event last
  rw [getLast?_append] at last
  cases found : more.getLast? with
  | none =>
    rw [found] at last
    exact before event last
  | some final =>
    rw [found] at last
    cases last
    exact after _ (mem_of_getLast? found)

theorem ended_of_finish (s : AnalogSession) :
    ∀ call ∈ callsOf (if s.callActive then s.emitCallEventLocked link true else []), call.ended = true := by
  intro call member
  split at member
  · rw [callsOf_emitCallEventLocked] at member
    split at member
    · rw [mem_singleton.mp member]
      rfl
    · cases member
  · cases member

theorem ended_of_not_announces (silent : event.announces link s = false) :
    ∀ call ∈ callsOf (event.handle link s).2, call.ended = true := by
  cases event with
  | packet now pkt =>
    by_cases voice : pkt.type = 1 ∧ pkt.data ≠ []
    · simp only [AnalogEvent.handle, callsOf_handleNRLPacket voice, AnalogSession.enterCall]
      split
      · rename_i starts
        have begins : s.startsCall link now pkt = true := starts
        have unreported : (s.nextCall link pkt).reports link = false := by
          simpa only [AnalogEvent.announces, voice.1, beq_self_eq_true, bne_iff_ne.mpr voice.2, begins, Bool.true_and]
            using silent
        have untold : ({ s with lastActivityAt := now }.nextCall link pkt).reports link = false := unreported
        rw [callsOf_append, @callsOf_emitCallEventLocked _ (AnalogSession.nextCall ..), untold, if_neg Bool.false_ne_true,
          append_nil]
        exact ended_of_finish _
      · simp
    · have ignored : pkt.type ≠ 1 ∨ pkt.data = [] := by
        by_contra accepted
        exact voice (by simpa using accepted)
      simp [AnalogEvent.handle, AnalogSession.handleNRLPacket, ignored]
  | expire now =>
    simp only [AnalogEvent.handle, AnalogSession.expireCallIfIdle]
    split
    · simp
    · rename_i active
      split
      · simp
      · have finished := @ended_of_finish link s
        rwa [if_pos (by simpa using active)] at finished
  | close =>
    simp only [AnalogEvent.handle, AnalogSession.close]
    split
    · simp
    · exact ended_of_finish s
  | voice now addr data =>
    simp only [AnalogEvent.handle, AnalogSession.handleHyteraVoice]
    split <;> simp
  | configure cfg => simp [AnalogEvent.handle]

theorem getLast_of_announces (announced : event.announces link s = true) :
    ∃ start, (calls ++ callsOf (event.handle link s).2).getLast? = some start ∧ start.ended = false := by
  cases event with
  | packet now pkt =>
    simp only [AnalogEvent.announces, Bool.and_eq_true, beq_iff_eq, bne_iff_ne] at announced
    obtain ⟨⟨⟨type, data⟩, starts⟩, reported⟩ := announced
    have begins : ({ s with lastActivityAt := now } : AnalogSession).startsCall link now pkt = true := starts
    have told : (({ s with lastActivityAt := now } : AnalogSession).nextCall link pkt).reports link = true := reported
    simp only [AnalogEvent.handle, callsOf_handleNRLPacket ⟨type, data⟩, AnalogSession.enterCall, begins, if_true,
      callsOf_append]
    rw [@callsOf_emitCallEventLocked _ (AnalogSession.nextCall ..), told, if_pos rfl, ← append_assoc, getLast?_concat]
    exact ⟨_, rfl, rfl⟩
  | expire | close | voice | configure => cases announced

end

section

variable {link : AnalogLink} {s : AnalogSession}

theorem closed_handle {event : AnalogEvent} (closed : (event.handle link s).1.closed = true) :
    s.closed = true ∨ event = .close := by
  cases event with
  | packet now pkt => exact .inl ((closed_handleNRLPacket now pkt).symm.trans closed)
  | expire now =>
    refine .inl (Eq.trans ?_ closed)
    simp only [AnalogEvent.handle, AnalogSession.expireCallIfIdle]
    split
    · rfl
    · split <;> rfl
  | close => exact .inr rfl
  | voice now addr data =>
    refine .inl (Eq.trans ?_ closed)
    simp only [AnalogEvent.handle, AnalogSession.handleHyteraVoice]
    split <;> split <;> rfl
  | configure cfg => exact .inl ((sameCall_updateConfig cfg).closed.symm.trans closed)

theorem settled_step_iff {trace : AnalogTrace} (balanced : Balanced link trace.session (callsOf trace.sent))
    (settled : Settled trace) (event : AnalogEvent) :
    Settled (trace.step link event) ↔ (trace.session.closed = true → event.announces link trace.session = false) := by
  simp only [Settled, AnalogTrace.step, callsOf_append]
  constructor
  · intro after closed
    cases announced : event.announces link trace.session with
    | false => rfl
    | true =>
      obtain ⟨start, last, starts⟩ := @getLast_of_announces link _ (callsOf trace.sent) event announced
      have stays : (event.handle link trace.session).1.closed = true := by
        cases event with
        | packet now pkt => exact (closed_handleNRLPacket now pkt).trans closed
        | expire | close | voice | configure => cases announced
      have ends := after.2 stays start last
      rw [starts] at ends
      cases ends
  · intro silent
    refine ⟨(balanced.handle event).alternate, fun closed => ?_⟩
    cases before : trace.session.closed with
    | true => exact getLast_append_ended (settled.2 before) (ended_of_not_announces (silent before))
    | false =>
      -- the session is closed by this event
      cases closed_handle closed with
      | inl already =>
        rw [before] at already
        cases already
      | inr closing =>
        subst closing
        have idle : (trace.session.close link).1.callActive = false := by
          simp [AnalogSession.close, before]
        have paired := balanced.close.finished (by rw [idle, Bool.false_and])
        exact paired.getLast_ended

end

/-- The call events of a session stay balanced through a run exactly when none of its calls, seen
by the handler, starts after `close`. -/
theorem analog_calls_settled_iff (link : AnalogLink) (cfg : AnalogPeer) (made : Time) (events : List AnalogEvent) :
    EachState (AnalogTrace.step link) Settled { session := { cfg, lastActivityAt := made } } events ↔
      EachStep (AnalogTrace.step link)
        (fun trace event => trace.session.closed = true → event.announces link trace.session = false)
        { session := { cfg, lastActivityAt := made } } events := by
  refine @eachState_iff_eachStep _ _ _ _ (AnalogTrace.step link) Settled events
    (fun trace => Balanced link trace.session (callsOf trace.sent)) ?_ ?_ ?_ ?_
  · intro trace event balanced
    simp only [AnalogTrace.step, callsOf_append]
    exact balanced.handle event
  · intro trace event balanced settled
    exact settled_step_iff balanced settled event
  · exact balanced_of_idle rfl .none
  · exact ⟨trivial, fun closed => nomatch closed⟩

def plainLink : AnalogLink where
  sourceIP := "192.0.2.7"
  remoteAddr := some { ip := "198.51.100.1", port := 60050 }
  dmrPort := 50001
  callHandler := true
  audioHandler := false
  toUpper := upperText

def plainPeer : AnalogPeer := { ssid := 10, callsign := "BG5ABC", dmrID := 4600001 }

/-- A packet that was read before `close` and is handled after it. -/
theorem analog_call_starts_after_close : ¬ Settled (analogRun plainLink plainPeer (Time.add 0 second)
      [.close, .packet (Time.add 0 (2 * second)) { type := 1, dmrID := 4600002, callsign := ascii "BG5XYZ", ssid := 1, data := [0xD5] }]) := by
  decide +kernel

end Ipsc2Mmdvm.Hytera
