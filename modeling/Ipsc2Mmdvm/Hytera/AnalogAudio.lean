import Ipsc2Mmdvm.Data.Rechunk
import Ipsc2Mmdvm.Hytera.AnalogCalls

namespace Ipsc2Mmdvm.Hytera

open Data Proto Nrl AnalogEvent List

/-! The frames of all packets are one stream, which is cut into groups of three.  Neither a new call
nor the end of one empties the buffer. -/

def AnalogOutput.payload : AnalogOutput → Option Bytes
  | .packet _ bytes => some (bytes.drop hyteraAnalogHeaderLen)
  | _ => none

def payloadsOf (sent : List AnalogOutput) : List Bytes := sent.filterMap AnalogOutput.payload

def AnalogEvent.frames : AnalogEvent → Bytes
  | .packet _ pkt => if pkt.type ≠ 1 ∨ pkt.data = [] then [] else alawChunkToUlaw (wholeFrames pkt.data)
  | _ => []

theorem dvd_length_frames (event : AnalogEvent) : hyteraAnalogFrameSamples ∣ event.frames.length := by
  cases event with
  | packet now pkt =>
    simp only [frames]
    split
    · exact Nat.dvd_zero _
    · rw [alawChunkToUlaw, length_map, wholeFrames, length_take_of_le (Nat.div_mul_le_self _ _)]
      exact Nat.dvd_mul_left _ _
  | expire | close | voice | configure => exact Nat.dvd_zero _

section

variable {link : AnalogLink} {s : AnalogSession}

@[simp] theorem payloadsOf_nil : payloadsOf [] = [] := rfl

@[simp] theorem payloadsOf_append (sent more : List AnalogOutput) :
    payloadsOf (sent ++ more) = payloadsOf sent ++ payloadsOf more :=
  filterMap_append

@[simp] theorem payloadsOf_emitAudioChunk (frontend streamID : String) (sourceDMRID : UInt32) (pcm : List Int16)
    (ended : Bool) : payloadsOf (emitAudioChunk link frontend streamID sourceDMRID pcm ended) = [] := by
  simp only [emitAudioChunk]
  split <;> rfl

@[simp] theorem payloadsOf_emitCallAudio (pcm : List Int16) (ended : Bool) : payloadsOf (s.emitCallAudio link pcm ended) = [] :=
  payloadsOf_emitAudioChunk ..

@[simp] theorem payloadsOf_emitCallEventLocked (ended : Bool) : payloadsOf (s.emitCallEventLocked link ended) = [] := by
  have audio : payloadsOf (if ended then s.emitCallAudio link [] true else []) = [] := by
    split <;> simp
  simp only [AnalogSession.emitCallEventLocked]
  split
  · split <;> simp
  · exact audio

structure PassesOn (buffer : Bytes) (result : AnalogSession × List AnalogOutput) : Prop where
  sent : payloadsOf result.2 = (rechunk hyteraAnalogFrameGroup nrlVoiceFlushWatermark buffer).1
  held : result.1.ulawBuffer = (rechunk hyteraAnalogFrameGroup nrlVoiceFlushWatermark buffer).2

theorem passesOn_of_silent {result : AnalogSession × List AnalogOutput} (short : s.ulawBuffer.length < nrlVoiceFlushWatermark)
    (sent : payloadsOf result.2 = []) (held : result.1.ulawBuffer = s.ulawBuffer) :
    PassesOn (s.ulawBuffer ++ []) result := by
  rw [append_nil]
  exact ⟨by rw [rechunk_of_short short, sent], by rw [rechunk_of_short short, held]⟩

theorem enterCall_audio (now : Time) (pkt : NRL21Packet) :
    payloadsOf (s.enterCall link now pkt).2 = [] ∧ (s.enterCall link now pkt).1.ulawBuffer = s.ulawBuffer := by
  simp only [AnalogSession.enterCall]
  split
  · refine ⟨?_, rfl⟩
    rw [payloadsOf_append, payloadsOf_emitCallEventLocked, append_nil]
    split <;> simp
  · exact ⟨rfl, rfl⟩

theorem buildHyteraAnalogPacket_audio {voice : Bytes} (whole : voice.length = hyteraAnalogFrameGroup) :
    payloadsOf ((s.buildHyteraAnalogPacket link voice).2.toList.map fun packet => .packet packet.2 packet.1) = [voice] ∧
      (s.buildHyteraAnalogPacket link voice).1.ulawBuffer = s.ulawBuffer := by
  have prepared : (s.bootstrapHyteraFallbackLocked link).hyteraAddr.isSome = true ∧
      (s.bootstrapHyteraFallbackLocked link).templateReady = true ∧
      (s.bootstrapHyteraFallbackLocked link).ulawBuffer = s.ulawBuffer := by
    simp only [AnalogSession.bootstrapHyteraFallbackLocked]
    split <;> split <;> simp_all
  obtain ⟨address, ready, buffer⟩ := prepared
  obtain ⟨addr, known⟩ := Option.isSome_iff_exists.mp address
  simp only [AnalogSession.buildHyteraAnalogPacket, known, ready, whole, lt_irrefl, decide_false, Bool.not_true,
    Bool.or_self, Bool.false_eq_true, if_false]
  refine ⟨?_, buffer⟩
  have header : (((s.bootstrapHyteraFallbackLocked link).template.toList.set 4
      ((s.bootstrapHyteraFallbackLocked link).outSeq + 1)).set 8 0x45).length = hyteraAnalogHeaderLen := by
    simp [hyteraAnalogHeaderLen]
  simp only [payloadsOf, Option.toList_some, map_singleton, filterMap_cons, AnalogOutput.payload,
    filterMap_nil, ← header, drop_left, ← whole, take_length]

theorem sendGroups_audio (fuel : Nat) (s : AnalogSession) :
    payloadsOf (s.sendGroups link fuel).2 = (cutGroups hyteraAnalogFrameGroup fuel s.ulawBuffer).1 ∧
      (s.sendGroups link fuel).1.ulawBuffer = (cutGroups hyteraAnalogFrameGroup fuel s.ulawBuffer).2 := by
  induction fuel generalizing s with
  | zero => exact ⟨rfl, rfl⟩
  | succ fuel ih =>
    simp only [AnalogSession.sendGroups, cutGroups]
    split
    · exact ⟨rfl, rfl⟩
    · rename_i full
      obtain ⟨sent, buffer⟩ := @buildHyteraAnalogPacket_audio link
        { s with ulawBuffer := s.ulawBuffer.drop hyteraAnalogFrameGroup } (s.ulawBuffer.take hyteraAnalogFrameGroup)
        (length_take_of_le (Nat.le_of_not_lt full))
      obtain ⟨more, rest⟩ := ih ({ s with ulawBuffer := s.ulawBuffer.drop hyteraAnalogFrameGroup }.buildHyteraAnalogPacket
        link (s.ulawBuffer.take hyteraAnalogFrameGroup)).1
      rw [buffer] at more rest
      exact ⟨by rw [payloadsOf_append, sent, more]; rfl, rest⟩

theorem passesOn_flushGroups : PassesOn s.ulawBuffer (s.flushGroups link) := by
  simp only [AnalogSession.flushGroups]
  split
  · rename_i short
    exact ⟨by rw [rechunk_of_short short]; rfl, by rw [rechunk_of_short short]⟩
  · rename_i full
    obtain ⟨sent, held⟩ := @sendGroups_audio link s.ulawBuffer.length s
    exact ⟨by rw [rechunk, if_neg full, sent], by rw [rechunk, if_neg full, held]⟩

theorem passesOn_handle (short : s.ulawBuffer.length < nrlVoiceFlushWatermark) (event : AnalogEvent) :
    PassesOn (s.ulawBuffer ++ event.frames) (event.handle link s) := by
  cases event with
  | packet now pkt =>
    simp only [handle, AnalogSession.handleNRLPacket, frames]
    split
    · exact passesOn_of_silent short rfl rfl
    · obtain ⟨quiet, buffer⟩ := @enterCall_audio link { s with lastActivityAt := now } now pkt
      generalize { s with lastActivityAt := now }.enterCall link now pkt = result at quiet buffer ⊢
      obtain ⟨inCall, told⟩ := result
      obtain ⟨sent, held⟩ := @passesOn_flushGroups link { inCall with
        callLastVoiceAt := now
        ulawBuffer := inCall.ulawBuffer ++ alawChunkToUlaw (wholeFrames pkt.data) }
      have buffered : s.ulawBuffer = inCall.ulawBuffer := buffer.symm
      rw [buffered]
      refine ⟨?_, held⟩
      simp only [payloadsOf_append, quiet, payloadsOf_emitCallAudio, nil_append, sent]
  | expire now =>
    refine passesOn_of_silent short ?_ ?_
    all_goals
      simp only [handle, AnalogSession.expireCallIfIdle]
      repeat' split
    all_goals simp
  | close =>
    refine passesOn_of_silent short ?_ ?_
    all_goals
      simp only [handle, AnalogSession.close]
      repeat' split
    all_goals simp
  | voice now addr data =>
    refine passesOn_of_silent short ?_ ?_
    all_goals
      simp only [handle, AnalogSession.handleHyteraVoice]
      repeat' split
    all_goals simp
  | configure cfg =>
    refine passesOn_of_silent short rfl ?_
    simp only [handle, AnalogSession.updateConfig]
    split <;> rfl

end

def framesOf (events : List AnalogEvent) : Bytes := events.flatMap AnalogEvent.frames

section

variable {link : AnalogLink} {trace : AnalogTrace} {stream : Bytes}

structure Rechunked (stream : Bytes) (trace : AnalogTrace) : Prop where
  conserved : (payloadsOf trace.sent).flatten ++ trace.session.ulawBuffer = stream
  groups : ∀ payload ∈ payloadsOf trace.sent, payload.length = hyteraAnalogFrameGroup
  whole : hyteraAnalogFrameSamples ∣ trace.session.ulawBuffer.length
  short : trace.session.ulawBuffer.length < nrlVoiceFlushWatermark

theorem Rechunked.step (rechunked : Rechunked stream trace) (event : AnalogEvent) :
    Rechunked (stream ++ event.frames) (trace.step link event) := by
  obtain ⟨sent, buffer⟩ := @passesOn_handle link _ rechunked.short event
  refine ⟨?_, ?_, ?_, ?_⟩
  · simp only [AnalogTrace.step, payloadsOf_append, sent, buffer, flatten_append]
    rw [append_assoc, rechunk_conserves, ← append_assoc, rechunked.conserved]
  · intro payload member
    simp only [AnalogTrace.step, payloadsOf_append, sent] at member
    exact (mem_append.mp member).elim (rechunked.groups payload) length_of_mem_rechunk
  · simp only [AnalogTrace.step, buffer]
    refine dvd_length_rechunk (Nat.dvd_mul_right _ _) ?_
    rw [length_append]
    exact Nat.dvd_add rechunked.whole (dvd_length_frames event)
  · simp only [AnalogTrace.step, buffer]
    exact length_rechunk_lt (by decide) (by decide) _

theorem Rechunked.run (rechunked : Rechunked stream trace) (events : List AnalogEvent) :
    Rechunked (stream ++ framesOf events) (runFrom (AnalogTrace.step link) trace events) := by
  induction events generalizing stream trace with
  | nil => simpa [framesOf] using rechunked
  | cons event events ih =>
    rw [framesOf, flatMap_cons, ← append_assoc]
    exact ih (rechunked.step event)

end

theorem rechunked_start (cfg : AnalogPeer) (made : Time) : Rechunked [] { session := { cfg, lastActivityAt := made } } :=
  ⟨rfl, (fun _ member => nomatch member), Nat.dvd_zero _, Nat.zero_lt_succ _⟩

/-- The payloads built for the repeater are the stream of whole frames up to what the buffer
holds, which is less than 500 bytes of whole frames. -/
theorem analog_rechunking_conserves (link : AnalogLink) (cfg : AnalogPeer) (made : Time) (events : List AnalogEvent) :
    (payloadsOf (analogRun link cfg made events).sent).flatten ++ (analogRun link cfg made events).session.ulawBuffer =
        framesOf events ∧
      (∀ payload ∈ payloadsOf (analogRun link cfg made events).sent, payload.length = 480) ∧
      160 ∣ (analogRun link cfg made events).session.ulawBuffer.length ∧
      (analogRun link cfg made events).session.ulawBuffer.length < 500 := by
  obtain ⟨conserved, groups, whole, short⟩ := @Rechunked.run link _ _ (rechunked_start cfg made) events
  exact ⟨conserved, groups, whole, short⟩

structure Sample where
  code : UInt8
  call : Nat
deriving DecidableEq

def AnalogEvent.starts (link : AnalogLink) (s : AnalogSession) : AnalogEvent → Bool
  | .packet now pkt => pkt.type == 1 && pkt.data != [] && s.startsCall link now pkt
  | _ => false

/-- A session whose calls are counted, with the samples that its buffer holds and the payloads
that left, each with the call that was active. -/
structure Provenance where
  trace : AnalogTrace
  call : Nat := 0
  held : List Sample := []
  sent : List (Nat × List Sample) := []

def AnalogEvent.samples (call : Nat) (event : AnalogEvent) : List Sample := event.frames.map fun code => ⟨code, call⟩

def Provenance.callOf (link : AnalogLink) (p : Provenance) (event : AnalogEvent) : Nat :=
  if event.starts link p.trace.session then p.call + 1 else p.call

def Provenance.step (link : AnalogLink) (p : Provenance) (event : AnalogEvent) : Provenance :=
  let call := p.callOf link event
  let (groups, held) := rechunk hyteraAnalogFrameGroup nrlVoiceFlushWatermark (p.held ++ event.samples call)
  { trace := p.trace.step link event, call, held, sent := p.sent ++ groups.map fun group => (call, group) }

def Provenance.start (cfg : AnalogPeer) (made : Time) : Provenance :=
  { trace := { session := { cfg, lastActivityAt := made } } }

def Provenance.Pure (p : Provenance) : Prop :=
  ∀ payload ∈ p.sent, ∀ sample ∈ payload.2, sample.call = payload.1

instance (p : Provenance) : Decidable p.Pure := inferInstanceAs (Decidable (∀ _ ∈ _, _))

/-- If the event brings the buffer to the watermark, it holds nothing of an earlier call. -/
def Provenance.Unmixed (link : AnalogLink) (p : Provenance) (event : AnalogEvent) : Prop :=
  nrlVoiceFlushWatermark ≤ p.trace.session.ulawBuffer.length + event.frames.length →
    ∀ sample ∈ p.held, sample.call = p.callOf link event

section

variable {link : AnalogLink} {p : Provenance}

structure Provenance.Faithful (p : Provenance) : Prop where
  held : p.held.map Sample.code = p.trace.session.ulawBuffer
  sent : p.sent.map (fun payload => payload.2.map Sample.code) = payloadsOf p.trace.sent
  rechunked : ∃ stream, Rechunked stream p.trace

theorem faithful_start (cfg : AnalogPeer) (made : Time) : (Provenance.start cfg made).Faithful :=
  ⟨rfl, rfl, [], rechunked_start cfg made⟩

theorem Provenance.Faithful.step (faithful : p.Faithful) (event : AnalogEvent) : (p.step link event).Faithful := by
  obtain ⟨stream, rechunked⟩ := faithful.rechunked
  obtain ⟨sent, buffer⟩ := @passesOn_handle link _ rechunked.short event
  have codes : (p.held ++ event.samples (p.callOf link event)).map Sample.code =
      p.trace.session.ulawBuffer ++ event.frames := by
    rw [map_append, faithful.held, samples, map_map]
    exact congrArg _ (map_id _)
  have cut := @rechunk_map _ _ hyteraAnalogFrameGroup nrlVoiceFlushWatermark Sample.code
    (p.held ++ event.samples (p.callOf link event))
  rw [codes] at cut
  refine ⟨?_, ?_, _, rechunked.step event⟩
  · simp only [Provenance.step, AnalogTrace.step, buffer, cut]
  · simp only [Provenance.step, AnalogTrace.step, payloadsOf_append, sent, cut, map_append, faithful.sent, map_map]
    rfl

theorem Provenance.Faithful.length_held_le (faithful : p.Faithful) : p.held.length ≤ hyteraAnalogFrameGroup := by
  obtain ⟨stream, rechunked⟩ := faithful.rechunked
  obtain ⟨n, length⟩ := rechunked.whole
  have short := rechunked.short
  rw [← faithful.held, length_map] at length short
  simp only [hyteraAnalogFrameSamples, hyteraAnalogFrameGroup, nrlVoiceFlushWatermark] at length short ⊢
  omega

theorem pure_step_iff (faithful : p.Faithful) (pure : p.Pure) (event : AnalogEvent) :
    (p.step link event).Pure ↔ p.Unmixed link event := by
  have lengths : (p.held ++ event.samples (p.callOf link event)).length =
      p.trace.session.ulawBuffer.length + event.frames.length := by
    rw [← faithful.held, length_append, length_map, samples, length_map]
  have fresh : ∀ sample ∈ event.samples (p.callOf link event), sample.call = p.callOf link event := by
    intro sample member
    obtain ⟨code, _, rfl⟩ := mem_map.mp member
    rfl
  rw [Provenance.Unmixed, ← lengths, ← forall_mem_rechunk_iff faithful.length_held_le (by decide) (by decide) fresh]
  simp only [Provenance.Pure, Provenance.step, forall_mem_append, forall_mem_map]
  exact and_iff_right pure

end

/-- No payload has a sample of another call than the one it is sent in, exactly when no packet
brings the buffer to the watermark while it holds samples of an earlier call.  The samples are
those of the session. -/
theorem analog_payloads_pure_iff (link : AnalogLink) (cfg : AnalogPeer) (made : Time) (events : List AnalogEvent) :
    (runFrom (Provenance.step link) (.start cfg made) events).Faithful ∧
      (EachState (Provenance.step link) Provenance.Pure (.start cfg made) events ↔
        EachStep (Provenance.step link) (Provenance.Unmixed link) (.start cfg made) events) := by
  have stays : ∀ (p : Provenance) event, p.Faithful → (p.step link event).Faithful :=
    fun _ event faithful => faithful.step event
  refine ⟨runFrom_induct stays (faithful_start cfg made), ?_⟩
  refine eachState_iff_eachStep _ _ events stays ?_ (faithful_start cfg made) fun _ member => nomatch member
  intro p event faithful pure
  exact pure_step_iff faithful pure event

/-- One frame of a call stays in the buffer and goes out with the first frames of the next one. -/
theorem analog_payload_of_two_calls :
    ¬ (runFrom (Provenance.step plainLink) (.start plainPeer (Time.add 0 second))
      [.packet (Time.add 0 (2 * second))
        { type := 1, dmrID := 4600002, callsign := ascii "BG5XYZ", ssid := 1, data := List.replicate 160 0xD5 },
      .packet (Time.add 0 (3 * second))
        { type := 1, dmrID := 4600003, callsign := ascii "BG5DEF", ssid := 1, data := List.replicate 480 0xD5 }]).Pure := by
  decide +kernel

end Ipsc2Mmdvm.Hytera
