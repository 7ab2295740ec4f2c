import Ipsc2Mmdvm.Ipsc.ForwardCalls

namespace Ipsc2Mmdvm.Ipsc

open Data Dmr Proto Translator

/-! A voice call on its way from IPSC to MMDVM. -/

def Translator.translateEach (dmrgo : Dmrgo) :
    Translator → List (ReverseEnv × Bytes) → Checked (Translator × List (List Packet))
  | t, [] => pure (t, [])
  | t, (env, data) :: later => do
    let (t, pkts) ← t.translateToMMDVM dmrgo env (data.getD 0 0) data
    let (t, rest) ← t.translateEach dmrgo later
    pure (t, pkts :: rest)

def Translator.Stream (t : Translator) (callControl : UInt32) (state : ReverseStreamState) : Prop :=
  ∃ rss, t.reverseStreams.find callControl = some rss ∧ t.reverseStreams.deref rss = state

def ReverseStreamState.seenAt (state : ReverseStreamState) (now : Time) : ReverseStreamState :=
  { state with lastSeen := now }

structure ReadAs (dmrgo : Dmrgo) (callControl : UInt32) (call : Call) (data : Bytes) : Prop where
  supported : isSupported (data.getD 0 0) = true
  long : 31 ≤ data.length
  callControl : (received dmrgo (data.getD 0 0) data).callControl = callControl
  call : (received dmrgo (data.getD 0 0) data).call = call

theorem Call.within_self {call : Call} {state : ReverseStreamState} (src : state.src = call.src)
    (dst : state.dst = call.dst) : call.within state = call := by
  simp [Call.within, src, dst]

section

variable {dmrgo : Dmrgo} {t : Translator} {rss : Ref} {call : Call} {data : Bytes} {isEnd : Bool}

theorem translateBurst_first_header (fresh : (t.reverseStreams.deref rss).started = false) :
    ∃ dmrData, t.translateBurst dmrgo call rss ipscBurstVoiceHead isEnd data =
      .ok (t.put rss ((t.reverseStreams.deref rss).afterHeader call),
        [dataPacket t call (t.reverseStreams.deref rss) dataTypeVoiceLCHeader dmrData]) := by
  obtain ⟨dmrData, built⟩ :=
    @buildMMDVMDataPacket_eq dmrgo t call data (t.reverseStreams.deref rss) dataTypeVoiceLCHeader
  refine ⟨dmrData, ?_⟩
  rw [translateBurst, if_pos rfl, fresh, built]
  rfl

theorem translateBurst_repeated_header (started : (t.reverseStreams.deref rss).started = true) :
    t.translateBurst dmrgo call rss ipscBurstVoiceHead isEnd data = .ok (t, []) := by
  rw [translateBurst, if_pos rfl, started]
  rfl

theorem translateBurst_terminator : ∃ dmrData, t.translateBurst dmrgo call rss ipscBurstVoiceTerm true data =
      .ok ((t.put rss (t.reverseStreams.deref rss).afterData).removeReverseStreamAliases rss,
        [dataPacket t call (t.reverseStreams.deref rss) dataTypeTerminatorWithLC dmrData]) := by
  obtain ⟨dmrData, built⟩ :=
    @buildMMDVMDataPacket_eq dmrgo t call data (t.reverseStreams.deref rss) dataTypeTerminatorWithLC
  refine ⟨dmrData, ?_⟩
  rw [translateBurst, if_neg (by decide), if_pos rfl, built]
  rfl

end

section

variable {dmrgo : Dmrgo} {t : Translator} {env : ReverseEnv} {callControl : UInt32} {call : Call}
  {state : ReverseStreamState} {data : Bytes}

theorem stream_put {rss : Ref} (bound : t.reverseStreams.find callControl = some rss) :
    (t.put rss state).Stream callControl state :=
  ⟨rss, bound, by rw [deref_put, if_pos rfl]⟩

theorem Translator.Stream.found (stream : t.Stream callControl state) (read : ReadAs dmrgo callControl call data)
    (env : ReverseEnv) :
    ((received dmrgo (data.getD 0 0) data).stream env t).1.reverseStreams.deref
      ((received dmrgo (data.getD 0 0) data).stream env t).2 = state := by
  obtain ⟨rss, bound, rfl⟩ := stream
  simp only [Received.stream, reverseStream, read.callControl, bound]

section

variable (read : ReadAs dmrgo callControl call data)
  (found : ((received dmrgo (data.getD 0 0) data).stream env t).1.reverseStreams.deref
    ((received dmrgo (data.getD 0 0) data).stream env t).2 = state)

include read found

theorem translateToMMDVM_read : ∃ (seen : Translator) (rss : Ref), t.translateToMMDVM dmrgo env (data.getD 0 0) data =
        seen.translateBurst dmrgo (call.within state) rss (data.getD 30 0) (data.getD 17 0 &&& 0x40 != 0) data ∧
      seen.reverseStreams.find callControl = some rss ∧ seen.reverseStreams.deref rss = state.seenAt env.now := by
  have bound := (lookup_stream (received dmrgo (data.getD 0 0) data) env t).bound
  rw [read.callControl] at bound
  refine ⟨(received dmrgo (data.getD 0 0) data).seen env t, ((received dmrgo (data.getD 0 0) data).stream env t).2, ?_,
    bound, ?_⟩
  · rw [translateToMMDVM_eq read.long read.supported, Received.callWithin, read.call, found]
    rfl
  · rw [Received.seen, deref_put, if_pos rfl, found]
    rfl

theorem translateToMMDVM_first_header (header : data.getD 30 0 = ipscBurstVoiceHead) (fresh : state.started = false) :
    ∃ next source dmrData, t.translateToMMDVM dmrgo env (data.getD 0 0) data =
        .ok (next, [dataPacket source (call.within state) (state.seenAt env.now) dataTypeVoiceLCHeader dmrData]) ∧
      next.Stream callControl ((state.seenAt env.now).afterHeader (call.within state)) := by
  obtain ⟨seen, rss, translated, bound, holds⟩ := translateToMMDVM_read read found
  obtain ⟨dmrData, result⟩ := @translateBurst_first_header dmrgo seen rss (call.within state) data
    (data.getD 17 0 &&& 0x40 != 0) (by rw [holds]; exact fresh)
  rw [header, result, holds] at translated
  exact ⟨_, seen, dmrData, translated, stream_put bound⟩

theorem translateToMMDVM_absorbed_header (header : data.getD 30 0 = ipscBurstVoiceHead) (started : state.started = true) :
    ∃ next, t.translateToMMDVM dmrgo env (data.getD 0 0) data = .ok (next, []) ∧
      next.Stream callControl (state.seenAt env.now) := by
  obtain ⟨seen, rss, translated, bound, holds⟩ := translateToMMDVM_read read found
  rw [header, translateBurst_repeated_header (by rw [holds]; exact started)] at translated
  exact ⟨seen, translated, rss, bound, holds⟩

end

theorem Translator.Stream.voice (stream : t.Stream callControl state) (env : ReverseEnv)
    (read : ReadAs dmrgo callControl call data) (voice : data.getD 30 0 = ipscBurstSlot1 ∨ data.getD 30 0 = ipscBurstSlot2)
    (long : 52 ≤ data.length) :
    ∃ next source burst, burst.voiceData = receivedFrames data ∧ t.translateToMMDVM dmrgo env (data.getD 0 0) data =
        .ok (next, [voicePacket source (call.within state) (state.seenAt env.now) (dmrgo.encodeBurst burst)]) ∧
      next.Stream callControl (state.seenAt env.now).afterVoice := by
  obtain ⟨seen, rss, translated, bound, holds⟩ := translateToMMDVM_read read (stream.found read env)
  obtain ⟨burst, frames, result⟩ := @translateBurst_voice dmrgo seen (call.within state) data rss (data.getD 30 0)
    (data.getD 17 0 &&& 0x40 != 0) voice long
  rw [result, holds] at translated
  exact ⟨_, seen, burst, frames, translated, stream_put bound⟩

theorem Translator.Stream.terminator (stream : t.Stream callControl state) (env : ReverseEnv)
    (read : ReadAs dmrgo callControl call data) (terminator : data.getD 30 0 = ipscBurstVoiceTerm)
    (isEnd : (data.getD 17 0 &&& 0x40 != 0) = true) :
    ∃ next source dmrData, t.translateToMMDVM dmrgo env (data.getD 0 0) data =
      .ok (next, [dataPacket source (call.within state) (state.seenAt env.now) dataTypeTerminatorWithLC dmrData]) := by
  obtain ⟨seen, rss, translated, bound, holds⟩ := translateToMMDVM_read read (stream.found read env)
  obtain ⟨dmrData, result⟩ := @translateBurst_terminator dmrgo seen rss (call.within state) data
  rw [terminator, isEnd, result, holds] at translated
  exact ⟨_, seen, dmrData, translated⟩

end

structure ReverseStreamState.Counts (state : ReverseStreamState) (position : Nat) : Prop where
  started : state.started = true
  burstIndex : state.burstIndex = (position % 6 : Nat)

section

variable {state : ReverseStreamState} {position : Nat}

theorem ReverseStreamState.counts_afterHeader (call : Call) : (state.afterHeader call).Counts 0 := ⟨rfl, rfl⟩

section

variable (counts : state.Counts position)

include counts

theorem ReverseStreamState.Counts.seenAt (now : Time) : (state.seenAt now).Counts position :=
  ⟨counts.started, counts.burstIndex⟩

theorem ReverseStreamState.Counts.afterVoice : state.afterVoice.Counts (position + 1) := by
  refine ⟨counts.started, ?_⟩
  simp only [ReverseStreamState.afterVoice, counts.burstIndex]
  exact next_position position

theorem ReverseStreamState.Counts.position_eq : state.position = (position % 6 : Nat) := by
  simp only [ReverseStreamState.position, counts.burstIndex, tmod_position]
  exact if_neg (by omega)

theorem ReverseStreamState.Counts.sequence (t : Translator) (call : Call)
    (dmrData : DMRData) : (voicePacket t call state dmrData).dtypeOrVSeq.toNat = position % 6 := by
  have small : position % 6 < 2 ^ 64 := Nat.lt_of_lt_of_le (Nat.mod_lt position (by decide)) (by decide)
  simp only [voicePacket, counts.position_eq, Int.toNat_natCast]
  exact Nat.mod_eq_of_lt small

theorem ReverseStreamState.Counts.frameType (t : Translator) (call : Call) (dmrData : DMRData) :
    (voicePacket t call state dmrData).frameType = if position % 6 = 0 then frameTypeVoiceSync else frameTypeVoice := by
  simp only [voicePacket, counts.position_eq, Int.natCast_eq_zero]

end

end

section

variable {dmrgo : Dmrgo} {t next final : Translator} {env : ReverseEnv} {data : Bytes} {pkts : List Packet}
  {arrived later : List (ReverseEnv × Bytes)} {outputs rest : List (List Packet)}

theorem Translator.translateEach_nil : t.translateEach dmrgo [] = .ok (t, []) := rfl

theorem Translator.translateEach_cons (first : t.translateToMMDVM dmrgo env (data.getD 0 0) data = .ok (next, pkts))
    (remaining : next.translateEach dmrgo arrived = .ok (final, outputs)) :
    t.translateEach dmrgo ((env, data) :: arrived) = .ok (final, pkts :: outputs) := by
  rw [translateEach, first]
  simp only [bind, Except.bind, remaining]
  rfl

theorem Translator.translateEach_append (first : t.translateEach dmrgo arrived = .ok (next, outputs))
    (second : next.translateEach dmrgo later = .ok (final, rest)) :
    t.translateEach dmrgo (arrived ++ later) = .ok (final, outputs ++ rest) := by
  induction arrived generalizing t outputs with
  | nil =>
    cases first
    exact second
  | cons arrival arrivals ih =>
    obtain ⟨env, data⟩ := arrival
    obtain ⟨result, translated, rest⟩ := bind_eq_ok first
    obtain ⟨ending, remaining, last⟩ := bind_eq_ok rest
    cases last
    exact translateEach_cons translated (ih remaining)

end

end Ipsc2Mmdvm.Ipsc
