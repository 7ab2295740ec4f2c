import Ipsc2Mmdvm.Data.Segments
import Ipsc2Mmdvm.Dmr.BptcErrors
import Ipsc2Mmdvm.Nrl.Speaking

namespace Ipsc2Mmdvm.Nrl

open Data Dmr Proto GoMap List Option

/-! A talkspurt is a maximal series of packets from one identity without a gap longer than the idle
timeout.  What has been sent with a stream identifier are the packets of the talkspurt of a live
encoder state, or those of one that is over and a terminator. -/

structure Chunk where
  time : Time
  samples : List Int16

def Follows (first second : Chunk) : Prop := Time.sub second.time first.time ≤ streamIdleTimeout

def Late (clock : Time) (chunk : Chunk) : Prop := streamIdleTimeout < Time.sub clock chunk.time

def Event.now : Event → Option Time
  | .receive _ now _ _ => some now
  | .expire now _ => some now
  | .close => none

def Event.isClose : Event → Bool
  | .close => true
  | _ => false

def samplesOf (spurt : List Chunk) : List Int16 := spurt.flatMap Chunk.samples

def chunksOf (heard : List (String × Chunk)) (key : String) : List Chunk :=
  (heard.filter fun entry => entry.1 == key).map Prod.snd

def ofStream (sent : List Packet) (id : UInt64) : List Packet := sent.filter fun packet => packet.streamID == id

section

variable {σ : Type} (rt : Runtime σ) (cfg : DeviceConfig) (start : σ)

def Event.heard : Event → Option (String × Chunk)
  | .receive inboundIDFunc now _ pkt =>
    if (pkt.type = 1 ∨ pkt.type = 9) ∧ sourceID inboundIDFunc pkt ≠ 0 then
      some (encoderKey rt (sourceID inboundIDFunc pkt) pkt, ⟨now, pkt.data.map alawToLinear⟩)
    else none
  | _ => none

def heard (events : List Event) : List (String × Chunk) :=
  (events.takeWhile fun event => !event.isClose).filterMap (Event.heard rt)

structure CarriesLC (dataType : UInt8) (packet : Packet) : Prop where
  frameType : packet.frameType = 2
  dtype : packet.dtypeOrVSeq = dataType.toUInt64
  linkControl : decodeLCFromBurst packet.dmrData =
    some (buildStandardLCBytesForDataType packet.src packet.dst true 0x20 dataType)

structure CarriesVoice (samples : List Int16) (n : Nat) (packet : Packet) : Prop where
  voiceSeq : packet.dtypeOrVSeq.toNat = n % 6
  frameType : packet.frameType = if n % 6 = 0 then 1 else 0
  frames : extractVoiceFramesFromBurst packet.dmrData =
    (ambeAt rt start samples (3 * n), ambeAt rt start samples (3 * n + 1), ambeAt rt start samples (3 * n + 2))

structure IsStream (samples : List Int16) (header : Packet) (voices ending : List Packet) : Prop where
  begins : CarriesLC dataTypeVoiceLCHeader header
  count : voices.length = samples.length / 480
  speaks : ∀ n voice, voices[n]? = some voice → CarriesVoice rt start samples n voice
  ends : ending = [] ∨ ∃ last, ending = [last] ∧ CarriesLC dataTypeTerminatorWithLC last
  numbered : ∀ i packet, (header :: voices ++ ending)[i]? = some packet → packet.seq.toNat = i % 256

variable {rt cfg start} {srcID streamID : UInt32} {samples : List Int16} {id : UInt64}
  {more packets : List Packet} {key : String} {chunk : Chunk} {state : EncodeState σ}
  {spurt chunks : List Chunk} {order : Enumeration String} {drawn : Nat}

theorem toNat_seq (n : Nat) : (UInt32.ofNat n &&& 0xFF).toUInt64.toNat = n % 256 := by
  have mask := Nat.and_two_pow_sub_one_eq_mod (n % 2 ^ 32) 8
  simp only [Nat.reducePow, Nat.add_one_sub_one] at mask
  simp [mask]

theorem carriesLC_lcPacket (dataType : UInt8) (srcID dstID : UInt32) (slot : Int) (colorCode : UInt8) (streamID seq : UInt32) :
    CarriesLC dataType (lcPacket dataType srcID dstID slot colorCode streamID seq) :=
  ⟨rfl, rfl, decodeLCFromBurst_buildLCDataBurst _ _ _⟩

theorem carriesVoice_voiceAt (reliable : Reliable rt start) {n : Nat} (complete : 480 * (n + 1) ≤ samples.length) :
    CarriesVoice rt start samples n (voiceAt rt cfg start srcID streamID samples n) := by
  have size (j : Nat) (small : j < 3) : (ambeAt rt start samples (3 * n + j)).length = 9 :=
    (encode_frameAt reliable (by omega)).2
  refine ⟨?_, ?_, ?_⟩
  · simp only [voiceAt, newVoicePacket, streamPacket, UInt8.toNat_toUInt64, UInt8.toNat_ofNat']
    omega
  · have zero : UInt8.ofNat (n % 6) = 0 ↔ n % 6 = 0 := by
      rw [← UInt8.toNat_inj, UInt8.toNat_ofNat', UInt8.toNat_zero]
      omega
    simp only [voiceAt, newVoicePacket, streamPacket, zero]
  · exact extractVoiceFramesFromBurst_assembleVoiceBurst (size 0 (by decide)) (size 1 (by decide)) (size 2 (by decide))
      _ _ _ _

def lastPacket (cfg : DeviceConfig) (srcID streamID : UInt32) (samples : List Int16) : Packet :=
  newTerminatorPacket srcID cfg.targetTG cfg.slot cfg.colorCode streamID (UInt32.ofNat (samples.length / 160 / 3 + 1))

theorem isStream_spoken (reliable : Reliable rt start) {ending : List Packet}
    (finished : ending = [] ∨ ending = [lastPacket cfg srcID streamID samples]) :
    ∃ header voices, spoken rt cfg start srcID streamID samples ++ ending = header :: voices ++ ending ∧
      IsStream rt start samples header voices ending := by
  have count : samples.length / 160 / 3 = samples.length / 480 := Nat.div_div_eq_div_mul ..
  have entry {n : Nat} {voice : Packet}
      (found : (voices rt cfg start srcID streamID samples (samples.length / 160))[n]? = some voice) :
      n < samples.length / 480 ∧ voice = voiceAt rt cfg start srcID streamID samples n := by
    simp only [voices, count, getElem?_map, map_eq_some_iff, getElem?_eq_some_iff] at found
    obtain ⟨m, ⟨inside, rfl⟩, rfl⟩ := found
    simp only [length_range] at inside
    exact ⟨inside, by rw [getElem_range]⟩
  have length : (voices rt cfg start srcID streamID samples (samples.length / 160)).length = samples.length / 480 := by
    simp only [voices, count, length_map, length_range]
  refine ⟨_, _, rfl, carriesLC_lcPacket .., length, ?_, ?_, ?_⟩
  · intro n voice found
    obtain ⟨inside, rfl⟩ := entry found
    exact carriesVoice_voiceAt reliable (by omega)
  · cases finished with
    | inl none => exact .inl none
    | inr one => exact .inr ⟨_, one, carriesLC_lcPacket ..⟩
  · intro i packet found
    cases i with
    | zero =>
      cases found
      rfl
    | succ n =>
      rw [cons_append, getElem?_cons_succ] at found
      by_cases voice : n < samples.length / 480
      · rw [getElem?_append_left (by omega)] at found
        obtain ⟨-, rfl⟩ := entry found
        exact toNat_seq (n + 1)
      · rw [getElem?_append_right (by omega), length] at found
        cases finished with
        | inl none =>
          rw [none] at found
          cases found
        | inr one =>
          rw [one, getElem?_singleton] at found
          split at found
          · cases found
            have position : samples.length / 160 / 3 + 1 = n + 1 := by omega
            simp only [lastPacket, position]
            exact toNat_seq (n + 1)
          · cases found

theorem ofStream_append (sent more : List Packet) (id : UInt64) :
    ofStream (sent ++ more) id = ofStream sent id ++ ofStream more id :=
  filter_append ..

theorem ofStream_eq_nil {sent : List Packet} (differs : ∀ packet ∈ sent, packet.streamID ≠ id) :
    ofStream sent id = [] := by
  rw [ofStream, filter_eq_nil_iff]
  intro packet member same
  exact differs packet member (eq_of_beq same)

theorem ofStream_append_of_ne {sent : List Packet} {other : UInt64} (own : ∀ packet ∈ more, packet.streamID = other)
    (differs : other ≠ id) :
    ofStream (sent ++ more) id = ofStream sent id := by
  have none : ofStream more id = [] := ofStream_eq_nil fun packet member same => differs ((own packet member).symm.trans same)
  rw [ofStream_append, none, append_nil]

theorem ofStream_eq_self {sent : List Packet} (own : ∀ packet ∈ sent, packet.streamID = id) :
    ofStream sent id = sent := by
  rw [ofStream, filter_eq_self]
  intro packet member
  exact beq_of_eq (own packet member)

theorem streamID_of_mem_spoken {packet : Packet} (member : packet ∈ spoken rt cfg start srcID streamID samples) :
    packet.streamID = streamID.toUInt64 := by
  cases member with
  | head => rfl
  | tail _ later =>
    obtain ⟨n, -, rfl⟩ := mem_map.mp later
    rfl

theorem chunksOf_concat_self (heard : List (String × Chunk)) (key : String) (chunk : Chunk) :
    chunksOf (heard ++ [(key, chunk)]) key = chunksOf heard key ++ [chunk] := by
  simp [chunksOf]

theorem chunksOf_concat_of_ne (heard : List (String × Chunk)) {other : String} (differs : other ≠ key) (chunk : Chunk) :
    chunksOf (heard ++ [(key, chunk)]) other = chunksOf heard other := by
  simp [chunksOf, differs.symm]

theorem Late.mono {clock now : Time} (later : clock ≤ now) (late : Late clock chunk) : Late now chunk :=
  lt_of_lt_of_le late (Time.sub_mono later (Nat.le_refl _))

variable (rt cfg start)

structure Live (chunks : List Chunk) (sent : List Packet) (spurt : List Chunk) (state : EncodeState σ) : Prop where
  segment : LastSegment Follows chunks spurt
  lastSeen : ∀ chunk ∈ chunks.getLast?, chunk.time = state.lastSeen
  speaking : Speaking rt start (samplesOf spurt) ((samplesOf spurt).length / 160) state
  stream : ofStream sent state.streamID.toUInt64 = spoken rt cfg start state.srcID state.streamID (samplesOf spurt)

structure Ended (clock : Time) (chunks : List Chunk) (packets : List Packet) (spurt : List Chunk)
    (srcID streamID : UInt32) : Prop where
  segment : PastSegment Follows (Late clock) chunks spurt
  stream : packets = spoken rt cfg start srcID streamID (samplesOf spurt) ++ [lastPacket cfg srcID streamID (samplesOf spurt)]

structure Streaming (heard : List (String × Chunk)) (clock : Time) (s : Session σ) (sent : List Packet) : Prop where
  live : ∀ key state, s.encoders.lookup key = some state → ∃ spurt, Live rt cfg start (chunksOf heard key) sent spurt state
  silent : ∀ key, s.encoders.lookup key = none → ∀ chunk ∈ (chunksOf heard key).getLast?, Late clock chunk
  apart : ∀ key other state twin, s.encoders.lookup key = some state → s.encoders.lookup other = some twin →
    state.streamID = twin.streamID → key = other
  ended : ∀ id, (∀ key state, s.encoders.lookup key = some state → state.streamID.toUInt64 ≠ id) →
    ofStream sent id = [] ∨
      ∃ key spurt srcID streamID, Ended rt cfg start clock (chunksOf heard key) (ofStream sent id) spurt srcID streamID
  drawnLive : ∀ key state, s.encoders.lookup key = some state → ∃ i < s.drawn, state.streamID = rt.randomStreamID i
  drawnSent : ∀ packet ∈ sent, ∃ i < s.drawn, packet.streamID = (rt.randomStreamID i).toUInt64

variable {rt cfg start} {heardBefore : List (String × Chunk)} {clock now : Time} {s : Session σ} {sent : List Packet}

theorem streaming_start : Streaming rt cfg start [] 0 {} [] := by
  constructor
  case live => simp
  case silent => simp [chunksOf]
  case apart => simp
  case ended => simp [ofStream]
  case drawnLive => simp
  case drawnSent => simp

theorem Live.resent (live : Live rt cfg start chunks sent spurt state)
    (same : ofStream more state.streamID.toUInt64 = ofStream sent state.streamID.toUInt64) :
    Live rt cfg start chunks more spurt state :=
  ⟨live.segment, live.lastSeen, live.speaking, same.trans live.stream⟩

theorem Live.late (live : Live rt cfg start chunks sent spurt state) (idle : state.idle now = true) :
    ∀ chunk ∈ chunks.getLast?, Late now chunk := by
  intro chunk last
  rw [Late, live.lastSeen chunk last]
  exact of_decide_eq_true idle

theorem Ended.later (finished : Ended rt cfg start clock chunks packets spurt srcID streamID) (after : clock ≤ now) :
    Ended rt cfg start now chunks packets spurt srcID streamID :=
  ⟨finished.segment.mono fun _ late => late.mono after, finished.stream⟩

theorem Ended.hear {other : String}
    (finished : Ended rt cfg start now (chunksOf heardBefore other) packets spurt srcID streamID) (time : chunk.time = now) :
    Ended rt cfg start now (chunksOf (heardBefore ++ [(key, chunk)]) other) packets spurt srcID streamID := by
  refine ⟨?_, finished.stream⟩
  by_cases same : other = key
  · rw [same] at finished
    rw [same, chunksOf_concat_self]
    apply finished.segment.concat
    intro earlier late follows
    rw [Follows, time] at follows
    exact absurd late (Int.not_lt.mpr follows)
  · rw [chunksOf_concat_of_ne _ same]
    exact finished.segment

theorem Streaming.later (streaming : Streaming rt cfg start heardBefore clock s sent) (after : clock ≤ now) :
    Streaming rt cfg start heardBefore now s sent where
  live := streaming.live
  silent key absent chunk last := (streaming.silent key absent chunk last).mono after
  apart := streaming.apart
  ended id free := by
    obtain none | ⟨key, spurt, srcID, streamID, finished⟩ := streaming.ended id free
    · exact .inl none
    · exact .inr ⟨key, spurt, srcID, streamID, finished.later after⟩
  drawnLive := streaming.drawnLive
  drawnSent := streaming.drawnSent

theorem mem_expireLocked {packet : Packet} (member : packet ∈ (expireLocked cfg now order s).2) :
    ∃ key state, s.encoders.lookup key = some state ∧ state.idle now = true ∧ packet.streamID = state.streamID.toUInt64 := by
  obtain ⟨key, -, among⟩ := mem_flatMap.mp member
  cases found : s.encoders.lookup key with
  | none => simp [found] at among
  | some state =>
    cases idle : state.idle now with
    | false => simp [found, idle] at among
    | true =>
      simp only [found, idle, if_true, emitTerminatorLocked] at among
      split at among
      · cases among
      · rw [mem_singleton] at among
        exact ⟨key, state, found, idle, by rw [among]; rfl⟩

theorem lookup_expireLocked : (expireLocked cfg now order s).1.encoders.lookup key = some state ↔
      s.encoders.lookup key = some state ∧ state.idle now = false :=
  lookup_deleteWhere_eq_some

section

variable (streaming : Streaming rt cfg start heardBefore clock s sent) (bound : cfg.targetTG ≠ 0)

include streaming bound

theorem Streaming.terminator (order : Enumeration String) (found : s.encoders.lookup key = some state) (idle : state.idle now = true)
    (headerSent : state.headerSent = true) :
    ofStream (expireLocked cfg now order s).2 state.streamID.toUInt64 =
      [newTerminatorPacket state.srcID cfg.targetTG cfg.slot cfg.colorCode state.streamID state.sequence] := by
  simp only [ofStream, expireLocked]
  rw [order.filter_flatMap (mem_keys_iff.mpr ⟨state, found⟩)]
  · simp [found, idle, emitTerminatorLocked, headerSent, bound, newTerminatorPacket, lcPacket, streamPacket]
  · intro other _ differs
    cases present : s.encoders.lookup other with
    | none => rfl
    | some twin =>
      have distinct : twin.streamID ≠ state.streamID := fun same =>
        differs (streaming.apart other key twin state present found same)
      simp only [emitTerminatorLocked]
      split
      · split
        · rfl
        · simp [newTerminatorPacket, lcPacket, streamPacket, UInt32.toUInt64_inj, distinct]
      · rfl

theorem Streaming.expire (after : clock ≤ now) (order : Enumeration String) :
    Streaming rt cfg start heardBefore now (expireLocked cfg now order s).1 (sent ++ (expireLocked cfg now order s).2) := by
  have quiet {id : UInt64} (awake : ∀ key state, s.encoders.lookup key = some state → state.streamID.toUInt64 = id →
      state.idle now = false) : ofStream (sent ++ (expireLocked cfg now order s).2) id = ofStream sent id := by
    have none : ofStream (expireLocked cfg now order s).2 id = [] := by
      apply ofStream_eq_nil
      intro packet member same
      obtain ⟨key, state, found, idle, of⟩ := mem_expireLocked member
      rw [awake key state found (of.symm.trans same)] at idle
      cases idle
    rw [ofStream_append, none, append_nil]
  constructor
  case live =>
    intro key state kept
    obtain ⟨found, awake⟩ := lookup_expireLocked.mp kept
    obtain ⟨spurt, live⟩ := streaming.live key state found
    refine ⟨spurt, live.resent (quiet ?_)⟩
    intro other twin present same
    obtain rfl := streaming.apart other key twin state present found (UInt32.toUInt64_inj.mp same)
    cases present.symm.trans found
    exact awake
  case silent =>
    intro key absent chunk last
    cases found : s.encoders.lookup key with
    | none => exact (streaming.silent key found chunk last).mono after
    | some state =>
      obtain ⟨spurt, live⟩ := streaming.live key state found
      cases idle : state.idle now with
      | false =>
        rw [lookup_expireLocked.mpr ⟨found, idle⟩] at absent
        cases absent
      | true => exact live.late idle chunk last
  case apart =>
    intro key other state twin kept keptTwin same
    exact streaming.apart key other state twin (lookup_expireLocked.mp kept).1 (lookup_expireLocked.mp keptTwin).1 same
  case ended =>
    intro id free
    by_cases owned : ∃ key state, s.encoders.lookup key = some state ∧ state.streamID.toUInt64 = id
    · obtain ⟨key, state, found, rfl⟩ := owned
      obtain ⟨spurt, live⟩ := streaming.live key state found
      cases idle : state.idle now with
      | false => exact absurd rfl (free key state (lookup_expireLocked.mpr ⟨found, idle⟩))
      | true =>
        refine .inr ⟨key, spurt, state.srcID, state.streamID, live.segment.past (live.late idle), ?_⟩
        rw [ofStream_append, live.stream, streaming.terminator bound order found idle live.speaking.headerSent,
          live.speaking.sequence]
        rfl
    · rw [quiet fun key state found same => absurd ⟨key, state, found, same⟩ owned]
      exact (streaming.later after).ended id fun key state found same => owned ⟨key, state, found, same⟩
  case drawnLive =>
    intro key state kept
    exact streaming.drawnLive key state (lookup_expireLocked.mp kept).1
  case drawnSent =>
    intro packet member
    cases mem_append.mp member with
    | inl earlier => exact streaming.drawnSent packet earlier
    | inr fresh =>
      obtain ⟨key, state, found, -, of⟩ := mem_expireLocked fresh
      obtain ⟨i, before, drawn⟩ := streaming.drawnLive key state found
      exact ⟨i, before, of.trans (congrArg UInt32.toUInt64 drawn)⟩

end

theorem Streaming.speak (streaming : Streaming rt cfg start heardBefore now s sent) (time : chunk.time = now)
    {next : EncodeState σ} (live : Live rt cfg start (chunksOf heardBefore key ++ [chunk]) (sent ++ packets) spurt next)
    (own : ∀ packet ∈ packets, packet.streamID = next.streamID.toUInt64)
    (unique : ∀ other state, s.encoders.lookup other = some state → state.streamID = next.streamID → other = key)
    (kept : ∀ state, s.encoders.lookup key = some state → state.streamID = next.streamID) (more : s.drawn ≤ drawn)
    (given : ∃ i < drawn, next.streamID = rt.randomStreamID i) :
    Streaming rt cfg start (heardBefore ++ [(key, chunk)]) now { s with encoders := s.encoders.insert key next, drawn }
      (sent ++ packets) := by
  constructor
  case live =>
    intro other state found
    obtain ⟨rfl, rfl⟩ | ⟨differs, found⟩ := lookup_insert_eq_some.mp found
    · rw [chunksOf_concat_self]
      exact ⟨spurt, live⟩
    · obtain ⟨spurt, before⟩ := streaming.live other state found
      rw [chunksOf_concat_of_ne _ differs]
      refine ⟨spurt, before.resent (ofStream_append_of_ne own ?_)⟩
      intro same
      exact differs (unique other state found (UInt32.toUInt64_inj.mp same).symm)
  case silent =>
    intro other absent
    rw [lookup_insert_eq] at absent
    split at absent
    · cases absent
    · rw [chunksOf_concat_of_ne _ ‹_›]
      exact streaming.silent other absent
  case apart =>
    intro first second state twin found present same
    obtain ⟨rfl, rfl⟩ | ⟨-, old⟩ := lookup_insert_eq_some.mp found <;>
      obtain ⟨rfl, rfl⟩ | ⟨-, oldTwin⟩ := lookup_insert_eq_some.mp present
    · rfl
    · exact (unique second twin oldTwin same.symm).symm
    · exact unique first state old same
    · exact streaming.apart first second state twin old oldTwin same
  case ended =>
    intro id free
    have differs : next.streamID.toUInt64 ≠ id := free key next (Finmap.lookup_insert _)
    have before : ∀ other state, s.encoders.lookup other = some state → state.streamID.toUInt64 ≠ id := by
      intro other state found
      by_cases same : other = key
      · subst other
        rw [kept state found]
        exact differs
      · exact free other state ((Finmap.lookup_insert_of_ne _ same).trans found)
    rw [ofStream_append_of_ne own differs]
    obtain none | ⟨other, past, srcID, streamID, finished⟩ := streaming.ended id before
    · exact .inl none
    · exact .inr ⟨other, past, srcID, streamID, finished.hear time⟩
  case drawnLive =>
    intro other state found
    obtain ⟨-, rfl⟩ | ⟨-, found⟩ := lookup_insert_eq_some.mp found
    · exact given
    · obtain ⟨i, before, drawn⟩ := streaming.drawnLive other state found
      exact ⟨i, Nat.lt_of_lt_of_le before more, drawn⟩
  case drawnSent =>
    intro packet member
    cases mem_append.mp member with
    | inl earlier =>
      obtain ⟨i, before, drawn⟩ := streaming.drawnSent packet earlier
      exact ⟨i, Nat.lt_of_lt_of_le before more, drawn⟩
    | inr fresh =>
      obtain ⟨i, before, drawn⟩ := given
      exact ⟨i, before, (own packet fresh).trans (congrArg UInt32.toUInt64 drawn)⟩

theorem samplesOf_concat (spurt : List Chunk) (chunk : Chunk) :
    samplesOf (spurt ++ [chunk]) = samplesOf spurt ++ chunk.samples := by
  simp [samplesOf]

section

variable (streaming : Streaming rt cfg start heardBefore now s sent) (reliable : Reliable rt start)

include streaming reliable

theorem Streaming.goOn (found : s.encoders.lookup key = some state) (awake : state.idle now = false) (data : List UInt8) :
    Streaming rt cfg start (heardBefore ++ [(key, ⟨now, data.map alawToLinear⟩)]) now
      { s with encoders := s.encoders.insert key (encodeVoice rt cfg now data state).1 }
      (sent ++ (encodeVoice rt cfg now data state).2) := by
  obtain ⟨spurt, live⟩ := streaming.live key state found
  obtain ⟨next, packets, encoded, speaking, grown, sameID, sameSource, seen⟩ :=
    encodeVoice_speaking cfg reliable live.speaking now data
  have own : ∀ packet ∈ packets, packet.streamID = next.streamID.toUInt64 := by
    intro packet member
    rw [sameID]
    exact streamID_of_mem_spoken (grown ▸ mem_append_right _ member)
  have follows : ∀ chunk ∈ (chunksOf heardBefore key).getLast?, Follows chunk ⟨now, data.map alawToLinear⟩ := by
    intro chunk last
    rw [Follows, live.lastSeen chunk last]
    exact Int.not_lt.mp (of_decide_eq_false awake)
  rw [encoded]
  have longer : Live rt cfg start (chunksOf heardBefore key ++ [⟨now, data.map alawToLinear⟩]) (sent ++ packets)
      (spurt ++ [⟨now, data.map alawToLinear⟩]) next := by
    refine ⟨live.segment.extend follows, ?_, ?_, ?_⟩
    · intro chunk last
      rw [getLast?_concat] at last
      cases last
      exact seen.symm
    · rw [samplesOf_concat]
      exact speaking
    · rw [ofStream_append, ofStream_eq_self own, sameID, sameSource, live.stream, samplesOf_concat]
      exact grown
  refine streaming.speak rfl longer own ?_ ?_ (Nat.le_refl _) ?_
  · intro other twin present same
    exact streaming.apart other key twin state present found (same.trans sameID)
  · intro twin present
    cases found.symm.trans present
    exact sameID.symm
  · rw [sameID]
    exact streaming.drawnLive key state found

theorem Streaming.begin (absent : s.encoders.lookup key = none) (fresh : Fresh start state) {i : Nat} (new : s.drawn ≤ i) (counted : i < drawn)
    (given : state.streamID = rt.randomStreamID i) (distinct : Set.InjOn rt.randomStreamID (Set.Iio drawn)) (data : List UInt8) :
    Streaming rt cfg start (heardBefore ++ [(key, ⟨now, data.map alawToLinear⟩)]) now
      { s with encoders := s.encoders.insert key (encodeVoice rt cfg now data state).1, drawn }
      (sent ++ (encodeVoice rt cfg now data state).2) := by
  obtain ⟨next, encoded, speaking, sameID, sameSource, seen⟩ := encodeVoice_fresh cfg reliable fresh now data
  have unused {j : Nat} (before : j < s.drawn) : rt.randomStreamID j ≠ rt.randomStreamID i := by
    intro same
    have index := distinct (Set.mem_Iio.mpr (by omega)) (Set.mem_Iio.mpr counted) same
    omega
  have silent : ofStream sent next.streamID.toUInt64 = [] := by
    apply ofStream_eq_nil
    intro packet member same
    obtain ⟨j, before, drawn⟩ := streaming.drawnSent packet member
    rw [drawn, sameID, given] at same
    exact unused before (UInt32.toUInt64_inj.mp same)
  rw [encoded, ← sameID, ← sameSource]
  have own : ∀ packet ∈ spoken rt cfg start next.srcID next.streamID (data.map alawToLinear),
      packet.streamID = next.streamID.toUInt64 := fun packet member => streamID_of_mem_spoken member
  have live : Live rt cfg start (chunksOf heardBefore key ++ [⟨now, data.map alawToLinear⟩])
      (sent ++ spoken rt cfg start next.srcID next.streamID (data.map alawToLinear)) [⟨now, data.map alawToLinear⟩] next := by
    have samples : samplesOf [⟨now, data.map alawToLinear⟩] = data.map alawToLinear := append_nil _
    refine ⟨LastSegment.start ?_, ?_, ?_, ?_⟩
    · intro chunk last follows
      exact absurd (streaming.silent key absent chunk last) (Int.not_lt.mpr follows)
    · intro chunk last
      rw [getLast?_concat] at last
      cases last
      exact seen.symm
    · rw [samples]
      exact speaking
    · rw [ofStream_append, silent, ofStream_eq_self own, samples]
      rfl
  refine streaming.speak rfl live own ?_ ?_ (by omega) ⟨i, counted, sameID.trans given⟩
  · intro other state present same
    obtain ⟨j, before, drawn⟩ := streaming.drawnLive other state present
    rw [drawn, sameID, given] at same
    exact absurd same (unused before)
  · intro state present
    cases absent.symm.trans present

end

theorem restartIfIdle_fresh (fresh : Fresh start state) (now : Time) (given : state.streamID = rt.randomStreamID drawn) :
    ∃ next i, restartIfIdle rt now (state, drawn + 1) = (next, i + 1) ∧ Fresh start next ∧ drawn ≤ i ∧
      next.streamID = rt.randomStreamID i := by
  simp only [restartIfIdle]
  split
  · exact ⟨_, drawn + 1, rfl, ⟨fresh.vocoder, rfl, rfl, rfl, rfl, rfl⟩, Nat.le_succ drawn, rfl⟩
  · exact ⟨state, drawn, rfl, fresh, Nat.le_refl drawn, given⟩

theorem Streaming.voice (streaming : Streaming rt cfg start heardBefore clock s sent) (reliable : Reliable rt start)
    (bound : cfg.targetTG ≠ 0) (after : clock ≤ now) (order : Enumeration String) (key : String) (srcID : UInt32)
    (data : List UInt8)
    (distinct : Set.InjOn rt.randomStreamID (Set.Iio (handleVoiceLocked rt cfg now order key srcID data s).1.drawn)) :
    Streaming rt cfg start (heardBefore ++ [(key, ⟨now, data.map alawToLinear⟩)]) now
      (handleVoiceLocked rt cfg now order key srcID data s).1
      (sent ++ (handleVoiceLocked rt cfg now order key srcID data s).2) := by
  have purged := streaming.expire bound after order
  have awake {other : String} {state : EncodeState σ}
      (found : (expireLocked cfg now order s).1.encoders.lookup other = some state) : state.idle now = false :=
    (lookup_expireLocked.mp found).2
  simp only [handleVoiceLocked] at distinct ⊢
  cases expired : expireLocked cfg now order s with
  | mk live terminators =>
    simp only [expired] at purged awake distinct ⊢
    cases found : live.encoders.lookup key with
    | some state =>
      have stays : restartIfIdle rt now (state, live.drawn) = (state, live.drawn) := by
        simp only [restartIfIdle, awake found, Bool.false_eq_true, if_false]
      simp only [selectState, found, stays]
      rw [← append_assoc]
      exact purged.goOn reliable found (awake found) data
    | none =>
      have fresh : Fresh start
          { vocoder := start, streamID := rt.randomStreamID live.drawn, srcID : EncodeState σ } :=
        ⟨rfl, rfl, rfl, rfl, rfl, rfl⟩
      obtain ⟨next, i, restarted, begun, new, given⟩ := restartIfIdle_fresh fresh now rfl
      simp only [selectState, found, reliable.creates, restarted] at distinct ⊢
      rw [← append_assoc]
      exact purged.begin reliable found begun new (Nat.lt_succ_self i) given distinct data

theorem le_drawn_restartIfIdle (now : Time) (selected : EncodeState σ × Nat) :
    selected.2 ≤ (restartIfIdle rt now selected).2 := by
  simp only [restartIfIdle]
  split
  · exact Nat.le_succ _
  · exact Nat.le_refl _

theorem le_drawn_selectState {selected : EncodeState σ × Nat} (chosen : selectState rt s key srcID = some selected) :
    s.drawn ≤ selected.2 := by
  simp only [selectState] at chosen
  split at chosen
  · cases chosen
    exact Nat.le_refl _
  · split at chosen
    · cases chosen
    · cases chosen
      exact Nat.le_succ _

theorem handle_frame (event : Event) (s : Session σ) :
    s.drawn ≤ (event.handle rt cfg s).1.drawn ∧ (event.handle rt cfg s).1.closed = (s.closed || event.isClose) := by
  have same : s.drawn ≤ s.drawn ∧ s.closed = (s.closed || false) := ⟨Nat.le_refl _, (Bool.or_false _).symm⟩
  cases event with
  | receive inboundIDFunc now order pkt =>
    simp only [Event.handle, handleNRLPacket, handleVoiceLocked]
    split
    · exact same
    split
    · exact same
    split
    · exact same
    split
    · exact same
    split
    · exact same
    · rename_i selected chosen
      exact ⟨(le_drawn_selectState chosen).trans (le_drawn_restartIfIdle now selected), same.2⟩
  | expire now order =>
    simp only [Event.handle]
    split
    · exact same
    · exact same
  | close => exact ⟨Nat.le_refl _, (Bool.or_true _).symm⟩

theorem Streaming.handle (streaming : Streaming rt cfg start heardBefore clock s sent) (reliable : Reliable rt start)
    (bound : cfg.targetTG ≠ 0) (event : Event) (after : ∀ now, event.now = some now → clock ≤ now)
    (distinct : Set.InjOn rt.randomStreamID (Set.Iio (event.handle rt cfg s).1.drawn)) :
    Streaming rt cfg start (heardBefore ++ if s.closed then [] else (event.heard rt).toList) (event.now.getD clock)
      (event.handle rt cfg s).1 (sent ++ (event.handle rt cfg s).2) := by
  cases event with
  | receive inboundIDFunc now order pkt =>
    have waited : Streaming rt cfg start heardBefore now s sent := streaming.later (after now rfl)
    simp only [Event.handle, handleNRLPacket, Event.heard, Event.now, getD_some] at distinct ⊢
    by_cases voice : pkt.type = 1 ∨ pkt.type = 9
    · have other : ¬(pkt.type ≠ 1 ∧ pkt.type ≠ 9) := fun both => voice.elim both.1 both.2
      simp only [if_neg other, voice, true_and] at distinct ⊢
      by_cases unknown : sourceID inboundIDFunc pkt = 0
      · simpa [unknown] using waited
      · simp only [if_neg unknown, if_neg bound, if_pos unknown] at distinct ⊢
        cases closed : s.closed with
        | true => simpa using waited
        | false =>
          simp only [closed, Bool.false_eq_true, if_false, toList_some] at distinct ⊢
          exact streaming.voice reliable bound (after now rfl) order _ _ _ distinct
    · have other : pkt.type ≠ 1 ∧ pkt.type ≠ 9 := not_or.mp voice
      simpa [if_pos other, voice] using waited
  | expire now order =>
    simp only [Event.handle, Event.heard, Event.now, getD_some, toList_none, ite_self, append_nil]
    split
    · simpa using streaming.later (after now rfl)
    · exact streaming.expire bound (after now rfl) order
  | close =>
    simp only [Event.handle, Event.heard, Event.now, getD_none, toList_none, ite_self, append_nil]
    exact ⟨streaming.live, streaming.silent, streaming.apart, streaming.ended, streaming.drawnLive, streaming.drawnSent⟩

theorem run_concat (events : List Event) (event : Event) :
    run rt cfg (events ++ [event]) = (run rt cfg events).step rt cfg event :=
  runFrom_append

theorem closed_run (events : List Event) : (run rt cfg events).session.closed = events.any Event.isClose := by
  induction events using reverseRecOn with
  | nil => rfl
  | append_singleton events event ih =>
    rw [run_concat, any_append, ← ih, any_cons, any_nil, Bool.or_false]
    exact (handle_frame event _).2

theorem heard_concat (events : List Event) (event : Event) : heard rt (events ++ [event]) =
      heard rt events ++ if events.any Event.isClose then [] else (event.heard rt).toList := by
  induction events with
  | nil =>
    cases event with
    | receive inboundIDFunc now order pkt =>
      cases spoken : (Event.receive inboundIDFunc now order pkt).heard rt <;> simp [heard, Event.isClose, spoken]
    | expire | close => rfl
  | cons first events ih =>
    cases closing : first.isClose with
    | true => simp [heard, closing]
    | false =>
      simp only [heard] at ih
      simp only [heard, cons_append, takeWhile_cons, closing, Bool.not_false, if_true, any_cons,
        Bool.false_or, filterMap_cons]
      split
      · exact ih
      · rw [ih, cons_append]

def clockOf (events : List Event) : Time := (events.filterMap Event.now).getLast?.getD 0

theorem clockOf_concat (events : List Event) (event : Event) :
    clockOf (events ++ [event]) = event.now.getD (clockOf events) := by
  cases read : event.now <;> simp [clockOf, read]

theorem streaming_run (reliable : Reliable rt start) (bound : cfg.targetTG ≠ 0) (events : List Event)
    (ordered : (events.filterMap Event.now).Pairwise (· ≤ ·))
    (distinct : Set.InjOn rt.randomStreamID (Set.Iio (run rt cfg events).session.drawn)) :
    Streaming rt cfg start (heard rt events) (clockOf events) (run rt cfg events).session (run rt cfg events).sent := by
  induction events using reverseRecOn with
  | nil => exact streaming_start
  | append_singleton events event ih =>
    rw [run_concat] at distinct
    rw [filterMap_append, pairwise_append] at ordered
    obtain ⟨ordered, -, across⟩ := ordered
    have drawn := (@handle_frame _ rt cfg event (run rt cfg events).session).1
    have before := ih ordered (distinct.mono (Set.Iio_subset_Iio drawn))
    have after : ∀ now, event.now = some now → clockOf events ≤ now := by
      intro now read
      cases last : (events.filterMap Event.now).getLast? with
      | none => simp [clockOf, last]
      | some earlier =>
        simp only [clockOf, last, getD_some]
        exact across earlier (mem_of_getLast? last) now (by simp [read])
    have next := before.handle reliable bound event after distinct
    rw [closed_run] at next
    rw [heard_concat, clockOf_concat, run_concat]
    exact next

/-- The packets handed to the bridge with one stream identifier are the stream of one talkspurt. -/
theorem nrl_streams_well_formed (rt : Runtime σ) {start : σ} (reliable : Reliable rt start) (cfg : DeviceConfig)
    (bound : cfg.targetTG ≠ 0) (events : List Event) (ordered : (events.filterMap Event.now).Pairwise (· ≤ ·))
    (distinct : Set.InjOn rt.randomStreamID (Set.Iio (run rt cfg events).session.drawn)) (id : UInt64) :
    ofStream (run rt cfg events).sent id = [] ∨
      ∃ key spurt header voices ending, Segment Follows (chunksOf (heard rt events) key) spurt ∧
        ofStream (run rt cfg events).sent id = header :: voices ++ ending ∧
        IsStream rt start (samplesOf spurt) header voices ending := by
  have streaming := streaming_run reliable bound events ordered distinct
  by_cases owned : ∃ key state, (run rt cfg events).session.encoders.lookup key = some state ∧ state.streamID.toUInt64 = id
  · obtain ⟨key, state, found, rfl⟩ := owned
    obtain ⟨spurt, live⟩ := streaming.live key state found
    obtain ⟨header, voices, split, stream⟩ := @isStream_spoken _ rt cfg start state.srcID state.streamID (samplesOf spurt)
      reliable [] (.inl rfl)
    rw [List.append_nil] at split
    exact .inr ⟨key, spurt, header, voices, [], live.segment.toSegment, live.stream.trans split, stream⟩
  · obtain none | ⟨key, spurt, srcID, streamID, finished⟩ :=
      streaming.ended id fun key state found same => owned ⟨key, state, found, same⟩
    · exact .inl none
    · obtain ⟨header, voices, split, stream⟩ := @isStream_spoken _ rt cfg start srcID streamID (samplesOf spurt)
        reliable _ (.inr rfl)
      exact .inr ⟨key, spurt, header, voices, _, finished.segment.toSegment, finished.stream.trans split, stream⟩

end

def plainRuntime : Runtime Unit where
  newVocoder := .ok ()
  encode vocoder pcm := (vocoder, .ok ((pcm.take 9).map fun sample => sample.toUInt16.toUInt8))
  int31 draw := UInt32.ofNat (draw + 1)
  toUpper := upperText

def oneTalkspurt : List Event :=
  [.receive none 2000000000 (.increasing String) ⟨1, 4601234, "BH4AAA", 10, "", List.replicate 500 0x55⟩,
    .receive none 2060000000 (.increasing String) ⟨1, 4601234, "BH4AAA", 10, "", List.replicate 500 0xD5⟩,
    .expire 4060000000 (.increasing String)]

theorem reliable_plainRuntime : Reliable plainRuntime () := by
  refine ⟨rfl, ?_⟩
  intro vocoder pcm size
  refine ⟨_, rfl, ?_⟩
  simp [size, pcmFrameSize]

theorem injOn_plainRuntime {n : Nat} (small : n ≤ 6) : Set.InjOn plainRuntime.randomStreamID (Set.Iio n) := by
  have table : ∀ i < 6, ∀ j < 6, plainRuntime.randomStreamID i = plainRuntime.randomStreamID j → i = j := by decide
  intro i first j second same
  exact table i (Nat.lt_of_lt_of_le first small) j (Nat.lt_of_lt_of_le second small) same

theorem nrl_streams_well_formed_one_talkspurt :
    (ofStream (run plainRuntime ⟨2, 46001, 1⟩ oneTalkspurt).sent 2).length = 4 ∧
      ∃ key spurt header voices ending, Segment Follows (chunksOf (heard plainRuntime oneTalkspurt) key) spurt ∧
        ofStream (run plainRuntime ⟨2, 46001, 1⟩ oneTalkspurt).sent 2 = header :: voices ++ ending ∧
        IsStream plainRuntime () (samplesOf spurt) header voices ending := by
  have length : (ofStream (run plainRuntime ⟨2, 46001, 1⟩ oneTalkspurt).sent 2).length = 4 := by decide +kernel
  refine ⟨length, ?_⟩
  obtain none | stream := nrl_streams_well_formed plainRuntime reliable_plainRuntime ⟨2, 46001, 1⟩ (by decide) oneTalkspurt
    (by decide) (injOn_plainRuntime (by decide +kernel)) 2
  · rw [none] at length
    cases length
  · exact stream

end Ipsc2Mmdvm.Nrl
