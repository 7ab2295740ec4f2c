import Ipsc2Mmdvm.Ipsc.Translator

namespace Ipsc2Mmdvm.Ipsc

open Data Dmr Proto PtrMap

/-! A packet carries the ID of a stream that the translator has, or the next number if its call
control is not known. -/

def Translator.HasStream (t : Translator) (id : UInt32) : Prop :=
  ∃ callControl rss, t.reverseStreams.find callControl = some rss ∧
    (t.reverseStreams.deref rss).streamID = id

instance (t : Translator) (id : UInt32) : Decidable (t.HasStream id) :=
  decidable_of_iff
    ((t.reverseStreams.findWhere (.ranked UInt32.toNat fun _ _ => UInt32.toNat.inj) fun _ state => state.streamID == id).isSome = true)
    (by
      constructor
      · intro found
        obtain ⟨⟨callControl, rss⟩, found⟩ := Option.isSome_iff_exists.mp found
        obtain ⟨present, same⟩ := PtrMap.findWhere_some found
        exact ⟨callControl, rss, present, by simpa using same⟩
      · intro has
        obtain ⟨callControl, rss, present, same⟩ := has
        exact PtrMap.findWhere_isSome _ _ present (by simpa using same))

def Translator.nextNumber (t : Translator) : UInt32 :=
  if t.nextStreamID + 1 = 0 then 1 else t.nextStreamID + 1

def Translator.knows (t : Translator) (data : Bytes) : Bool :=
  (t.reverseStreams.find (uint32At (slice data 13 17) 0)).isSome

def Translator.Starts (t : Translator) (data : Bytes) (id : UInt32) : Prop :=
  t.knows data = false ∧ id = t.nextNumber

instance (t : Translator) (data : Bytes) (id : UInt32) : Decidable (t.Starts data id) :=
  inferInstanceAs (Decidable (_ ∧ _))

section

variable {t next : Translator} {data : Bytes} {rss : Ref} {state : ReverseStreamState} {id callControl : UInt32}

theorem streamID_put (same : state.streamID = (t.reverseStreams.deref rss).streamID) (other : Ref) :
    ((t.put rss state).reverseStreams.deref other).streamID = (t.reverseStreams.deref other).streamID := by
  simp only [Translator.put, deref_modify]
  split
  · rename_i equal
    rw [equal, same]
  · rfl

theorem hasStream_put (same : state.streamID = (t.reverseStreams.deref rss).streamID)
    (has : (t.put rss state).HasStream id) : t.HasStream id := by
  obtain ⟨callControl, shared, present, stream⟩ := has
  exact ⟨callControl, shared, present, (streamID_put same shared).symm.trans stream⟩

theorem hasStream_removeReverseStreamAliases (has : (t.removeReverseStreamAliases rss).HasStream id) :
    t.HasStream id := by
  obtain ⟨callControl, shared, present, stream⟩ := has
  exact ⟨callControl, shared, (find_deleteWhere.mp present).1, stream⟩

def Carries (t : Translator) (rss : Ref) (result : Translator × List Packet) : Prop :=
  (∀ pkt ∈ result.2, pkt.streamID = (t.reverseStreams.deref rss).streamID.toUInt64) ∧
    ∀ id, result.1.HasStream id → t.HasStream id

theorem carries_nothing : Carries t rss (t, []) := ⟨by simp, fun _ has => has⟩

theorem carries_put {pkt : Packet} (carried : pkt.streamID = (t.reverseStreams.deref rss).streamID.toUInt64)
    (same : state.streamID = (t.reverseStreams.deref rss).streamID) : Carries t rss (t.put rss state, [pkt]) :=
  ⟨by simpa using carried, fun _ has => hasStream_put same has⟩

theorem Carries.removeReverseStreamAliases {pkts : List Packet} (carries : Carries t rss (next, pkts)) :
    Carries t rss (next.removeReverseStreamAliases rss, pkts) :=
  ⟨carries.1, fun id has => carries.2 id (hasStream_removeReverseStreamAliases has)⟩

theorem hasStream_store {other : UInt32} (present : t.reverseStreams.find other = some rss)
    (has : { t with reverseStreams := t.reverseStreams.store callControl rss }.HasStream id) :
    t.HasStream id := by
  obtain ⟨key, shared, stored, stream⟩ := has
  rw [deref_store] at stream
  rw [find_store (lt_next present)] at stored
  split at stored
  · cases stored
    exact ⟨other, rss, present, stream⟩
  · exact ⟨key, shared, stored, stream⟩

theorem hasStream_create {number : UInt32} (has : { t with
        nextStreamID := number
        reverseStreams := (t.reverseStreams.alloc state).store callControl t.reverseStreams.next }.HasStream id) :
    t.HasStream id ∨ id = state.streamID := by
  obtain ⟨key, shared, stored, stream⟩ := has
  rw [deref_store, deref_alloc] at stream
  split at stream
  · exact .inr stream.symm
  · rename_i older
    rw [find_create] at stored
    split at stored
    · cases stored
      exact absurd rfl older
    · exact .inl ⟨key, shared, stored, stream⟩

structure Numbered (t : Translator) (data : Bytes) (result : Translator × List Packet) : Prop where
  carried : ∀ pkt ∈ result.2, ∃ id, pkt.streamID = id.toUInt64 ∧ (t.HasStream id ∨ t.Starts data id)
  remains : ∀ id, result.1.HasStream id → t.HasStream id ∨ t.Starts data id

theorem numbered_nothing : Numbered t data (t, []) where
  carried := by simp
  remains _ has := .inl has

theorem Carries.numbered {result : Translator × List Packet} (carries : Carries (next.put rss state) rss result)
    (same : state.streamID = (next.reverseStreams.deref rss).streamID)
    (stream : t.HasStream (next.reverseStreams.deref rss).streamID ∨ t.Starts data (next.reverseStreams.deref rss).streamID)
    (before : ∀ id, next.HasStream id → t.HasStream id ∨ id = (next.reverseStreams.deref rss).streamID) :
    Numbered t data result where
  carried pkt member := by
    refine ⟨(next.reverseStreams.deref rss).streamID, ?_, stream⟩
    rw [carries.1 pkt member, ← same]
    simp [Translator.put]
  remains id has := by
    cases before id (hasStream_put same (carries.2 id has)) with
    | inl older => exact .inl older
    | inr equal => exact equal ▸ stream

end

end Ipsc2Mmdvm.Ipsc
