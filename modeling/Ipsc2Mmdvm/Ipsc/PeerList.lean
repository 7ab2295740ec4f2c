import Ipsc2Mmdvm.Data.Rechunk
import Ipsc2Mmdvm.Ipsc.Server

namespace Ipsc2Mmdvm.Ipsc

open Data Proto
open List hiding Vector

/-! A record has eleven bytes, but `To4` of an IPv6 address has none, so that such a peer gets a
record of seven, and the length of a long list is written as 65535. -/

structure PeerRecord where
  peerID : UInt32
  ip : Bytes
  port : Nat
  mode : UInt8
deriving DecidableEq

def uint16At (data : Bytes) (i : Nat) : Nat := (data.getD i 0).toNat * 256 + (data.getD (i + 1) 0).toNat

def readRecord (record : Bytes) : PeerRecord where
  peerID := uint32At record 0
  ip := slice record 4 8
  port := uint16At record 8
  mode := record.getD 10 0

/-- The sender and the records of a reply: seven bytes, of which the last two are the length of
the rest, and a rest of whole records. -/
def readPeerListReply (reply : Bytes) : Option (UInt32 × List PeerRecord) :=
  let records := reply.drop 7
  let cut := cutGroups 11 records.length records
  if reply.getD 0 0 = 0x93 ∧ 7 ≤ reply.length ∧ uint16At reply 5 = records.length ∧ cut.2 = [] then
    some (uint32At reply 1, cut.1.map readRecord)
  else none

section

variable (cfg : ServerConfig) (order : Enumeration UInt32) (peers : Peers)

def wirePort (addr : UDPAddr) : Nat := if addr.port > 65535 then 0 else addr.port

def recordOf (peer : Peer) : Option PeerRecord :=
  peer.addr.bind fun addr =>
    if (cfg.to4 addr.ip).length = 4 then some ⟨peer.id, cfg.to4 addr.ip, wirePort addr, peer.mode⟩ else none

def listedPeers : List Peer := (order.order peers.keys).filterMap peers.lookup

def ReadsAsPeers : Prop :=
  ∃ records, readPeerListReply (cfg.buildPeerListReply order peers) = some (cfg.localID, records) ∧
    records.Perm ((listedPeers order peers).filterMap (recordOf cfg))

def peerBytes (peer : Peer) : Bytes :=
  match peer.addr with
  | none => []
  | some addr => putUint32 peer.id ++ cfg.to4 addr.ip ++ uint16ToBytes (wirePort addr) ++ [peer.mode]

end

section

variable {cfg : ServerConfig} {order : Enumeration UInt32} {peers : Peers} {peer : Peer}

theorem mem_listedPeers : peer ∈ listedPeers order peers ↔ ∃ id, peers.lookup id = some peer := by
  simp only [listedPeers, mem_filterMap, order.mem_order]
  constructor
  · intro listed
    obtain ⟨id, _, found⟩ := listed
    exact ⟨id, found⟩
  · intro stored
    obtain ⟨id, found⟩ := stored
    exact ⟨id, GoMap.mem_keys_iff.mpr ⟨peer, found⟩, found⟩

theorem uint16At_uint16ToBytes (front rest : Bytes) {value : Nat} (small : value ≤ 65535) :
    uint16At (front ++ (uint16ToBytes value ++ rest)) front.length = value := by
  have high : (front ++ (uint16ToBytes value ++ rest)).getD front.length 0 = (value / 256).toUInt8 := by
    simp [uint16ToBytes]
  have low : (front ++ (uint16ToBytes value ++ rest)).getD (front.length + 1) 0 = value.toUInt8 := by
    simp [uint16ToBytes]
  rw [uint16At, high, low]
  simp only [Nat.toUInt8_eq, UInt8.toNat_ofNat']
  omega

theorem wirePort_le (addr : UDPAddr) : wirePort addr ≤ 65535 := by
  simp only [wirePort]
  split <;> omega

theorem readRecord_peerBytes {addr : UDPAddr} (known : peer.addr = some addr) (ipv4 : (cfg.to4 addr.ip).length = 4) :
    (peerBytes cfg peer).length = 11 ∧ recordOf cfg peer = some (readRecord (peerBytes cfg peer)) := by
  simp only [recordOf, peerBytes, known, Option.bind_some, if_pos ipv4]
  generalize cfg.to4 addr.ip = ip at ipv4
  match ip, ipv4 with
  | [a, b, c, d], _ =>
    refine ⟨rfl, congrArg some ?_⟩
    have peerID := uint32At_append [] ([a, b, c, d] ++ uint16ToBytes (wirePort addr) ++ [peer.mode]) peer.id
    have port := uint16At_uint16ToBytes (putUint32 peer.id ++ [a, b, c, d]) [peer.mode] (wirePort_le addr)
    rw [readRecord, PeerRecord.mk.injEq]
    exact ⟨peerID.symm, rfl, port.symm, rfl⟩

theorem records_of_ipv4 {listed : List Peer} (ipv4 : ∀ peer ∈ listed, ∀ addr ∈ peer.addr, (cfg.to4 addr.ip).length = 4) :
    ∃ pieces : List Bytes, listed.flatMap (peerBytes cfg) = pieces.flatten ∧ (∀ piece ∈ pieces, piece.length = 11) ∧
      pieces.map readRecord = listed.filterMap (recordOf cfg) := by
  induction listed with
  | nil => exact ⟨[], rfl, nofun, rfl⟩
  | cons peer listed ih =>
    obtain ⟨pieces, joined, whole, records⟩ := ih fun other member => ipv4 other (mem_cons_of_mem _ member)
    cases known : peer.addr with
    | none =>
      refine ⟨pieces, ?_, whole, ?_⟩
      · simp [peerBytes, known, joined]
      · simp [recordOf, known, records]
    | some addr =>
      obtain ⟨length, record⟩ := readRecord_peerBytes known (ipv4 peer mem_cons_self addr known)
      refine ⟨peerBytes cfg peer :: pieces, ?_, forall_mem_cons.mpr ⟨length, whole⟩, ?_⟩
      · rw [flatMap_cons, joined, flatten_cons]
      · rw [map_cons, filterMap_cons_some record, records]

theorem ipv4_of_length {listed : List Peer} :
    11 * (listed.filterMap (recordOf cfg)).length ≤ (listed.flatMap (peerBytes cfg)).length ∧
      ((listed.flatMap (peerBytes cfg)).length = 11 * (listed.filterMap (recordOf cfg)).length →
        ∀ peer ∈ listed, ∀ addr ∈ peer.addr, (cfg.to4 addr.ip).length = 4) := by
  induction listed with
  | nil => exact ⟨le_rfl, nofun⟩
  | cons peer listed ih =>
    obtain ⟨enough, exact⟩ := ih
    rw [flatMap_cons, length_append, forall_mem_cons]
    cases known : peer.addr with
    | none =>
      have record : recordOf cfg peer = none := by simp [recordOf, known]
      rw [filterMap_cons_none record]
      simp only [peerBytes, known, length_nil, Nat.zero_add]
      exact ⟨enough, fun same => ⟨nofun, exact same⟩⟩
    | some addr =>
      by_cases ipv4 : (cfg.to4 addr.ip).length = 4
      · obtain ⟨length, record⟩ := readRecord_peerBytes known ipv4
        rw [filterMap_cons_some record, length_cons, length]
        refine ⟨by omega, fun same => ⟨?_, exact (by omega)⟩⟩
        intro other member
        cases member
        exact ipv4
      · have record : recordOf cfg peer = none := by simp [recordOf, known, ipv4]
        have length : 0 < (peerBytes cfg peer).length := by simp [peerBytes, known]
        rw [filterMap_cons_none record]
        exact ⟨by omega, fun same => by omega⟩

theorem read_buildPeerListReply (cfg : ServerConfig) (order : Enumeration UInt32) (peers : Peers) :
    readPeerListReply (cfg.buildPeerListReply order peers) = if (cfg.buildPeerList order peers).length ≤ 65535 ∧
          (cutGroups 11 (cfg.buildPeerList order peers).length (cfg.buildPeerList order peers)).2 = [] then
        some (cfg.localID,
          (cutGroups 11 (cfg.buildPeerList order peers).length (cfg.buildPeerList order peers)).1.map readRecord)
      else none := by
  simp only [ServerConfig.buildPeerListReply]
  generalize cfg.buildPeerList order peers = list
  have sender := uint32At_append [0x93] (uint16ToBytes (min list.length 65535) ++ list) cfg.localID
  have length := uint16At_uint16ToBytes (0x93 :: putUint32 cfg.localID) list (Nat.min_le_right list.length 65535)
  have rest : (0x93 :: putUint32 cfg.localID ++ uint16ToBytes (min list.length 65535) ++ list).drop 7 = list := rfl
  have field : uint16At (0x93 :: putUint32 cfg.localID ++ uint16ToBytes (min list.length 65535) ++ list) 5 =
      min list.length 65535 := by
    rw [append_assoc]
    exact length
  have first : uint32At (0x93 :: putUint32 cfg.localID ++ uint16ToBytes (min list.length 65535) ++ list) 1 = cfg.localID := by
    rw [append_assoc]
    exact sender
  simp only [readPeerListReply, rest, field, first]
  congr 1
  simp [putUint32, uint16ToBytes]

end

/-- A peer reads the reply as the table exactly if no peer has an address that is none of IPv4,
and the records are not more than the length field can tell. -/
theorem peer_list_readable_iff (cfg : ServerConfig) (order : Enumeration UInt32) (peers : Peers) :
    ReadsAsPeers cfg order peers ↔
      (∀ id peer, peers.lookup id = some peer → ∀ addr ∈ peer.addr, (cfg.to4 addr.ip).length = 4) ∧
        ((listedPeers order peers).filterMap (recordOf cfg)).length ≤ 5957 := by
  have list : cfg.buildPeerList order peers = (listedPeers order peers).flatMap (peerBytes cfg) := rfl
  rw [ReadsAsPeers, read_buildPeerListReply, list]
  constructor
  · intro readable
    obtain ⟨records, read, same⟩ := readable
    rw [Option.ite_none_right_eq_some] at read
    obtain ⟨⟨short, whole⟩, equal⟩ := read
    obtain ⟨_, rfl⟩ := Prod.mk.inj (Option.some.inj equal)
    have count := same.length_eq
    have total := @length_cutGroups _ 11 ((listedPeers order peers).flatMap (peerBytes cfg)).length
      ((listedPeers order peers).flatMap (peerBytes cfg))
    rw [List.length_map] at count
    rw [whole, count, List.length_nil] at total
    refine ⟨fun id peer found => ipv4_of_length.2 total.symm peer (mem_listedPeers.mpr ⟨id, found⟩), by omega⟩
  · intro condition
    obtain ⟨ipv4, few⟩ := condition
    obtain ⟨pieces, joined, whole, records⟩ := @records_of_ipv4 cfg (listedPeers order peers) fun peer member => by
      obtain ⟨id, found⟩ := mem_listedPeers.mp member
      exact ipv4 id peer found
    have cut := cutGroups_flatten whole (by decide) (le_refl pieces.flatten.length)
    have total := @length_cutGroups _ 11 pieces.flatten.length pieces.flatten
    have count := congrArg List.length records
    rw [List.length_map] at count
    simp only [cut, List.length_nil] at total
    rw [joined, cut, if_pos ⟨by omega, rfl⟩, records]
    exact ⟨_, rfl, .rfl⟩

/-- A peer that registered over IPv6. -/
theorem peer_list_with_ipv6 :
    let cfg : ServerConfig :=
      { authEnabled := false, hmac := fun _ => Vector.replicate 20 0, localID := 1
        to4 := fun ip => if ip = "192.0.2.1" then [192, 0, 2, 1] else [] }
    let peers : Peers := (upsertPeer 0 ∅ 7 { ip := "2001:db8::1", port := 50000 } 0x6A #v[0, 0, 0, 0x0D]).1
    cfg.buildPeerListReply (.ranked UInt32.toNat injective_toNat_uint32) peers =
        [0x93, 0, 0, 0, 1, 0, 7, 0, 0, 0, 7, 0xC3, 0x50, 0x6A] ∧
      ¬ ReadsAsPeers cfg (.ranked UInt32.toNat injective_toNat_uint32) peers := by
  intro cfg peers
  refine ⟨by decide +kernel, ?_⟩
  intro readable
  obtain ⟨records, read, _⟩ := readable
  have unread : readPeerListReply (cfg.buildPeerListReply (.ranked UInt32.toNat injective_toNat_uint32) peers) = none := by
    decide +kernel
  rw [unread] at read
  cases read

end Ipsc2Mmdvm.Ipsc
