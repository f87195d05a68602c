import Multifrost.Router.Protocol

/-!
# The peer registry

The map of live peers of `router/src/registry.rs`.  Every operation takes the lock once, so each
is one atomic step on the map.  A sink is identified by its connection: `PeerSender` is the
connection whose websocket the sink writes to.
-/

namespace Multifrost.Router

/-- Connections are numbered in the order in which `serve` accepts them. -/
abbrev ConnId := Nat

/-- `Arc<Mutex<WebSocketWrite>>`, up to identity. -/
abbrev PeerSender := ConnId

/-- A reading of the monotonic clock. -/
abbrev Instant := Nat

structure PeerSnapshot where
  peerId : String
  peerClass : PeerClass
  connected : Bool
deriving DecidableEq

structure PeerRecord where
  peerId : String
  peerClass : PeerClass
  sender : PeerSender
  connected : Bool
  lastHeartbeat : Option Instant
deriving DecidableEq

structure PeerRegistry where
  peers : String → Option PeerRecord

namespace PeerRegistry

def new : PeerRegistry := ⟨fun _ => none⟩

/-- `now` is the value `Instant::now()` returns during the operation. -/
def insertLivePeer (reg : PeerRegistry) (peerId : String) (peerClass : PeerClass)
    (sender : PeerSender) (now : Instant) : Except RouterError PeerRegistry :=
  if (reg.peers peerId).isSome then
    .error (.duplicatePeerId peerId)
  else
    .ok ⟨Function.update reg.peers peerId (some ⟨peerId, peerClass, sender, true, some now⟩)⟩

def lookupByPeerId (reg : PeerRegistry) (peerId : String) : Option PeerSnapshot :=
  (reg.peers peerId).map fun record => ⟨record.peerId, record.peerClass, record.connected⟩

def senderByPeerId (reg : PeerRegistry) (peerId : String) : Option PeerSender :=
  (reg.peers peerId).map fun record => record.sender

def removeByPeerId (reg : PeerRegistry) (peerId : String) : PeerRegistry × Option PeerSnapshot :=
  (⟨Function.update reg.peers peerId none⟩,
    (reg.peers peerId).map fun record => ⟨record.peerId, record.peerClass, false⟩)

def snapshotPeerExists (reg : PeerRegistry) (peerId : String) : Bool := (reg.peers peerId).isSome

def snapshotPeerClass (reg : PeerRegistry) (peerId : String) : Option PeerClass :=
  (reg.peers peerId).map fun record => record.peerClass

def markHeartbeat (reg : PeerRegistry) (peerId : String) (now : Instant) : PeerRegistry :=
  ⟨Function.update reg.peers peerId
    ((reg.peers peerId).map fun record => { record with lastHeartbeat := some now })⟩

/-- A registration succeeds exactly when the id is free. -/
theorem insertLivePeer_eq_ok {reg reg' : PeerRegistry} {peerId : String} {peerClass : PeerClass}
    {sender : PeerSender} {now : Instant} :
    reg.insertLivePeer peerId peerClass sender now = .ok reg' ↔
      reg.peers peerId = none ∧
      reg' = ⟨Function.update reg.peers peerId
        (some ⟨peerId, peerClass, sender, true, some now⟩)⟩ := by
  unfold insertLivePeer
  cases h : reg.peers peerId <;> simp [eq_comm]

@[simp] theorem removeByPeerId_peers (reg : PeerRegistry) (x y : String) :
    (reg.removeByPeerId x).1.peers y = if y = x then none else reg.peers y := by
  simp [removeByPeerId, Function.update_apply]

theorem markHeartbeat_peers (reg : PeerRegistry) (x y : String) (now : Instant) :
    (reg.markHeartbeat x now).peers y = if y = x then
      (reg.peers x).map fun record => { record with lastHeartbeat := some now }
    else reg.peers y := by
  simp [markHeartbeat, Function.update_apply]

/-- A heartbeat changes no field but the time of the last one. -/
theorem markHeartbeat_eq_some {reg : PeerRegistry} {x y : String} {now : Instant}
    {record : PeerRecord} (h : (reg.markHeartbeat x now).peers y = some record) :
    ∃ old, reg.peers y = some old ∧ record.sender = old.sender ∧
      record.peerClass = old.peerClass ∧ record.connected = old.connected ∧
      record.peerId = old.peerId := by
  rw [markHeartbeat_peers] at h
  split_ifs at h with hy
  · rw [Option.map_eq_some_iff] at h
    obtain ⟨old, hold, rfl⟩ := h
    exact ⟨old, hy ▸ hold, rfl, rfl, rfl, rfl⟩
  · exact ⟨record, h, rfl, rfl, rfl, rfl⟩

end PeerRegistry

end Multifrost.Router
