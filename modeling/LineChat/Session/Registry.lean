import LineChat.Session.Connection

/-!
# The Registry of Peers

The connections that a server holds, by the number each was given when it was
accepted.

Numbers count up from one and are never given again, so an event for a peer
that is gone cannot reach a newer one, and zero stays free for the listener.
Peers are kept in the order of their numbers, which is the order in which they
were accepted.

A peer that has ended during a batch is only marked. The marked peers are taken
out when the batch is over, in the order in which they were marked.

## Main definitions

* `PeerId`: The number of a peer.
* `Registry`: The peers, the marked ones, and the next number.
* `Registry.allocate`, `Registry.insert`, `Registry.erase`: Coming and going.
* `Registry.mark`: A peer is to be taken out.

## Theorems

* `mem_mark`: Marking adds one peer.
* `nodup_mark`: No peer is marked twice.
-/

namespace LineChat

/-- The number of a peer. -/
structure PeerId where
  number : Nat
  deriving DecidableEq, Repr

namespace PeerId

/-- The number under which events tell of the peer. -/
def token (id : PeerId) : Nat := id.number

/-- The peer that events tell of under a number. -/
def ofToken (token : Nat) : PeerId := ⟨token⟩

/-- The name of a peer in the log. -/
def name (id : PeerId) : String := "peer-" ++ toString id.number

end PeerId

/-- A peer of a server. -/
structure Peer where
  id : PeerId
  connection : Connection

/-- The peers of a server. -/
structure Registry where
  /-- The peers, in the order of their numbers. -/
  peers : List Peer
  /-- The peers that are to be taken out, in the order in which they were
      marked. -/
  marked : List PeerId
  /-- How many peers there may be. -/
  maxPeers : Nat
  /-- The next number to give. -/
  nextNumber : Nat

namespace Registry

/-- A registry without peers. -/
def empty (maxPeers : Nat) : Registry := ⟨[], [], maxPeers, 1⟩

/-- The number of peers. -/
def size (r : Registry) : Nat := r.peers.length

/-- There are no peers. -/
def isEmpty (r : Registry) : Bool := r.peers.isEmpty

/-- There is no place for another peer. -/
def isFull (r : Registry) : Bool := r.maxPeers ≤ r.size

/-- Gives the next number. -/
def allocate (r : Registry) : PeerId × Registry :=
  (⟨r.nextNumber⟩, { r with nextNumber := r.nextNumber + 1 })

/-- A peer comes in. Its number is the latest, so it goes to the end. -/
def insert (r : Registry) (id : PeerId) (c : Connection) : Registry :=
  { r with peers := r.peers ++ [⟨id, c⟩] }

/-- The connection of a peer. -/
def get? (r : Registry) (id : PeerId) : Option Connection :=
  (r.peers.find? (·.id = id)).map (·.connection)

/-- The connection of a peer changes. -/
def set (r : Registry) (id : PeerId) (c : Connection) : Registry :=
  { r with peers := r.peers.map fun p => if p.id = id then ⟨id, c⟩ else p }

/-- The sockets of the peers have other answers, where some are given. -/
def equip (r : Registry) (sockets : PeerId → Option Socket) : Registry :=
  { r with peers := r.peers.map fun p => ⟨p.id, p.connection.equip (sockets p.id)⟩ }

/-- A peer goes. -/
def erase (r : Registry) (id : PeerId) : Registry :=
  { r with peers := r.peers.filter (·.id ≠ id) }

/-- A peer is to be taken out; marking it again changes nothing. -/
def mark (r : Registry) (id : PeerId) : Registry :=
  if id ∈ r.marked then r else { r with marked := r.marked ++ [id] }

/-- Some peer has bytes that wait to go out. -/
def hasPendingOutput (r : Registry) : Bool := r.peers.any (0 < ·.connection.pendingOutput)

theorem mem_mark (r : Registry) (id other : PeerId) :
    other ∈ (r.mark id).marked ↔ other ∈ r.marked ∨ other = id := by
  simp only [mark]
  split
  · rename_i h
    constructor
    · exact Or.inl
    · rintro (h' | rfl)
      · exact h'
      · exact h
  · simp

theorem nodup_mark {r : Registry} (h : r.marked.Nodup) (id : PeerId) :
    (r.mark id).marked.Nodup := by
  simp only [mark]
  split
  · exact h
  · rename_i hid
    rw [List.nodup_append]
    refine ⟨h, by simp, ?_⟩
    intro a ha b hb
    simp only [List.mem_singleton] at hb
    rw [hb]
    rintro rfl
    exact hid ha

end Registry

end LineChat
