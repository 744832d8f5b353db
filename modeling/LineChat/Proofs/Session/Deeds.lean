import LineChat.Session.Server
import Mathlib.Data.List.TakeWhile

/-!
# Reading the Record of a Server

What the deeds of a server say about one peer.

The record is one list for the whole server, in the order in which things were
done, and the statements about peers are about parts of it: the calls on one
socket, the messages in the order in which they were framed, and what was done
after a peer had come in. Each part is read off deed by deed, so it adds up
along a run, and the lemmas here say what the deeds of a single operation add
to each.

A message belongs to a peer if somebody else has sent it. The server's own lines
have no sender and belong to everybody.

## Main definitions

* `callsOn`: The calls on the socket of a peer.
* `framings`: The framed messages with their senders.
* `newcomers`, `departures`: The peers that came in, and those that left.
* `since`: What was done after a peer had come in.
* `fromOthers`, `fromPeer`: The messages that others have sent, or the peer.
* `fromPeers`: The messages that are not the server's own.
* `heardBy`: The messages that a peer has to receive.

## Theorems

* `since_append_of_mem`, `since_append_of_not_mem`: A record in two parts.
* `callsOn_map_called`, `framings_map_framed`: The deeds of one operation.
-/

namespace LineChat

/-- A framed message and the peer that sent it, if it is not the server's own. -/
abbrev Framing := Option PeerId × Message

namespace Deed

/-- The call, if the deed is one on the socket of `q`. -/
def call? (q : PeerId) : Deed → Option SocketCall
  | called id call => if id = q then some call else none
  | _ => none

/-- The message, if the deed is a framing. -/
def framing? : Deed → Option Framing
  | framed sender m => some (sender, m)
  | _ => none

/-- The peer that came in, if the deed is that. -/
def newcomer? : Deed → Option PeerId
  | joined id _ => some id
  | _ => none

/-- The peer that left, if the deed is that. -/
def departed? : Deed → Option PeerId
  | left id => some id
  | _ => none

end Deed

/-- The calls on the socket of a peer, in order. -/
def callsOn (q : PeerId) (ds : List Deed) : List SocketCall := ds.filterMap (·.call? q)

/-- The framed messages, in the order in which they were framed. -/
def framings (ds : List Deed) : List Framing := ds.filterMap Deed.framing?

/-- The peers that came in, in order. -/
def newcomers (ds : List Deed) : List PeerId := ds.filterMap Deed.newcomer?

/-- The peers that left, in order. -/
def departures (ds : List Deed) : List PeerId := ds.filterMap Deed.departed?

/-- What was done after a peer had come in. -/
def since (q : PeerId) (ds : List Deed) : List Deed :=
  (ds.dropWhile fun d => d.newcomer? ≠ some q).tail

/-- The messages that were not sent by a peer. -/
def fromOthers (q : PeerId) (fs : List Framing) : List Message :=
  fs.filterMap fun f => if f.1 = some q then none else some f.2

/-- The messages that were sent by a peer. -/
def fromPeer (q : PeerId) (fs : List Framing) : List Message :=
  fs.filterMap fun f => if f.1 = some q then some f.2 else none

/-- The messages that some peer has sent. -/
def fromPeers (fs : List Framing) : List Message :=
  fs.filterMap fun f => if f.1.isSome then some f.2 else none

/-- The messages that a peer has to receive: those that were framed since it
    came in, unless it has sent them. -/
def heardBy (q : PeerId) (ds : List Deed) : List Message := fromOthers q (framings (since q ds))

@[simp] theorem callsOn_nil (q : PeerId) : callsOn q [] = [] := rfl

@[simp] theorem newcomers_nil : newcomers [] = [] := rfl

@[simp] theorem departures_nil : departures [] = [] := rfl

@[simp] theorem callsOn_append (q : PeerId) (ds es : List Deed) :
    callsOn q (ds ++ es) = callsOn q ds ++ callsOn q es := List.filterMap_append

@[simp] theorem framings_append (ds es : List Deed) :
    framings (ds ++ es) = framings ds ++ framings es := List.filterMap_append

@[simp] theorem newcomers_append (ds es : List Deed) :
    newcomers (ds ++ es) = newcomers ds ++ newcomers es := List.filterMap_append

@[simp] theorem departures_append (ds es : List Deed) :
    departures (ds ++ es) = departures ds ++ departures es := List.filterMap_append

@[simp] theorem fromOthers_append (q : PeerId) (fs gs : List Framing) :
    fromOthers q (fs ++ gs) = fromOthers q fs ++ fromOthers q gs := List.filterMap_append

@[simp] theorem fromPeer_append (q : PeerId) (fs gs : List Framing) :
    fromPeer q (fs ++ gs) = fromPeer q fs ++ fromPeer q gs := List.filterMap_append

@[simp] theorem fromPeers_append (fs gs : List Framing) :
    fromPeers (fs ++ gs) = fromPeers fs ++ fromPeers gs := List.filterMap_append

/-! ## The deeds of one operation -/

theorem callsOn_map_called (q id : PeerId) (calls : List SocketCall) :
    callsOn q (calls.map (.called id)) = if id = q then calls else [] := by
  induction calls with
  | nil => simp
  | cons call calls ih =>
      unfold callsOn at ih ⊢
      rw [List.map_cons, List.filterMap_cons, ih]
      by_cases hid : id = q
      · simp [Deed.call?, hid]
      · simp [Deed.call?, hid]

@[simp] theorem framings_map_called (id : PeerId) (calls : List SocketCall) :
    framings (calls.map (.called id)) = [] := by
  unfold framings
  rw [List.filterMap_map, List.filterMap_eq_nil_iff]
  exact fun _ _ => rfl

@[simp] theorem newcomers_map_called (id : PeerId) (calls : List SocketCall) :
    newcomers (calls.map (.called id)) = [] := by
  unfold newcomers
  rw [List.filterMap_map, List.filterMap_eq_nil_iff]
  exact fun _ _ => rfl

@[simp] theorem departures_map_called (id : PeerId) (calls : List SocketCall) :
    departures (calls.map (.called id)) = [] := by
  unfold departures
  rw [List.filterMap_map, List.filterMap_eq_nil_iff]
  exact fun _ _ => rfl

@[simp] theorem callsOn_map_framed (q : PeerId) (sender : Option PeerId) (ms : List Message) :
    callsOn q (ms.map (.framed sender)) = [] := by
  unfold callsOn
  rw [List.filterMap_map, List.filterMap_eq_nil_iff]
  exact fun _ _ => rfl

@[simp] theorem framings_map_framed (sender : Option PeerId) (ms : List Message) :
    framings (ms.map (.framed sender)) = ms.map (Prod.mk sender) := by
  induction ms with
  | nil => rfl
  | cons m ms ih =>
      unfold framings at ih ⊢
      rw [List.map_cons, List.filterMap_cons, ih]
      rfl

@[simp] theorem newcomers_map_framed (sender : Option PeerId) (ms : List Message) :
    newcomers (ms.map (.framed sender)) = [] := by
  unfold newcomers
  rw [List.filterMap_map, List.filterMap_eq_nil_iff]
  exact fun _ _ => rfl

@[simp] theorem departures_map_framed (sender : Option PeerId) (ms : List Message) :
    departures (ms.map (.framed sender)) = [] := by
  unfold departures
  rw [List.filterMap_map, List.filterMap_eq_nil_iff]
  exact fun _ _ => rfl

theorem fromPeer_map (q : PeerId) (sender : Option PeerId) (ms : List Message) :
    fromPeer q (ms.map (Prod.mk sender)) = if sender = some q then ms else [] := by
  induction ms with
  | nil => simp [fromPeer]
  | cons m ms ih =>
      unfold fromPeer at ih ⊢
      rw [List.map_cons, List.filterMap_cons, ih]
      by_cases hsender : sender = some q
      · simp [hsender]
      · simp [hsender]

theorem fromPeers_map (sender : Option PeerId) (ms : List Message) :
    fromPeers (ms.map (Prod.mk sender)) = if sender.isSome then ms else [] := by
  induction ms with
  | nil => simp [fromPeers]
  | cons m ms ih =>
      unfold fromPeers at ih ⊢
      rw [List.map_cons, List.filterMap_cons, ih]
      by_cases hsender : sender.isSome = true
      · simp [hsender]
      · simp [hsender]

/-! ## Since a peer came in -/

-- The record that is dropped is the one before the peer came in, and its coming
-- in.
theorem since_append_of_mem {q : PeerId} {ds : List Deed} (h : q ∈ newcomers ds) (es : List Deed) :
    since q (ds ++ es) = since q ds ++ es := by
  unfold since
  have hsome : ds.dropWhile (fun d => decide (d.newcomer? ≠ some q)) ≠ [] := by
    intro hnil
    rw [List.dropWhile_eq_nil_iff] at hnil
    rcases List.mem_filterMap.mp h with ⟨d, hd, hq⟩
    have hnot := hnil d hd
    simp [hq] at hnot
  rw [List.dropWhile_append, if_neg (by simpa using hsome), List.tail_append_of_ne_nil hsome]

theorem since_append_of_not_mem {q : PeerId} {ds : List Deed} (h : q ∉ newcomers ds)
    (es : List Deed) : since q (ds ++ es) = since q es := by
  unfold since
  rw [List.dropWhile_append_of_pos]
  intro d hd
  rw [decide_eq_true_iff]
  intro hq
  exact h (List.mem_filterMap.mpr ⟨d, hd, hq⟩)

theorem since_of_not_mem {q : PeerId} {ds : List Deed} (h : q ∉ newcomers ds) :
    since q ds = [] := by
  have hnil := since_append_of_not_mem h []
  rwa [List.append_nil] at hnil

-- What a peer has to receive goes on with the messages that are framed from now
-- on, once it has come in.
theorem heardBy_append_of_mem {q : PeerId} {ds : List Deed} (h : q ∈ newcomers ds)
    (es : List Deed) : heardBy q (ds ++ es) = heardBy q ds ++ fromOthers q (framings es) := by
  unfold heardBy
  rw [since_append_of_mem h, framings_append, fromOthers_append]

end LineChat
