import LineChat.Proofs.Line.Resuming
import LineChat.Proofs.Session.Inbox

/-!
# The Server's Own Lines

What a server says to all of its peers, also after a call that was refused.

The bytes of the server's own go through a framer of the server, and no other
operation touches that framer. So what a server has said is decided by the
pieces it was fed, whatever it read, accepted or relayed in between: it is what
a framer keeps of them (`Split.keptAll`).

A peer whose record is too long is closed, and its framer goes with it. The
server goes on with its own. What a refusal has left there begins the next
record, and every line that is fed then is longer by it. That the next line is
said as it was fed is therefore one condition on what is held: there is nothing.

## Main definitions

* `fromServer`: The messages of the server's own.
* `announced`: The pieces that a server was fed.
* `ServerHistory.Speaks`: What the server has said, and what it holds.

## Theorems

* `update_says_nothing`, `feed_says`: One operation.
* `speaks_serveAll`: Every history.
* `own_lines_in_step`: What a server says.
* `refused_feed_keeps_record_head`: A line of two records, and one refused.
-/

namespace LineChat

/-- The messages of the server's own. -/
def fromServer (fs : List Framing) : List Message :=
  fs.filterMap fun f => if f.1.isNone then some f.2 else none

@[simp] theorem fromServer_append (fs gs : List Framing) :
    fromServer (fs ++ gs) = fromServer fs ++ fromServer gs := List.filterMap_append

theorem fromServer_map (sender : Option PeerId) (ms : List Message) :
    fromServer (ms.map (Prod.mk sender)) = if sender.isNone then ms else [] := by
  induction ms with
  | nil => simp [fromServer]
  | cons m ms ih =>
      unfold fromServer at ih ⊢
      rw [List.map_cons, List.filterMap_cons, ih]
      cases sender <;> rfl

/-- The bytes that the server is fed, if the request is that. -/
def ServerRequest.piece? : ServerRequest → Option ByteArray
  | update _ _ _ => none
  | feed data _ => some data
  | pop => none

/-- The pieces that a server was fed. -/
def announced (requests : List ServerRequest) : List ByteArray :=
  requests.filterMap ServerRequest.piece?

/-! ## One operation -/

theorem fromServer_step (limit : Nat) (b : Batch) (e : Event) :
    fromServer (framings (b.step limit e).deeds) = fromServer (framings b.deeds) := by
  unfold Batch.step
  by_cases hlistener : e.token = listenerToken
  · rw [if_pos hlistener]
    dsimp only
    rw [framings_append, framings_acceptAll, List.append_nil]
  · rw [if_neg hlistener]
    dsimp only
    rw [framings_append, framings_append, framings_fanOutAll, List.append_nil,
      (record_dispatch e b.registry).1, fromServer_append, fromServer_map]
    exact List.append_nil _

theorem fromServer_batch (limit : Nat) (events : List Event) (b : Batch) :
    fromServer (framings (events.foldl (Batch.step limit) b).deeds)
      = fromServer (framings b.deeds) := by
  induction events generalizing b with
  | nil => rfl
  | cons e events ih => rw [List.foldl_cons, ih, fromServer_step]

-- Events are of the listener and of peers, so no batch has a line of the server's.
theorem update_says_nothing (s : Server) (wait : WaitAnswer) :
    fromServer (framings (s.update wait).deeds) = [] ∧
      (s.update wait).server.outgoing = s.outgoing := by
  unfold Server.update
  cases s.listening with
  | none => exact ⟨rfl, rfl⟩
  | some l =>
      cases waitOutcome wait with
      | error fault => exact ⟨rfl, rfl⟩
      | ok outcome =>
          cases outcome with
          | timeout => exact ⟨rfl, rfl⟩
          | ready e es =>
              refine ⟨?_, rfl⟩
              dsimp only [Server.dispatchBatch]
              rw [framings_append, removeMarked, framings_releaseMarked, List.append_nil,
                fromServer_batch]
              rfl

/-- A piece that is fed says what the framer keeps of it, and it is refused if
    and only if a line in it is too long. -/
theorem feed_says (s : Server) {l : Listening} (hl : s.listening = some l)
    (hlimit : s.outgoing.limit < wordBound) (data : ByteArray) :
    let held := s.outgoing.pending
    let read := Split.goOn held (Split.kept s.outgoing.limit held data)
    fromServer (framings (s.feed data).deeds) = messagesOf read.lines ∧
      (s.feed data).server.outgoing.pending = read.rest ∧
      (s.feed data).server.outgoing.limit = s.outgoing.limit ∧
      ((s.feed data).answer = .ok () ↔ (Split.goOn held data).Fits s.outgoing.limit) := by
  rcases s.outgoing.feed_reads_kept hlimit data with ⟨hmessages, hpending, hsame, haccepted⟩
  unfold Server.feed
  rw [hl]
  refine ⟨?_, hpending, hsame, ?_⟩
  · dsimp only
    rw [framings_append, framings_fanOutAll, List.append_nil, framings_map_framed,
      fromServer_map, hmessages]
    rfl
  · rw [← haccepted]
    dsimp only
    cases (s.outgoing.feed data).refusal with
    | none => exact iff_of_true rfl rfl
    | some o => exact iff_of_false nofun nofun

/-! ## Every history -/

namespace ServerHistory

/-- A server that listens has said what its framer has kept of the pieces, and
    it holds the rest. -/
structure Speaks (limit : Nat) (pieces : List ByteArray) (h : ServerHistory) : Prop where
  said : fromServer (framings h.deeds)
    = messagesOf (split (Split.keptAll limit Line.empty pieces)).lines
  held : h.server.outgoing.pending = (split (Split.keptAll limit Line.empty pieces)).rest
  limit : h.server.outgoing.limit = limit
  listening : ∃ l, h.server.listening = some l

/-- A piece that is fed to a server that has spoken so far. -/
theorem Speaks.feed {limit : Nat} (hlimit : limit < wordBound) {pieces : List ByteArray}
    {h : ServerHistory} (hs : h.Speaks limit pieces) (data : ByteArray)
    (sockets : PeerId → Option Socket) :
    let held := (split (Split.keptAll limit Line.empty pieces)).rest
    let read := Split.goOn held (Split.kept limit held data)
    let o := (h.server.equip [] sockets).feed data
    fromServer (framings o.deeds) = messagesOf read.lines ∧
      o.server.outgoing.pending = read.rest ∧ o.server.outgoing.limit = limit ∧
      (o.answer = .ok () ↔ (Split.goOn held data).Fits limit) := by
  rcases hs with ⟨_, hheld, hsame, l, hl⟩
  rcases course_equip h.server hl [] sockets with ⟨le, hle, _⟩
  have hout : (h.server.equip [] sockets).outgoing = h.server.outgoing := rfl
  have hfeed := feed_says (h.server.equip [] sockets) hle (hsame.trans_lt hlimit) data
  rw [hout, hheld, hsame] at hfeed
  exact hfeed

theorem speaks_serve {limit : Nat} (hlimit : limit < wordBound) {pieces : List ByteArray}
    {h : ServerHistory} (hs : h.Speaks limit pieces) (request : ServerRequest) :
    (h.serve request).Speaks limit (pieces ++ announced [request]) := by
  rcases hs.listening with ⟨l, hl⟩
  rcases course_serve h hl request with ⟨l', _, hl', _⟩
  cases request with
  | update arrivals sockets wait =>
      rcases update_says_nothing (h.server.equip arrivals sockets) wait with ⟨hnone, hout⟩
      rw [show announced [.update arrivals sockets wait] = [] from rfl, List.append_nil]
      refine ⟨?_, ?_, ?_, l', hl'⟩
      · dsimp only [serve]
        rw [framings_append, fromServer_append, hnone, List.append_nil, hs.said]
      · dsimp only [serve]
        rw [hout]
        exact hs.held
      · dsimp only [serve]
        rw [hout]
        exact hs.limit
  | feed data sockets =>
      rcases hs.feed hlimit data sockets with ⟨hread, hrest, hlim, _⟩
      rw [show announced [.feed data sockets] = [data] from rfl]
      refine ⟨?_, ?_, hlim, l', hl'⟩
      · dsimp only [serve]
        rw [framings_append, fromServer_append, hread, hs.said, Split.lines_keptAll_concat,
          messagesOf_append]
      · dsimp only [serve]
        rw [hrest, Split.rest_keptAll_concat]
  | pop =>
      rw [show announced [.pop] = [] from rfl, List.append_nil]
      unfold serve Server.pop at hl' ⊢
      cases hmessages : h.server.messages with
      | nil => exact ⟨hs.said, hs.held, hs.limit, l, hl⟩
      | cons m ms => exact ⟨hs.said, hs.held, hs.limit, l, hl⟩

theorem speaks_serveAll {limit : Nat} (hlimit : limit < wordBound) (requests : List ServerRequest)
    {pieces : List ByteArray} {h : ServerHistory} (hs : h.Speaks limit pieces) :
    (serveAll requests h).Speaks limit (pieces ++ announced requests) := by
  induction requests generalizing pieces h with
  | nil =>
      rw [announced, List.filterMap_nil, List.append_nil]
      exact hs
  | cons request requests ih =>
      have hrun := ih (speaks_serve hlimit hs request)
      rw [List.append_assoc, announced, announced, ← List.filterMap_append,
        List.singleton_append] at hrun
      exact hrun

end ServerHistory

/-! ## The next line -/

theorem Split.goOn_wire (l line : Line) :
    goOn l line.wire = ⟨[l.append line], Line.empty⟩ := by
  have hjoin : line.wire = join ⟨[line], Line.empty⟩ := ByteArray.append_empty.symm
  rw [goOn, hjoin, split_join]
  rfl

-- Some line is as long as the limit allows.
theorem Line.exists_size_eq (n : Nat) : ∃ l : Line, l.size = n := by
  have hbytes : octets ⟨Array.replicate n 97⟩ = List.replicate n 97 := Array.toList_replicate
  refine ⟨⟨⟨Array.replicate n 97⟩, ?_⟩, Array.size_replicate⟩
  rw [hbytes, List.mem_replicate]
  exact fun h => absurd h.2 (by decide)

/-- Whatever a listening server is asked to do and whatever the system answers,
    its own messages are the records of the pieces it was fed without what was
    dropped of them, and it holds the unended line of these. As long as it is in
    step, they are records of all that it was fed, in order and each once; it is
    in step if nothing that it was fed is too long. Whether the next line is
    said as it is fed, whichever line within the limit that is, depends on one
    thing: that nothing is held. -/
theorem own_lines_in_step (config : ServerConfig) (hlimit : config.maxBuffer < wordBound)
    (port : UInt16) (address : SocketAddress) (arrivals : List AcceptAnswer)
    (requests : List ServerRequest) :
    let h := ServerHistory.serveAll requests
      (ServerHistory.opened config port address arrivals)
    let pieces := announced requests
    let said := fromServer (framings h.deeds)
    let kept := split (Split.keptAll config.maxBuffer Line.empty pieces)
    said = messagesOf kept.lines ∧ h.server.outgoing.pending = kept.rest ∧
      (Split.InStep config.maxBuffer Line.empty pieces →
        said.Sublist (messagesOf (split (joined pieces)).lines) ∧
        kept.rest = (split (joined pieces)).rest) ∧
      ((split (joined pieces)).Fits config.maxBuffer →
        Split.InStep config.maxBuffer Line.empty pieces) ∧
      (kept.rest = Line.empty ↔ ∀ (line : Line) (sockets : PeerId → Option Socket),
        line.size ≤ config.maxBuffer →
        let next := (h.server.equip [] sockets).feed line.wire
        next.answer = .ok () ∧ fromServer (framings next.deeds) = messagesOf [line]) := by
  intro h pieces said kept
  have hopened : (ServerHistory.opened config port address arrivals).Speaks config.maxBuffer [] :=
    ⟨rfl, rfl, rfl, _, rfl⟩
  have hspeaks : h.Speaks config.maxBuffer pieces :=
    ServerHistory.speaks_serveAll hlimit requests hopened
  -- The next line is said with what is held in front of it, if that is not too long.
  have hnext : ∀ (line : Line) (sockets : PeerId → Option Socket),
      let next := (h.server.equip [] sockets).feed line.wire
      (next.answer = .ok () ↔ (kept.rest.append line).size ≤ config.maxBuffer) ∧
      fromServer (framings next.deeds) = messagesOf (Split.goOn kept.rest
        (Split.kept config.maxBuffer kept.rest line.wire)).lines := by
    intro line sockets next
    rcases hspeaks.feed hlimit line.wire sockets with ⟨hlines, _, _, hanswer⟩
    refine ⟨hanswer.trans ?_, hlines⟩
    rw [Split.goOn_wire, Split.fits_cons_iff, Split.fits_nil_iff]
    exact and_iff_left (Nat.zero_le _)
  refine ⟨hspeaks.said, hspeaks.held, fun hstep => ?_, fun hfits => ?_, fun hnone => ?_, fun hall => ?_⟩
  · have hlines := hstep.lines_sublist
    rw [Split.goOn_empty, Split.goOn_empty] at hlines
    refine ⟨?_, hlines.2⟩
    rw [show said = _ from hspeaks.said]
    exact hlines.1.filterMap _
  · rw [← Split.goOn_empty] at hfits
    exact (Split.keptAll_of_fits hfits).2
  · intro line sockets hsize next
    rcases hnext line sockets with ⟨hanswer, hlines⟩
    rw [hnone, Line.empty_append] at hanswer
    have hfits : (Split.goOn Line.empty line.wire).Fits config.maxBuffer := by
      rw [Split.goOn_wire, Line.empty_append]
      exact ⟨List.forall_mem_singleton.mpr hsize, Nat.zero_le _⟩
    rw [hnone, Split.kept_of_fits hfits, Split.goOn_wire, Line.empty_append] at hlines
    exact ⟨hanswer.mpr hsize, hlines⟩
  · -- The longest line leaves no room for anything before it.
    rcases Line.exists_size_eq config.maxBuffer with ⟨line, hsize⟩
    have hfits := (hnext line fun _ => none).1.mp (hall line (fun _ => none) hsize.le).1
    rw [Line.size_append] at hfits
    exact Line.ext (ByteArray.size_eq_zero_iff.mp (show kept.rest.size = 0 by omega))

/-- A line that is too long comes in one piece and is dropped as a whole, so the
    server is in step and the line after it is said. -/
theorem own_lines_in_step_whole_line :
    let address : SocketAddress := .v4 ⟨127, 0, 0, 1⟩ 1
    let requests : List ServerRequest := [.feed "a\nb".toUTF8 (fun _ => none),
      .feed "\nlonger\n".toUTF8 (fun _ => none), .feed " c \n".toUTF8 (fun _ => none)]
    let h := ServerHistory.serveAll requests (ServerHistory.opened ⟨2, 4, 4⟩ 1 address [])
    4 < wordBound ∧ Split.InStep 4 Line.empty (announced requests) ∧
      (fromServer (framings h.deeds)).map Message.bytes
        = ["a".toUTF8, "b".toUTF8, "c".toUTF8] ∧
      (fromServer (framings h.deeds)).Sublist
        (messagesOf (split (joined (announced requests))).lines) ∧
      ∀ (line : Line) (sockets : PeerId → Option Socket), line.size ≤ 4 →
        let next := (h.server.equip [] sockets).feed line.wire
        next.answer = .ok () ∧ fromServer (framings next.deeds) = messagesOf [line] := by
  intro address requests h
  have hlimit : 4 < wordBound := by decide
  have hstep : Split.InStep 4 Line.empty (announced requests) := by decide +kernel
  rcases own_lines_in_step ⟨2, 4, 4⟩ hlimit 1 address [] requests with
    ⟨_, _, hrecords, _, hnext⟩
  refine ⟨hlimit, hstep, by decide +kernel, (hrecords hstep).1, hnext.mp ?_⟩
  decide +kernel

/-- Two servers with a limit of four bytes. What the first has of a record that
    is refused is said with the line after it, as one message that is no record.
    The second refuses a line of two bytes, because it holds three. -/
theorem refused_feed_keeps_record_head :
    let address : SocketAddress := .v4 ⟨127, 0, 0, 1⟩ 1
    let feeds (pieces : List String) : List ServerRequest :=
      pieces.map fun piece => .feed piece.toUTF8 (fun _ => none)
    let run (pieces : List String) :=
      ServerHistory.serveAll (feeds pieces) (ServerHistory.opened ⟨2, 4, 4⟩ 1 address [])
    let said (pieces : List String) :=
      (fromServer (framings (run pieces).deeds)).map Message.bytes
    said ["ab", "cdefg\n", "x\n"] = ["abx".toUTF8] ∧
      (messagesOf (split (joined (announced (feeds ["ab", "cdefg\n", "x\n"])))).lines).map
        Message.bytes = ["abcdefg".toUTF8, "x".toUTF8] ∧
      ((run ["abc", "cdefg\n"]).server.feed "xy\n".toUTF8).answer
        = .error (.ofLine (.overflow ⟨3, 2, 4⟩)) := by
  decide +kernel

end LineChat
