import LineChat.Proofs.Line.Framing

/-!
# What a Refusal Leaves

The exact state of a framer that has refused a piece.

The lines of a piece are looked at one after the other, and the piece is refused
at the first that does not fit. There are three places where that can happen:
at a line that arrives whole, at a line that is joined to what is held, and at
what follows the last newline. All of them come down to one question, whether
what is held and the line are together within the limit, and to one state. The
line is not taken, so what is held is what was held before it: the old record if
nothing has ended it, and nothing if a line of this piece has
(`refused_feedLines`). The induction is on the lines of the piece.

The bytes from that line on are gone, and no trace of them is left. What a framer
holds and its limit decide all that it will ever answer, and the room that was
reserved for it nothing (`Like.callAll`). So a framer that has refused a piece
cannot be told from one that was fed the piece only up to that line.

## Main definitions

* `Line.continued`, `Line.left`: What becomes of a held line.
* `Fed.Refused`: How a feed ends that was refused.
* `Framer.Like`: Two framers hold the same within the same limit.
* `FramerCall`, `Framer.callAll`: Calls on a framer, and what they show.

## Theorems

* `refused_feedLines`: Every refusal comes to that end.
* `feedLines_fitting`: The lines before it, fed alone.
* `Like.callAll`: Framers that are alike answer alike for ever.
* `refusal_drops_the_rest`: The state that a refusal leaves.
-/

namespace LineChat

namespace Line

/-- Some lines, the first of which continues the held line `l`. -/
def continued (l : Line) : List Line → List Line
  | [] => []
  | first :: more => l.append first :: more

/-- What is held of `l` behind some lines that continue it. -/
def left (l : Line) : List Line → Line
  | [] => l
  | _ :: _ => empty

@[simp] theorem continued_empty (ls : List Line) : empty.continued ls = ls := by
  cases ls with
  | nil => rfl
  | cons l ls => rw [continued, empty_append]

@[simp] theorem left_empty (ls : List Line) : empty.left ls = empty := by
  cases ls <;> rfl

end Line

theorem Split.append_ended (l : Line) (ls : List Line) :
    append ⟨[], l⟩ ⟨ls, Line.empty⟩ = ⟨l.continued ls, l.left ls⟩ := by
  cases ls with
  | nil => exact append_empty ⟨[], l⟩
  | cons first more => rfl

-- The ended lines come first in the stream, whatever follows them.
theorem Split.join_of_all {s : Split} {before more : List Line} (h : s.all = before ++ more)
    (hmore : more ≠ []) : ∃ later, s.join = join ⟨before, Line.empty⟩ ++ later := by
  rcases s with ⟨lines, rest⟩
  induction before generalizing lines with
  | nil => exact ⟨_, ByteArray.empty_append.symm⟩
  | cons l before ih =>
      cases lines with
      | nil =>
          simp only [all, List.nil_append, List.cons_append, List.cons.injEq] at h
          exact absurd (List.append_eq_nil_iff.mp h.2.symm).2 hmore
      | cons first lines =>
          simp only [all, List.cons_append, List.cons.injEq] at h
          rcases ih lines h.2 with ⟨later, hjoin⟩
          refine ⟨later, ?_⟩
          rw [join_cons, join_cons, hjoin, h.1, ByteArray.append_assoc]

/-- A feed that began with the messages `out` was refused at `piece`, behind some
    lines that have ended. -/
structure Fed.Refused (fed : Fed) (f : Framer) (out : List Message) (before : List Line)
    (piece : Line) : Prop where
  fits : ∀ l ∈ f.pending.continued before, l.size ≤ f.limit
  long : f.limit < (f.pending.left before).size + piece.size
  messages : fed.messages.toList = out ++ messagesOf (f.pending.continued before)
  pending : fed.framer.pending = f.pending.left before
  limit : fed.framer.limit = f.limit
  refusal : fed.refusal = some ⟨(f.pending.left before).size, piece.size, f.limit⟩

-- The line at which a feed is refused before any other has ended.
theorem Fed.refused_at_once (f : Framer) (out : Array Message) {piece : Line}
    (hlong : f.limit < (f.pending.append piece).size) :
    Refused ⟨f, out, some ⟨f.pending.size, piece.size, f.limit⟩⟩ f out.toList [] piece := by
  rw [Line.size_append] at hlong
  exact ⟨List.forall_mem_nil _, hlong, (List.append_nil _).symm, rfl, rfl, rfl⟩

-- A line has ended, and nothing of it is held by the framer `f'` that goes on.
theorem Fed.Refused.behind {fed : Fed} {f f' : Framer} {out out' : List Message} {l : Line}
    {before : List Line} {piece : Line} (h : fed.Refused f' out' before piece)
    (hpending : f'.pending = Line.empty) (hlimit : f'.limit = f.limit)
    (hfits : (f.pending.append l).size ≤ f.limit)
    (hout : out' = out ++ messagesOf [f.pending.append l]) :
    fed.Refused f out (l :: before) piece := by
  rcases h with ⟨hbefore, hlong, hmessages, hheld, hlim, hrefusal⟩
  rw [hpending] at hbefore hlong hmessages hheld hrefusal
  rw [hlimit] at hbefore hlong hlim hrefusal
  rw [Line.continued_empty] at hbefore hmessages
  rw [Line.left_empty] at hlong hheld hrefusal
  refine ⟨List.forall_mem_cons.mpr ⟨hfits, hbefore⟩, hlong, ?_, hheld, hlim, hrefusal⟩
  rw [hmessages, hout, List.append_assoc, ← messagesOf_append]
  rfl

namespace Framer

/-- A feed that is refused is refused at one of the lines of its piece. -/
theorem refused_feedLines (ls : List Line) (rest : Line) (f : Framer) (hf : f.limit < wordBound)
    (out : Array Message) (h : (f.feedLines ls rest out).refusal ≠ none) :
    ∃ before piece after, ls ++ [rest] = before ++ piece :: after ∧
      (f.feedLines ls rest out).Refused f out.toList before piece := by
  induction ls generalizing f out with
  | nil =>
      rw [feedLines] at h ⊢
      rcases f.hold_cases hf rest with ⟨hlong, herr⟩ | ⟨_, f', hok, _⟩
      · rw [herr]
        exact ⟨[], rest, [], rfl, Fed.refused_at_once f out hlong⟩
      · rw [hok] at h
        exact absurd rfl h
  | cons l ls ih =>
      rw [feedLines] at h ⊢
      rcases f.complete_cases hf l with ⟨hlong, herr⟩ | ⟨hfits, f', hok, hpending, hlimit⟩
      · rw [herr]
        exact ⟨[], l, ls ++ [rest], rfl, Fed.refused_at_once f out hlong⟩
      · -- The line has ended, blank or not, and a later one is refused.
        have hgo : ∀ out' : Array Message,
            out'.toList = out.toList ++ messagesOf [f.pending.append l] →
            (f'.feedLines ls rest out').refusal ≠ none →
            ∃ before piece after, l :: ls ++ [rest] = before ++ piece :: after ∧
              (f'.feedLines ls rest out').Refused f out.toList before piece := by
          intro out' hout hrefused
          rcases ih f' (by omega) out' hrefused with ⟨before, piece, after, hall, hbehind⟩
          refine ⟨l :: before, piece, after, ?_, hbehind.behind hpending hlimit hfits hout⟩
          rw [List.cons_append, hall, List.cons_append]
        rw [hok] at h ⊢
        cases hm : Message.ofLine? (f.pending.append l) with
        | none =>
            rw [hm] at h
            exact hgo out (by simp [messagesOf, hm]) h
        | some m =>
            rw [hm] at h
            exact hgo (out.push m) (by simp [messagesOf, hm]) h

/-- Lines that fit, the held one with the first, are read when they are fed with
    nothing behind them. -/
theorem feedLines_fitting (ls : List Line) (f : Framer) (hf : f.limit < wordBound)
    (out : Array Message) (h : ∀ l ∈ f.pending.continued ls, l.size ≤ f.limit) :
    let fed := f.feedLines ls Line.empty out
    fed.refusal = none ∧ fed.messages.toList = out.toList ++ messagesOf (f.pending.continued ls) ∧
      fed.framer.pending = f.pending.left ls ∧ fed.framer.limit = f.limit := by
  intro fed
  have hreads : fed.Reads f.limit out.toList ⟨f.pending.continued ls, f.pending.left ls⟩ := by
    rw [← Split.append_ended]
    exact reads_feedLines ls Line.empty f hf out
  have hleft : (f.pending.left ls).size ≤ f.limit := by
    cases ls with
    | nil => exact f.held.fits
    | cons l ls => exact Nat.zero_le _
  have hfits : Split.Fits f.limit ⟨f.pending.continued ls, f.pending.left ls⟩ := ⟨h, hleft⟩
  have hnone := hreads.accepted.mpr hfits
  refine ⟨hnone, ?_, hreads.pending hnone, hreads.limit⟩
  rw [hreads.messages, Split.within_of_fits hfits]

/-! ## Calls behind a refusal -/

/-- Two framers hold the same within the same limit. The room that each of them
    has reserved may be different. -/
structure Like (f g : Framer) : Prop where
  pending : f.pending = g.pending
  limit : f.limit = g.limit

-- The two framers take the same lines, so they stay alike line by line.
theorem Like.feedLines {f g : Framer} (h : f.Like g) (hf : f.limit < wordBound) (ls : List Line)
    (rest : Line) (out : Array Message) :
    (f.feedLines ls rest out).messages = (g.feedLines ls rest out).messages ∧
      (f.feedLines ls rest out).refusal = (g.feedLines ls rest out).refusal ∧
      (f.feedLines ls rest out).framer.Like (g.feedLines ls rest out).framer := by
  have hg : g.limit < wordBound := h.limit ▸ hf
  induction ls generalizing f g out with
  | nil =>
      have hother := g.hold_cases hg rest
      rw [← h.pending, ← h.limit] at hother
      rw [Framer.feedLines, Framer.feedLines]
      rcases f.hold_cases hf rest with ⟨hlong, herr⟩ | ⟨hfits, f', hok, hpending, hlimit⟩
      · rcases hother with ⟨_, herr'⟩ | ⟨hfits, _⟩
        · rw [herr, herr']
          exact ⟨rfl, rfl, h⟩
        · exact absurd hfits (by omega)
      · rcases hother with ⟨hlong, _⟩ | ⟨_, g', hok', hpending', hlimit'⟩
        · exact absurd hlong (by omega)
        · rw [hok, hok']
          exact ⟨rfl, rfl, hpending.trans hpending'.symm, hlimit.trans hlimit'.symm⟩
  | cons l ls ih =>
      have hother := g.complete_cases hg l
      rw [← h.pending, ← h.limit] at hother
      rw [Framer.feedLines, Framer.feedLines]
      rcases f.complete_cases hf l with ⟨hlong, herr⟩ | ⟨hfits, f', hok, hpending, hlimit⟩
      · rcases hother with ⟨_, herr'⟩ | ⟨hfits, _⟩
        · rw [herr, herr']
          exact ⟨rfl, rfl, h⟩
        · exact absurd hfits (by omega)
      · rcases hother with ⟨hlong, _⟩ | ⟨_, g', hok', hpending', hlimit'⟩
        · exact absurd hlong (by omega)
        · have hlike : f'.Like g' :=
            ⟨hpending.trans hpending'.symm, hlimit.trans hlimit'.symm⟩
          have hf' : f'.limit < wordBound := by omega
          rw [hok, hok']
          cases Message.ofLine? (f.pending.append l) with
          | none => exact ih hlike hf' out (hlike.limit ▸ hf')
          | some m => exact ih hlike hf' (out.push m) (hlike.limit ▸ hf')

end Framer

/-- A call on a framer. -/
inductive FramerCall
  | feed (data : ByteArray)
  | reset

/-- What a call on a framer shows. -/
structure FramerAnswer where
  /-- The messages that it gave. -/
  messages : List Message
  /-- Why the rest of the piece was dropped, if it was. -/
  refusal : Option Overflow
  /-- The record that is not ended yet. -/
  pending : Line

namespace Framer

/-- One call: what it shows, and the framer afterwards. -/
def call (f : Framer) : FramerCall → FramerAnswer × Framer
  | .feed data =>
    let fed := f.feed data
    (⟨fed.messages.toList, fed.refusal, fed.framer.pending⟩, fed.framer)
  | .reset => (⟨[], none, f.reset.pending⟩, f.reset)

/-- Calls one after the other, also behind refusals. -/
def callAll : List FramerCall → Framer → List FramerAnswer × Framer
  | [], f => ([], f)
  | c :: calls, f =>
    let first := f.call c
    let more := callAll calls first.2
    (first.1 :: more.1, more.2)

theorem limit_call (f : Framer) (c : FramerCall) : (f.call c).2.limit = f.limit := by
  cases c with
  | feed data => exact limit_feedLines f _ _ _
  | reset => rfl

theorem Like.call {f g : Framer} (h : f.Like g) (hf : f.limit < wordBound) (c : FramerCall) :
    (f.call c).1 = (g.call c).1 ∧ (f.call c).2.Like (g.call c).2 := by
  cases c with
  | feed data =>
      rcases h.feedLines hf (split data).lines (split data).rest #[] with
        ⟨hmessages, hrefusal, hlike⟩
      refine ⟨?_, hlike⟩
      unfold Framer.call feed feedInto
      dsimp only
      rw [hmessages, hrefusal, hlike.pending]
  | reset => exact ⟨rfl, rfl, h.limit⟩

/-- Framers that are alike answer every sequence of calls alike. -/
theorem Like.callAll {f g : Framer} (h : f.Like g) (hf : f.limit < wordBound)
    (calls : List FramerCall) : (Framer.callAll calls f).1 = (Framer.callAll calls g).1 := by
  induction calls generalizing f g with
  | nil => rfl
  | cons c calls ih =>
      rcases h.call hf c with ⟨hanswer, hlike⟩
      rw [Framer.callAll, Framer.callAll]
      dsimp only
      rw [hanswer, ih hlike ((f.limit_call c).trans_lt hf)]

end Framer

/-- A piece is refused, by a framer in whatever state. Then the lines of the piece
    are some that have ended, the one it is refused at, and those behind. With the
    held record in front the first lines are within the limit, and what they hold
    came behind the messages that were there. The old record is held if the piece
    is refused at its first line, and nothing otherwise. The refusal tells of what
    is held, of the refused line and of the limit that they exceed together. All
    bytes from that line on are dropped: the framer that was fed the bytes before
    it and nothing else has given the same and holds the same, and two framers
    that hold the same within one limit answer every sequence of calls alike. -/
theorem refusal_drops_the_rest (f : Framer) (hf : f.limit < wordBound) (data : ByteArray)
    (out : Array Message) (o : Overflow) (h : (f.feedInto data out).refusal = some o) :
    let fed := f.feedInto data out
    ∃ before piece after, (split data).all = before ++ piece :: after ∧
      (∀ l ∈ f.pending.continued before, l.size ≤ f.limit) ∧
      fed.messages.toList
        = out.toList ++ (f.pending.continued before).filterMap Message.ofLine? ∧
      fed.framer.pending = (if before = [] then f.pending else Line.empty) ∧
      fed.framer.limit = f.limit ∧
      o = ⟨fed.framer.pending.size, piece.size, f.limit⟩ ∧
      f.limit < fed.framer.pending.size + piece.size ∧
      ∃ kept dropped, data = kept ++ dropped ∧ kept = Split.join ⟨before, Line.empty⟩ ∧
        let short := f.feedInto kept out
        short.refusal = none ∧ short.messages = fed.messages ∧ short.framer.Like fed.framer ∧
        ∀ g : Framer, g.Like fed.framer → ∀ calls,
          (Framer.callAll calls g).1 = (Framer.callAll calls fed.framer).1 := by
  intro fed
  have hrefused : (f.feedLines (split data).lines (split data).rest out).refusal ≠ none := by
    rw [show (f.feedLines (split data).lines (split data).rest out).refusal = some o from h]
    exact Option.some_ne_none o
  rcases f.refused_feedLines (split data).lines (split data).rest hf out hrefused with
    ⟨before, piece, after, hall, ⟨hfits, hlong, hmessages, hpending, hlimit, hrefusal⟩⟩
  have hheld : fed.framer.pending = f.pending.left before := hpending
  have ho : o = ⟨(f.pending.left before).size, piece.size, f.limit⟩ :=
    Option.some.inj (h.symm.trans hrefusal)
  have hleft : f.pending.left before = if before = [] then f.pending else Line.empty := by
    cases before with
    | nil => rfl
    | cons l before => rfl
  rcases Split.join_of_all hall (List.cons_ne_nil _ _) with ⟨dropped, hdata⟩
  rw [join_split] at hdata
  have hshort := f.feedLines_fitting before hf out hfits
  have hkept : f.feedInto (Split.join ⟨before, Line.empty⟩) out
      = f.feedLines before Line.empty out := by
    unfold Framer.feedInto
    rw [split_join]
  rw [← hkept] at hshort
  rcases hshort with ⟨hnone, hsame, hrest, hlim⟩
  refine ⟨before, piece, after, hall, hfits, hmessages, hheld.trans hleft, hlimit, ?_, ?_, _,
    dropped, hdata, rfl, hnone, ?_, ⟨hrest.trans hheld.symm, hlim.trans hlimit.symm⟩,
    fun g hg calls => ?_⟩
  · rw [hheld]
    exact ho
  · rw [hheld]
    exact hlong
  · exact Array.toList_inj.mp (hsame.trans hmessages.symm)
  · exact hg.callAll (by rw [hg.limit]; exact hlimit.trans_lt hf) calls

/-- A framer with a limit of four bytes that holds two. One piece is refused at its
    first line and the two bytes are held on; the other one ends their record,
    has a blank line and another message, and is refused at its fourth line. What
    comes then is answered as if the bytes from these lines on had never come. -/
theorem refusal_drops_the_rest_of_two_pieces :
    let f := ((Framer.ofLimit 4).feed "ab".toUTF8).framer
    let first := f.feedInto "cde\nx\n".toUTF8 #[]
    let fourth := f.feedInto "c\n \nd\nlonger\ny\n".toUTF8 #[]
    f.limit < wordBound ∧ first.refusal = some ⟨2, 3, 4⟩ ∧ fourth.refusal = some ⟨0, 6, 4⟩ ∧
      first.framer.pending.bytes = "ab".toUTF8 ∧
      fourth.messages.toList.map Message.bytes = ["abc".toUTF8, "d".toUTF8] ∧
      fourth.framer.pending = Line.empty ∧
      (∀ calls, (Framer.callAll calls f).1 = (Framer.callAll calls first.framer).1) ∧
      ∃ kept dropped, "c\n \nd\nlonger\ny\n".toUTF8 = kept ++ dropped ∧
        ∀ calls, (Framer.callAll calls (f.feedInto kept #[]).framer).1
          = (Framer.callAll calls fourth.framer).1 := by
  intro f first fourth
  have hlimit : f.limit < wordBound := by decide
  have hfirst : first.refusal = some ⟨2, 3, 4⟩ := by decide +kernel
  have hfourth : fourth.refusal = some ⟨0, 6, 4⟩ := by decide +kernel
  have hheld : f.pending = first.framer.pending := by decide +kernel
  have hnone : fourth.framer.pending = Line.empty := by decide +kernel
  rcases refusal_drops_the_rest f hlimit _ #[] _ hfirst with
    ⟨_, _, _, _, _, _, _, hsame, _, _, _, _, _, _, _, _, _, halike⟩
  rcases refusal_drops_the_rest f hlimit _ #[] _ hfourth with
    ⟨_, _, _, _, _, _, _, _, _, _, kept, dropped, hdata, _, _, _, hlike, halike'⟩
  exact ⟨hlimit, hfirst, hfourth, by decide +kernel, by decide +kernel, hnone,
    halike f ⟨hheld, hsame.symm⟩, kept, dropped, hdata, halike' _ hlike⟩

end LineChat
