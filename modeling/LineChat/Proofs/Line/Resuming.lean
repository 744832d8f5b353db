import LineChat.Proofs.Line.Reading

/-!
# Framing Beyond a Refusal

What a framer makes of a stream when it is fed on after a refusal.

A refusal drops the rest of its piece and says nothing about where the next one
begins. The framer goes on as if the dropped bytes had never been there, so its
messages are the records of another stream: the one that is left of the pieces
when what was dropped is cut out (`Split.keptAll`). That description is exact
and has no condition. It is stated by what is kept of one piece from any held
line, since the line that is held after a refusal is the old one or none,
according to where in its piece the refused record began.

The records of that other stream need not be records of the pieces. Where a part
was cut out, the line before it is continued by bytes that do not belong to it,
or a line begins in the middle of a record. This does not happen as long as the
framer is in step, that is if after every piece it holds the unended line of the
stream that was fed; then the cuts have taken away whole lines only.

## Main definitions

* `Split.kept`, `Split.keptAll`: What a framer keeps of pieces.
* `Split.InStep`: The framer always holds the unended line of the stream.

## Theorems

* `lines_goOn_kept`: The lines that are kept are those within the limit.
* `keptAll_of_fits`: Nothing is dropped of a stream that fits.
* `InStep.lines_sublist`: In step, every line that is kept is one of the stream.
* `pending_feedLines_of_refused`: What is held after a refusal.
* `feed_reads_kept`: One piece, whether it is refused or not.
-/

namespace LineChat

namespace Split

/-- What a framer that holds the unended line `l` keeps of a piece: all of it or,
    if a line is too long, the ended lines before that one. -/
def kept (limit : Nat) (l : Line) (data : ByteArray) : ByteArray :=
  if (goOn l data).Fits limit then data
  else join ⟨(split data).lines.take ((goOn l data).within limit).length, Line.empty⟩

/-- What a framer keeps of pieces, one after the other. -/
def keptAll (limit : Nat) : Line → List ByteArray → ByteArray
  | _, [] => ByteArray.empty
  | l, data :: pieces =>
    kept limit l data ++ keptAll limit (goOn l (kept limit l data)).rest pieces

/-- After every piece a framer holds the unended line of the stream. -/
def InStep (limit : Nat) : Line → List ByteArray → Prop
  | _, [] => True
  | l, data :: pieces => (goOn l (kept limit l data)).rest = (goOn l data).rest ∧
      InStep limit (goOn l data).rest pieces

instance decidableInStep (limit : Nat) : (l : Line) → (pieces : List ByteArray) →
    Decidable (InStep limit l pieces)
  | _, [] => isTrue trivial
  | l, data :: pieces =>
    have := decidableInStep limit (goOn l data).rest pieces
    inferInstanceAs (Decidable ((goOn l (kept limit l data)).rest = (goOn l data).rest ∧
      InStep limit (goOn l data).rest pieces))

/-! ## One piece -/

theorem kept_of_fits {limit : Nat} {l : Line} {data : ByteArray}
    (h : (goOn l data).Fits limit) : kept limit l data = data := by
  unfold kept
  rw [if_pos h]

theorem take_length_within (limit : Nat) (ls : List Line) (rest : Line) :
    ls.take (within limit ⟨ls, rest⟩).length = within limit ⟨ls, rest⟩ :=
  (List.prefix_iff_eq_take.mp (List.takeWhile_prefix _)).symm

-- The held line is continued by the first line of the piece, so it depends on
-- that one line whether anything is taken.
theorem goOn_kept_of_not_fits {limit : Nat} {l : Line} {data : ByteArray}
    (h : ¬ (goOn l data).Fits limit) :
    goOn l (kept limit l data) = ⟨(goOn l data).within limit,
      if (goOn l data).within limit = [] then l else Line.empty⟩ := by
  unfold kept
  rw [if_neg h]
  unfold goOn
  rw [split_join]
  rcases split data with ⟨ls, rest⟩
  cases ls with
  | nil =>
      have hnone : append ⟨[], l⟩ ⟨[], Line.empty⟩ = ⟨[], l⟩ := append_empty _
      rw [List.take_nil, hnone]
      rfl
  | cons first ls =>
      have hshape : append ⟨[], l⟩ ⟨first :: ls, rest⟩ = ⟨l.append first :: ls, rest⟩ := rfl
      rw [hshape]
      by_cases hlong : limit < (l.append first).size
      · rw [within_cons_of_lt hlong, if_pos rfl]
        exact append_empty _
      · rw [within_cons_of_le (by omega), if_neg (List.cons_ne_nil _ _), List.length_cons,
          List.take_succ_cons, take_length_within]
        rfl

/-- The lines that are kept of a piece are those within the limit. -/
theorem lines_goOn_kept (limit : Nat) (l : Line) (data : ByteArray) :
    (goOn l (kept limit l data)).lines = (goOn l data).within limit := by
  by_cases h : (goOn l data).Fits limit
  · rw [kept_of_fits h, within_of_fits h]
  · rw [goOn_kept_of_not_fits h]

/-! ## Pieces one after the other -/

theorem lines_goOn_keptAll_cons (limit : Nat) (l : Line) (data : ByteArray)
    (pieces : List ByteArray) :
    (goOn l (keptAll limit l (data :: pieces))).lines = (goOn l data).within limit ++
      (goOn (goOn l (kept limit l data)).rest
        (keptAll limit (goOn l (kept limit l data)).rest pieces)).lines := by
  rw [keptAll, lines_goOn_append, lines_goOn_kept]

theorem keptAll_append (limit : Nat) (l : Line) (pieces more : List ByteArray) :
    keptAll limit l (pieces ++ more) = keptAll limit l pieces
      ++ keptAll limit (goOn l (keptAll limit l pieces)).rest more := by
  induction pieces generalizing l with
  | nil => rw [keptAll, goOn_nothing, ByteArray.empty_append, List.nil_append]
  | cons data pieces ih =>
      rw [List.cons_append, keptAll, keptAll, ih, rest_goOn_append, ByteArray.append_assoc]

-- What one more piece adds to a whole stream that was kept.
theorem keptAll_concat (limit : Nat) (pieces : List ByteArray) (data : ByteArray) :
    split (keptAll limit Line.empty (pieces ++ [data]))
      = (split (keptAll limit Line.empty pieces)).append
        (split (kept limit (split (keptAll limit Line.empty pieces)).rest data)) := by
  rw [keptAll_append, goOn_empty, split_append, keptAll, keptAll, ByteArray.append_empty]

theorem lines_keptAll_concat (limit : Nat) (pieces : List ByteArray) (data : ByteArray) :
    (split (keptAll limit Line.empty (pieces ++ [data]))).lines
      = (split (keptAll limit Line.empty pieces)).lines
        ++ (goOn (split (keptAll limit Line.empty pieces)).rest
          (kept limit (split (keptAll limit Line.empty pieces)).rest data)).lines := by
  rw [keptAll_concat, lines_append]
  rfl

theorem rest_keptAll_concat (limit : Nat) (pieces : List ByteArray) (data : ByteArray) :
    (split (keptAll limit Line.empty (pieces ++ [data]))).rest
      = (goOn (split (keptAll limit Line.empty pieces)).rest
        (kept limit (split (keptAll limit Line.empty pieces)).rest data)).rest := by
  rw [keptAll_concat, rest_append]
  rfl

/-- Nothing is dropped of a stream that fits. -/
theorem keptAll_of_fits {limit : Nat} {pieces : List ByteArray} {l : Line}
    (h : (goOn l (joined pieces)).Fits limit) :
    keptAll limit l pieces = joined pieces ∧ InStep limit l pieces := by
  induction pieces generalizing l with
  | nil => exact ⟨rfl, trivial⟩
  | cons data pieces ih =>
      rw [joined_cons] at h
      have hdata : (goOn l data).Fits limit := fits_of_fits_goOn_append h
      rcases ih ((fits_goOn_append hdata _).mp h) with ⟨hall, hstep⟩
      rw [keptAll, InStep, kept_of_fits hdata, hall]
      exact ⟨rfl, rfl, hstep⟩

theorem inStep_of_append {limit : Nat} {l : Line} {pieces more : List ByteArray}
    (h : InStep limit l (pieces ++ more)) : InStep limit l pieces := by
  induction pieces generalizing l with
  | nil => trivial
  | cons data pieces ih => exact ⟨h.1, ih h.2⟩

/-- A framer that is in step has dropped whole lines only. -/
theorem InStep.lines_sublist {limit : Nat} {pieces : List ByteArray} {l : Line}
    (h : InStep limit l pieces) :
    (goOn l (keptAll limit l pieces)).lines.Sublist (goOn l (joined pieces)).lines ∧
      (goOn l (keptAll limit l pieces)).rest = (goOn l (joined pieces)).rest := by
  induction pieces generalizing l with
  | nil => exact ⟨List.Sublist.refl _, rfl⟩
  | cons data pieces ih =>
      rcases h with ⟨hrest, hmore⟩
      rcases ih hmore with ⟨hlines, hend⟩
      have hwithin : ((goOn l data).within limit).Sublist (goOn l data).lines :=
        (List.takeWhile_prefix _).sublist
      rw [lines_goOn_keptAll_cons, keptAll, rest_goOn_append, joined_cons, lines_goOn_append,
        rest_goOn_append, hrest]
      exact ⟨hwithin.append hlines, hend⟩

end Split

namespace Framer

/-- A refusal leaves the held line if the refused record is the one that it
    begins, and nothing if a record was completed before it. -/
theorem pending_feedLines_of_refused (ls : List Line) (rest : Line) (f : Framer)
    (hf : f.limit < wordBound) (out : Array Message)
    (h : (f.feedLines ls rest out).refusal ≠ none) :
    (f.feedLines ls rest out).framer.pending
      = if (Split.append ⟨[], f.pending⟩ ⟨ls, rest⟩).within f.limit = [] then f.pending
        else Line.empty := by
  induction ls generalizing f out with
  | nil =>
      rw [feedLines] at h ⊢
      rcases f.hold_cases hf rest with ⟨_, herr⟩ | ⟨_, f', hok, _⟩
      · rw [herr]
        exact (if_pos rfl).symm
      · rw [hok] at h
        exact absurd rfl h
  | cons l ls ih =>
      have hshape : Split.append ⟨[], f.pending⟩ ⟨l :: ls, rest⟩
          = ⟨f.pending.append l :: ls, rest⟩ := rfl
      rw [hshape]
      rw [feedLines] at h ⊢
      rcases f.complete_cases hf l with ⟨hlong, herr⟩ | ⟨hle, f', hok, hpend, hlimit⟩
      · rw [herr, Split.within_cons_of_lt hlong]
        exact (if_pos rfl).symm
      · -- Nothing is held behind the first line, so neither case leaves anything.
        have hgo : ∀ out', (f'.feedLines ls rest out').refusal ≠ none →
            (f'.feedLines ls rest out').framer.pending = Line.empty := by
          intro out' hrefused
          rw [ih f' (by omega) out' hrefused, hpend, ite_self]
        rw [hok] at h ⊢
        rw [Split.within_cons_of_le hle, if_neg (List.cons_ne_nil _ _)]
        cases hm : Message.ofLine? (f.pending.append l) with
        | none =>
            rw [hm] at h
            exact hgo out h
        | some m =>
            rw [hm] at h
            exact hgo (out.push m) h

/-- A framer reads what it keeps of a piece, whether the piece is refused or
    not. -/
theorem feed_reads_kept (f : Framer) (hf : f.limit < wordBound) (data : ByteArray) :
    let s := Split.goOn f.pending (Split.kept f.limit f.pending data)
    (f.feed data).messages.toList = messagesOf s.lines ∧
      (f.feed data).framer.pending = s.rest ∧ (f.feed data).framer.limit = f.limit ∧
      ((f.feed data).refusal = none ↔ (Split.goOn f.pending data).Fits f.limit) := by
  have hreads : (f.feed data).Reads f.limit [] (Split.goOn f.pending data) :=
    reads_feedLines (split data).lines (split data).rest f hf #[]
  refine ⟨?_, ?_, hreads.limit, hreads.accepted⟩
  · rw [Split.lines_goOn_kept, hreads.messages, List.nil_append]
  · by_cases hfits : (Split.goOn f.pending data).Fits f.limit
    · rw [Split.kept_of_fits hfits, hreads.pending (hreads.accepted.mpr hfits)]
    · rw [Split.goOn_kept_of_not_fits hfits]
      exact pending_feedLines_of_refused _ _ f hf #[] fun hnone => hfits (hreads.accepted.mp hnone)

end Framer

end LineChat
