import LineChat.Proofs.Line.Records

/-!
# What Trimming Leaves

Trimming, apart from how it is searched.

`trimmed` is found by two searches, one from either end. What they find is said
by three facts about byte strings. What is trimmed away is blank
(`trimmed_parts`). What is left has a blank at neither end, if there is anything
left (`snug_trimmed`). And this determines it: bytes with blanks around them
and none at their own ends are what trimming finds (`trimmed_of_parts`).

## Main definitions

* `Blanks`: Nothing but blanks.
* `Snug`: Something without a blank at either end.

## Theorems

* `trimmed_parts`, `snug_trimmed`: What trimming finds.
* `trimmed_of_parts`: Only that.
* `size_trimmed_eq_zero_iff`: Nothing is left of blanks.
* `ofLine?_eq_none_iff_blanks`, `ofLine?_of_trimmed`: The message in a line.
-/

namespace LineChat

theorem byteAt_append_left {a b : ByteArray} {i : Nat} (h : i < a.size) :
    byteAt (a ++ b) i = byteAt a i := by
  rw [byteAt_eq, byteAt_eq, octets_append,
    List.getElem?_append_left (by rw [length_octets]; exact h)]

theorem byteAt_append_right (a b : ByteArray) (i : Nat) :
    byteAt (a ++ b) (a.size + i) = byteAt b i := by
  rw [byteAt_eq, byteAt_eq, octets_append, ← length_octets,
    List.getElem?_append_right (Nat.le_add_right _ _), Nat.add_sub_cancel_left]

-- A forward search stops at the first byte that passes, and nowhere before.
theorem firstFrom_eq {p : UInt8 → Bool} {b : ByteArray} {n i k : Nat} (hik : i ≤ k)
    (hk : k < i + n) (hpassed : ∀ j, i ≤ j → j < k → p (byteAt b j) = false)
    (hfound : p (byteAt b k) = true) : firstFrom p b n i = k := by
  rcases firstFrom_spec p b n i with ⟨hle, _, hstop, hbefore⟩
  rcases Nat.lt_trichotomy (firstFrom p b n i) k with hlt | heq | hgt
  · have hno := hpassed _ hle hlt
    rw [hstop (by omega)] at hno
    cases hno
  · exact heq
  · have hno := hbefore k hik hgt
    rw [hfound] at hno
    cases hno

-- A backward search stops behind the last one.
theorem lastEnd_eq {p : UInt8 → Bool} {b : ByteArray} {n k : Nat} (hk : k < n)
    (hfound : p (byteAt b k) = true) (hpassed : ∀ j, k < j → j < n → p (byteAt b j) = false) :
    lastEnd p b n = k + 1 := by
  rcases lastEnd_spec p b n with ⟨hle, hstop, hafter⟩
  rcases Nat.lt_trichotomy (lastEnd p b n) (k + 1) with hlt | heq | hgt
  · have hno := hafter k (by omega) hk
    rw [hfound] at hno
    cases hno
  · exact heq
  · have hno := hpassed (lastEnd p b n - 1) (by omega) (by omega)
    rw [hstop (by omega)] at hno
    cases hno

/-- Nothing but blanks. -/
def Blanks (b : ByteArray) : Prop := ∀ x ∈ octets b, isBlank x = true

/-- Something that has a blank at neither end. -/
structure Snug (b : ByteArray) : Prop where
  nonempty : 0 < b.size
  first : isBlank (byteAt b 0) = false
  last : isBlank (byteAt b (b.size - 1)) = false

theorem Blanks.at {b : ByteArray} (h : Blanks b) {i : Nat} (hi : i < b.size) :
    isBlank (byteAt b i) = true := h _ (mem_octets_iff.mpr ⟨i, hi, rfl⟩)

theorem blanks_empty : Blanks ByteArray.empty := List.forall_mem_nil _

theorem blanks_newline : Blanks (ByteArray.empty.push newline) :=
  List.forall_mem_singleton.mpr isBlank_newline

theorem blanks_append_iff {a b : ByteArray} : Blanks (a ++ b) ↔ Blanks a ∧ Blanks b := by
  unfold Blanks
  rw [octets_append, List.forall_mem_append]

-- No part at an end of such bytes is blank.
theorem Snug.front {a b : ByteArray} (h : Snug (a ++ b)) (ha : 0 < a.size) : ¬ Blanks a := by
  intro hblanks
  have hfirst := h.first
  rw [byteAt_append_left ha, hblanks.at ha] at hfirst
  cases hfirst

theorem Snug.back {a b : ByteArray} (h : Snug (a ++ b)) (hb : 0 < b.size) : ¬ Blanks b := by
  intro hblanks
  have hlast := h.last
  rw [ByteArray.size_append, Nat.add_sub_assoc hb, byteAt_append_right,
    hblanks.at (by omega)] at hlast
  cases hlast

theorem size_trimmed (b : ByteArray) :
    (trimmed b).size = (trimRange b).2 - (trimRange b).1 := by
  rw [trimmed, ByteArray.size_extract, Nat.min_eq_left (trimRange_le b).2]

/-- What trimming takes away on either side is blank. -/
theorem trimmed_parts (b : ByteArray) :
    ∃ before after, b = before ++ trimmed b ++ after ∧ Blanks before ∧ Blanks after := by
  have hle := trimRange_le b
  refine ⟨b.extract 0 (trimRange b).1, b.extract (trimRange b).2 b.size, ?_, ?_, ?_⟩
  · unfold trimmed
    rw [extract_append_extract_of_le (Nat.zero_le _) hle.1,
      extract_append_extract_of_le (Nat.zero_le _) hle.2, ByteArray.extract_zero_size]
  · intro x hx
    rcases mem_octets_iff.mp hx with ⟨i, hi, rfl⟩
    rw [ByteArray.size_extract] at hi
    rw [byteAt_extract (by omega), Nat.zero_add]
    exact trimRange_before b i (by omega)
  · intro x hx
    rcases mem_octets_iff.mp hx with ⟨i, hi, rfl⟩
    rw [ByteArray.size_extract] at hi
    rw [byteAt_extract (by omega)]
    exact trimRange_after b _ (Nat.le_add_right _ _) (by omega)

/-- What trimming leaves has a blank at neither end. -/
theorem snug_trimmed {b : ByteArray} (h : (trimmed b).size ≠ 0) : Snug (trimmed b) := by
  have hsize := size_trimmed b
  have hlt : (trimRange b).1 < (trimRange b).2 := by omega
  have hfirst := trimRange_first b hlt
  have hlast := trimRange_last b hlt
  refine ⟨Nat.pos_of_ne_zero h, ?_, ?_⟩
  · unfold trimmed
    rw [byteAt_extract (by omega)]
    exact hfirst
  · rw [hsize]
    unfold trimmed
    rw [byteAt_extract (by omega)]
    have hend : (trimRange b).1 + ((trimRange b).2 - (trimRange b).1 - 1)
        = (trimRange b).2 - 1 := by omega
    rw [hend]
    exact hlast

/-- Bytes with blanks around them and none at their ends are what trimming
    finds: both searches stop at their ends. -/
theorem trimmed_of_parts {before text after : ByteArray} (hbefore : Blanks before)
    (htext : Snug text) (hafter : Blanks after) : trimmed (before ++ text ++ after) = text := by
  have hpos := htext.nonempty
  generalize hall : before ++ text ++ after = all
  have hsize : all.size = before.size + text.size + after.size := by
    rw [← hall, ByteArray.size_append, ByteArray.size_append]
  have hfront : ∀ i, i < before.size → isBlank (byteAt all i) = true := by
    intro i hi
    rw [← hall, ByteArray.append_assoc, byteAt_append_left hi]
    exact hbefore.at hi
  have hmiddle : ∀ i, i < text.size → byteAt all (before.size + i) = byteAt text i := by
    intro i hi
    rw [← hall, ByteArray.append_assoc, byteAt_append_right, byteAt_append_left hi]
  have hback : ∀ i, i < after.size →
      isBlank (byteAt all (before.size + text.size + i)) = true := by
    intro i hi
    rw [← hall, ← ByteArray.size_append, byteAt_append_right]
    exact hafter.at hi
  have hstart : firstFrom (fun x => !isBlank x) all all.size 0 = before.size := by
    refine firstFrom_eq (Nat.zero_le _) (by omega) (fun j _ hj => ?_) ?_
    · rw [hfront j hj]
      rfl
    · have hhead := hmiddle 0 hpos
      rw [Nat.add_zero] at hhead
      rw [hhead, htext.first]
      rfl
  have hend : lastEnd (fun x => !isBlank x) all all.size = before.size + (text.size - 1) + 1 := by
    refine lastEnd_eq (by omega) ?_ fun j hj hlt => ?_
    · rw [hmiddle _ (by omega), htext.last]
      rfl
    · have hplace : j = before.size + text.size + (j - (before.size + text.size)) := by omega
      rw [hplace, hback _ (by omega)]
      rfl
  have hrange : trimRange all = (before.size, before.size + text.size) := by
    unfold trimRange
    rw [hstart, hend]
    exact congrArg (Prod.mk _) (by omega)
  apply octets_injective
  unfold trimmed
  rw [hrange, octets_extract, ← hall, octets_append, octets_append, ← length_octets,
    Nat.add_sub_cancel_left, ← length_octets, List.append_assoc, List.drop_left, List.take_left]

theorem size_trimmed_eq_zero_iff {b : ByteArray} : (trimmed b).size = 0 ↔ Blanks b := by
  constructor
  · intro hnone
    rcases trimmed_parts b with ⟨before, after, hparts, hbefore, hafter⟩
    rw [ByteArray.size_eq_zero_iff.mp hnone, ByteArray.append_empty] at hparts
    rw [hparts]
    exact blanks_append_iff.mpr ⟨hbefore, hafter⟩
  · intro hblanks
    by_contra hsome
    have hsnug := snug_trimmed hsome
    have hfirst := hsnug.first
    have hleft : Blanks (trimmed b) := fun x hx => hblanks x (mem_octets_of_mem_extract hx)
    rw [hleft.at hsnug.nonempty] at hfirst
    cases hfirst

namespace Message

theorem ofLine?_eq_none_iff_blanks (l : Line) : ofLine? l = none ↔ Blanks l.bytes := by
  have hle := (trimRange_le l.bytes).1
  rw [ofLine?_eq_none_iff, ← size_trimmed_eq_zero_iff, size_trimmed]
  omega

/-- A message is the one in a line that is trimmed to its bytes. -/
theorem ofLine?_of_trimmed {l : Line} {m : Message} (h : trimmed l.bytes = m.bytes) :
    ofLine? l = some m := by
  cases hm : ofLine? l with
  | none =>
      rw [ofLine?_eq_none_iff_blanks, ← size_trimmed_eq_zero_iff, h] at hm
      exact absurd hm (Nat.ne_of_gt m.nonempty)
  | some m' => rw [ext ((bytes_of_ofLine? hm).trans h)]

theorem snug (m : Message) : Snug m.bytes := ⟨m.nonempty, m.first, m.last⟩

end Message

end LineChat
