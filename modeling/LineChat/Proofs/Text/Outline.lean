import LineChat.Line.Blank
import LineChat.Text.Lossy
import Mathlib.Data.List.Basic

/-!
# What Reading Bytes as Text Keeps

The ASCII bytes of a byte string, when it is read as text.

Reading replaces what is no character, so the bytes of the text are not those
that were read. What stays is their *outline*: a byte below 128 is a character
by itself and is written as itself, and every other byte belongs to a character
or a fault that is written with bytes from 128 on. Neither can swallow a byte
below 128, because only bytes from 128 on go on with a character
(`continues_range`, `secondAllowed_range`), whether it is complete or not.

Hence the text has an ASCII byte only where the bytes have it
(`SameOutline.mem_of_mem`), also as its first and its last byte, and it is empty
only if there were no bytes. That is all that a record needs to stay a record.

## Main definitions

* `IsWide`: A byte of a character that takes several.
* `ReadsWide`: What reading takes off the front, if it is no ASCII byte.
* `SameOutline`: The same ASCII bytes, and something between the same ones.

## Theorems

* `decodeOne_ascii`, `decodeOne_wide`: What is read off the front.
* `utf8EncodeChar_ascii`, `utf8EncodeChar_wide`: What a character is written with.
* `lossyList_cons`: The front is read, and then the rest.
* `sameOutline_lossy`: Reading bytes as text keeps their outline.
* `toUTF8_lossy_of_valid`: Bytes that are text are kept as they are.
-/

namespace LineChat

namespace Text

/-- A byte of a character that takes several. -/
def IsWide (x : UInt8) : Prop := 0x80 ≤ x.toNat

theorem sequenceLength_ranges (x : UInt8) :
    (sequenceLength x = 1 → x.toNat < 0x80) ∧
    (sequenceLength x = 2 → 0xC2 ≤ x.toNat ∧ x.toNat ≤ 0xDF) ∧
    (sequenceLength x = 3 → 0xE0 ≤ x.toNat ∧ x.toNat ≤ 0xEF) ∧
    (sequenceLength x = 4 → 0xF0 ≤ x.toNat ∧ x.toNat ≤ 0xF4) := by
  unfold sequenceLength
  simp only [between, Bool.and_eq_true, decide_eq_true_eq, UInt8.le_iff_toNat_le,
    UInt8.lt_iff_toNat_lt]
  split
  · simp_all
  · split
    · simp_all
    · split
      · simp_all
      · split <;> simp_all

theorem sequenceLength_of_lt {x : UInt8} (h : x.toNat < 0x80) : sequenceLength x = 1 := by
  unfold sequenceLength
  exact if_pos (UInt8.lt_iff_toNat_lt.mpr h)

theorem continues_range {y : UInt8} (h : continues y = true) : 0x80 ≤ y.toNat ∧ y.toNat ≤ 0xBF := by
  simpa [continues, between, UInt8.le_iff_toNat_le] using h

/-- What may come second: always a byte that goes on with a character, and for
    four first bytes only some of them. -/
theorem secondAllowed_range {x y : UInt8} (h : secondAllowed x y = true) :
    0x80 ≤ y.toNat ∧ y.toNat ≤ 0xBF ∧ (x.toNat = 0xE0 → 0xA0 ≤ y.toNat) ∧
      (x.toNat = 0xED → y.toNat ≤ 0x9F) ∧ (x.toNat = 0xF0 → 0x90 ≤ y.toNat) ∧
      (x.toNat = 0xF4 → y.toNat ≤ 0x8F) := by
  unfold secondAllowed at h
  simp only [continues, between, beq_iff_eq, ← UInt8.toNat_inj, UInt8.reduceToNat] at h
  repeat' split at h
  all_goals
    simp only [Bool.and_eq_true, decide_eq_true_eq, UInt8.le_iff_toNat_le, UInt8.reduceToNat] at h
    omega

theorem toNat_ofNat {n : Nat} (h : n < 0xD800 ∨ 0xDFFF < n ∧ n < 0x110000) :
    (Char.ofNat n).toNat = n := by
  unfold Char.ofNat
  rw [dif_pos h]
  rfl

/-- Some bytes were read as a character that takes several, and what is left
    stands behind bytes of such characters. -/
def ReadsWide (bytes : List UInt8) (read : Char × List UInt8) : Prop :=
  0x80 ≤ read.1.toNat ∧ ∃ taken, bytes = taken ++ read.2 ∧ ∀ y ∈ taken, IsWide y

-- The replacement takes three bytes.
theorem readsWide_fault {taken : List UInt8} (htaken : ∀ y ∈ taken, IsWide y) (left : List UInt8) :
    ReadsWide (taken ++ left) (replacement, left) := by
  have hwide : 0x80 ≤ replacement.toNat := by decide
  exact ⟨hwide, taken, rfl, htaken⟩

theorem readsWide_char {taken : List UInt8} (htaken : ∀ y ∈ taken, IsWide y) {n : Nat}
    (hlow : 0x80 ≤ n) (hvalid : n < 0xD800 ∨ 0xDFFF < n ∧ n < 0x110000) (left : List UInt8) :
    ReadsWide (taken ++ left) (Char.ofNat n, left) := by
  refine ⟨?_, taken, rfl, htaken⟩
  rw [toNat_ofNat hvalid]
  exact hlow

/-- A byte that is no character by itself is read, with some bytes that go on with
    it, as a character that takes several bytes too, be it the replacement. -/
theorem decodeOne_wide {x : UInt8} (hx : IsWide x) (rest : List UInt8) :
    ReadsWide rest (decodeOne x rest) := by
  have hnone : ∀ left, ReadsWide left (replacement, left) :=
    readsWide_fault (List.forall_mem_nil _)
  have hone : ∀ {y : UInt8}, 0x80 ≤ y.toNat → ∀ w ∈ [y], IsWide w :=
    fun hy => List.forall_mem_singleton.mpr hy
  have htwo : ∀ {y z : UInt8}, 0x80 ≤ y.toNat → 0x80 ≤ z.toNat → ∀ w ∈ [y, z], IsWide w :=
    fun hy hz => List.forall_mem_cons.mpr ⟨hy, hone hz⟩
  rcases sequenceLength_ranges x with ⟨hrange1, hrange2, hrange3, hrange4⟩
  unfold decodeOne
  split
  · rename_i hlength
    exact absurd (hrange1 hlength) (Nat.not_lt.mpr hx)
  · rename_i y r hlength
    have hx := hrange2 hlength
    split
    · rename_i hy
      have hy := continues_range hy
      exact readsWide_char (hone hy.1) (by unfold sixBits; omega) (by unfold sixBits; omega) r
    · exact hnone _
  · rename_i y r hlength
    have hx := hrange3 hlength
    split
    · rename_i hy
      have hy := secondAllowed_range hy
      split
      · rename_i z r'
        split
        · rename_i hz
          have hz := continues_range hz
          exact readsWide_char (htwo hy.1 hz.1) (by unfold sixBits; omega)
            (by unfold sixBits; omega) r'
        · exact readsWide_fault (hone hy.1) (z :: r')
      · exact readsWide_fault (hone hy.1) []
    · exact hnone _
  · rename_i y r hlength
    have hx := hrange4 hlength
    split
    · rename_i hy
      have hy := secondAllowed_range hy
      split
      · rename_i z r'
        split
        · rename_i hz
          have hz := continues_range hz
          split
          · rename_i w r''
            split
            · rename_i hw
              have hw := continues_range hw
              exact readsWide_char (List.forall_mem_cons.mpr ⟨hy.1, htwo hz.1 hw.1⟩)
                (by unfold sixBits; omega) (by unfold sixBits; omega) r''
            · exact readsWide_fault (htwo hy.1 hz.1) (w :: r'')
          · exact readsWide_fault (htwo hy.1 hz.1) []
        · exact readsWide_fault (hone hy.1) (z :: r')
      · exact readsWide_fault (hone hy.1) []
    · exact hnone _
  · exact hnone _

theorem decodeOne_ascii {x : UInt8} (hx : ¬ IsWide x) (rest : List UInt8) :
    decodeOne x rest = (Char.ofNat x.toNat, rest) := by
  unfold decodeOne
  rw [sequenceLength_of_lt (Nat.lt_of_not_le hx)]
  cases rest <;> rfl

theorem utf8EncodeChar_ascii {x : UInt8} (hx : ¬ IsWide x) :
    String.utf8EncodeChar (Char.ofNat x.toNat) = [x] := by
  have hlt : x.toNat < 0x80 := Nat.lt_of_not_le hx
  have hvalue : (Char.ofNat x.toNat).val.toNat = x.toNat := toNat_ofNat (by omega)
  unfold String.utf8EncodeChar
  simp only [hvalue]
  rw [if_pos (by omega), UInt8.ofNat_toNat]

theorem utf8EncodeChar_wide {c : Char} (hc : 0x80 ≤ c.toNat) :
    String.utf8EncodeChar c ≠ [] ∧ ∀ y ∈ String.utf8EncodeChar c, IsWide y := by
  have hvalue : ¬ c.val.toNat ≤ 127 := Nat.not_le.mpr hc
  have hbyte : ∀ n k : Nat, 0x80 ≤ k → n + k < 256 → IsWide (UInt8.ofNat (n + k)) := by
    intro n k hk hlt
    unfold IsWide
    rw [UInt8.toNat_ofNat_of_lt' hlt]
    omega
  unfold String.utf8EncodeChar
  simp only
  rw [if_neg hvalue]
  split
  · simp only [ne_eq, List.cons_ne_nil, not_false_eq_true, List.forall_mem_cons, true_and]
    exact ⟨hbyte _ _ (by decide) (by omega), hbyte _ _ (by decide) (by omega),
      List.forall_mem_nil _⟩
  · split
    · simp only [ne_eq, List.cons_ne_nil, not_false_eq_true, List.forall_mem_cons, true_and]
      exact ⟨hbyte _ _ (by decide) (by omega), hbyte _ _ (by decide) (by omega),
        hbyte _ _ (by decide) (by omega), List.forall_mem_nil _⟩
    · simp only [ne_eq, List.cons_ne_nil, not_false_eq_true, List.forall_mem_cons, true_and]
      exact ⟨hbyte _ _ (by decide) (by omega), hbyte _ _ (by decide) (by omega),
        hbyte _ _ (by decide) (by omega), hbyte _ _ (by decide) (by omega), List.forall_mem_nil _⟩

/-- Two byte strings have the same ASCII bytes in the same order, and between two
    of them stand other bytes in the one exactly if some stand in the other. -/
inductive SameOutline : List UInt8 → List UInt8 → Prop
  | nil : SameOutline [] []
  | ascii {x : UInt8} {bs ts : List UInt8} : ¬ IsWide x → SameOutline bs ts →
      SameOutline (x :: bs) (x :: ts)
  | wide {b t bs ts : List UInt8} : b ≠ [] → t ≠ [] → (∀ y ∈ b, IsWide y) → (∀ y ∈ t, IsWide y) →
      SameOutline bs ts → SameOutline (b ++ bs) (t ++ ts)

namespace SameOutline

theorem refl (bs : List UInt8) : SameOutline bs bs := by
  induction bs with
  | nil => exact nil
  | cons x bs ih =>
      by_cases hx : IsWide x
      · have hone : ∀ y ∈ [x], IsWide y := List.forall_mem_singleton.mpr hx
        exact wide (List.cons_ne_nil x []) (List.cons_ne_nil x []) hone hone ih
      · exact ascii hx ih

theorem mem_of_mem {bs ts : List UInt8} (h : SameOutline bs ts) {x : UInt8} (hx : ¬ IsWide x)
    (hmem : x ∈ ts) : x ∈ bs := by
  induction h with
  | nil => exact hmem
  | ascii _ _ ih =>
      rcases List.mem_cons.mp hmem with rfl | hmem
      · exact List.mem_cons_self
      · exact List.mem_cons_of_mem _ (ih hmem)
  | wide _ _ _ ht _ ih =>
      rcases List.mem_append.mp hmem with hwide | hmem
      · exact absurd (ht x hwide) hx
      · exact List.mem_append_right _ (ih hmem)

theorem eq_nil_iff {bs ts : List UInt8} (h : SameOutline bs ts) : ts = [] ↔ bs = [] := by
  cases h with
  | nil => rfl
  | ascii _ _ => simp
  | wide hb ht _ _ _ => simp [hb, ht]

theorem head?_of_head? {bs ts : List UInt8} (h : SameOutline bs ts) {x : UInt8} (hx : ¬ IsWide x)
    (hhead : ts.head? = some x) : bs.head? = some x := by
  cases h with
  | nil => exact hhead
  | ascii _ _ => exact hhead
  | @wide b t bs ts _ ht _ hwide _ =>
      cases t with
      | nil => exact absurd rfl ht
      | cons y t =>
          obtain rfl : y = x := Option.some.inj hhead
          exact absurd (hwide y List.mem_cons_self) hx

theorem getLast?_of_getLast? {bs ts : List UInt8} (h : SameOutline bs ts) {x : UInt8}
    (hx : ¬ IsWide x) (hlast : ts.getLast? = some x) : bs.getLast? = some x := by
  induction h with
  | nil => exact hlast
  | @ascii z bs ts _ hrest ih =>
      by_cases hts : ts = []
      · have hbs := hrest.eq_nil_iff.mp hts
        subst hts hbs
        exact hlast
      · have hbs := mt hrest.eq_nil_iff.mpr hts
        rw [List.getLast?_cons_of_ne_nil hts] at hlast
        rw [List.getLast?_cons_of_ne_nil hbs]
        exact ih hlast
  | @wide b t bs ts _ ht _ hwide hrest ih =>
      by_cases hts : ts = []
      · subst hts
        rw [List.append_nil] at hlast
        exact absurd (hwide x (List.mem_of_getLast? hlast)) hx
      · have hbs := mt hrest.eq_nil_iff.mpr hts
        rw [List.getLast?_append_of_ne_nil _ hts] at hlast
        rw [List.getLast?_append_of_ne_nil _ hbs]
        exact ih hlast

end SameOutline

theorem lossyList_nil : lossyList [] = [] := by
  rw [lossyList, lossyFrom]
  rfl

theorem lossyFrom_cons (read : List Char) (x : UInt8) (rest : List UInt8) :
    lossyFrom read (x :: rest) = lossyFrom ((decodeOne x rest).1 :: read) (decodeOne x rest).2 := by
  rw [lossyFrom]

theorem lossyFrom_eq (read : List Char) (bytes : List UInt8) :
    lossyFrom read bytes = read.reverse ++ lossyList bytes := by
  induction hn : bytes.length using Nat.strongRecOn generalizing read bytes with
  | ind n ih =>
      cases bytes with
      | nil => rw [lossyFrom, lossyList_nil, List.append_nil]
      | cons x rest =>
          have hlt : (decodeOne x rest).2.length < n :=
            hn ▸ Nat.lt_succ_of_le (length_decodeOne x rest)
          rw [lossyList, lossyFrom_cons, lossyFrom_cons, ih _ hlt _ _ rfl, ih _ hlt _ _ rfl]
          simp

theorem lossyList_cons (x : UInt8) (rest : List UInt8) :
    lossyList (x :: rest) = (decodeOne x rest).1 :: lossyList (decodeOne x rest).2 := by
  rw [lossyList, lossyFrom_cons, lossyFrom_eq]
  rfl

/-- Reading bytes as text keeps their outline. -/
theorem sameOutline_lossyList (bytes : List UInt8) :
    SameOutline bytes ((lossyList bytes).flatMap String.utf8EncodeChar) := by
  induction hn : bytes.length using Nat.strongRecOn generalizing bytes with
  | ind n ih =>
      cases bytes with
      | nil =>
          rw [lossyList_nil]
          exact SameOutline.nil
      | cons x rest =>
          have hlt : (decodeOne x rest).2.length < n :=
            hn ▸ Nat.lt_succ_of_le (length_decodeOne x rest)
          have hrest := ih _ hlt (decodeOne x rest).2 rfl
          rw [lossyList_cons, List.flatMap_cons]
          by_cases hx : IsWide x
          · rcases decodeOne_wide hx rest with ⟨hchar, taken, htaken, hall⟩
            rcases utf8EncodeChar_wide hchar with ⟨hsome, hwide⟩
            have hbytes : x :: rest = (x :: taken) ++ (decodeOne x rest).2 :=
              congrArg (x :: ·) htaken
            rw [hbytes]
            exact SameOutline.wide (List.cons_ne_nil x taken) hsome
              (List.forall_mem_cons.mpr ⟨hx, hall⟩) hwide hrest
          · rw [decodeOne_ascii hx] at hrest ⊢
            rw [utf8EncodeChar_ascii hx]
            exact SameOutline.ascii hx hrest

theorem octets_toUTF8_ofList (cs : List Char) :
    octets (String.ofList cs).toUTF8 = cs.flatMap String.utf8EncodeChar := by
  rw [octets, String.toUTF8_eq_toByteArray, String.toByteArray_ofList]
  exact List.toList_data_toByteArray

theorem toUTF8_lossy_of_valid {b : ByteArray} (h : b.IsValidUTF8) : (lossy b).toUTF8 = b := by
  have hread : utf8? b = some (String.fromUTF8 b h) := dif_pos h
  unfold lossy
  rw [hread]
  rfl

/-- The bytes that a byte string is shown with have its outline. -/
theorem sameOutline_lossy (b : ByteArray) : SameOutline (octets b) (octets (lossy b).toUTF8) := by
  by_cases h : b.IsValidUTF8
  · rw [toUTF8_lossy_of_valid h]
    exact SameOutline.refl _
  · have hread : utf8? b = none := dif_neg h
    unfold lossy
    rw [hread, octets_toUTF8_ofList]
    exact sameOutline_lossyList (octets b)

end Text

end LineChat
