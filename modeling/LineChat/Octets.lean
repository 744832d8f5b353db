/-!
# Byte Strings

The few operations on packed byte strings that everything else is built from.

A byte string is a `ByteArray`, because a record may be sixteen million bytes
long and is copied, searched and appended to. Its meaning is the list of its
bytes, `octets`, and every law here is stated on that list. Searching is
recursion on a count of positions still to be looked at, so that it needs no
measure and evaluates in closed terms.

`firstFrom` looks forward and `lastEnd` backward; both return a position and
neither returns an option, because the callers always want a place to cut.

## Main definitions

* `octets`: The bytes of a byte string as a list.
* `byteAt`: The byte at a position, zero past the end.
* `firstFrom`: The first position whose byte satisfies a test.
* `lastEnd`: The position after the last byte that satisfies a test.

## Theorems

* `octets_append`, `octets_extract`: The list view of joining and cutting.
* `not_mem_octets_extract`: A cut holds no byte that is absent from its range.
* `firstFrom_spec`, `lastEnd_spec`: What the two searches find.
-/

namespace LineChat

/-- The bytes of a byte string, in order. -/
def octets (b : ByteArray) : List UInt8 := b.data.toList

/-- The byte at position `i`, or zero past the end. -/
def byteAt (b : ByteArray) (i : Nat) : UInt8 := b.get! i

theorem length_octets (b : ByteArray) : (octets b).length = b.size := by
  exact Array.length_toList

@[simp] theorem octets_empty : octets ByteArray.empty = [] := rfl

@[simp] theorem octets_append (a b : ByteArray) : octets (a ++ b) = octets a ++ octets b := by
  simp [octets, ByteArray.data_append]

theorem octets_extract (b : ByteArray) (lo hi : Nat) :
    octets (b.extract lo hi) = ((octets b).drop lo).take (hi - lo) := by
  simp [octets, ByteArray.data_extract, List.extract_eq_take_drop]

/-- Two byte strings with the same bytes are the same. -/
theorem octets_injective {a b : ByteArray} (h : octets a = octets b) : a = b := by
  apply ByteArray.ext
  exact Array.toList_inj.mp h

/-- Two cuts that meet are one cut. -/
theorem extract_append_extract_of_le {b : ByteArray} {lo mid hi : Nat} (h : lo ≤ mid)
    (h' : mid ≤ hi) : b.extract lo mid ++ b.extract mid hi = b.extract lo hi := by
  rw [ByteArray.extract_append_extract, Nat.min_eq_left h, Nat.max_eq_right h']

theorem byteAt_eq (b : ByteArray) (i : Nat) : byteAt b i = (octets b)[i]?.getD 0 := by
  cases b with
  | mk data =>
    simp only [byteAt, octets, ByteArray.get!, Array.getElem?_toList]
    rw [getElem!_def]
    cases data[i]? <;> rfl

theorem byteAt_of_lt {b : ByteArray} {i : Nat} (h : i < b.size) :
    (octets b)[i]? = some (byteAt b i) := by
  rw [byteAt_eq]
  have hl : i < (octets b).length := by rw [length_octets]; exact h
  simp [List.getElem?_eq_getElem hl]

theorem byteAt_extract {b : ByteArray} {lo hi i : Nat} (h : i < hi - lo) :
    byteAt (b.extract lo hi) i = byteAt b (lo + i) := by
  rw [byteAt_eq, byteAt_eq, octets_extract, List.getElem?_take_of_lt h, List.getElem?_drop]

theorem mem_octets_iff {b : ByteArray} {x : UInt8} :
    x ∈ octets b ↔ ∃ i, i < b.size ∧ byteAt b i = x := by
  constructor
  · intro h
    obtain ⟨i, hi, hx⟩ := List.mem_iff_getElem.mp h
    rw [length_octets] at hi
    refine ⟨i, hi, ?_⟩
    have := byteAt_of_lt hi
    rw [List.getElem?_eq_getElem (by rw [length_octets]; exact hi)] at this
    rw [← hx]
    exact (Option.some.inj this).symm
  · rintro ⟨i, hi, rfl⟩
    exact List.mem_of_getElem? (byteAt_of_lt hi)

/-- A cut holds no byte that is absent from the range it was cut from. -/
theorem not_mem_octets_extract {b : ByteArray} {lo hi : Nat} {x : UInt8}
    (h : ∀ j, lo ≤ j → j < hi → byteAt b j ≠ x) : x ∉ octets (b.extract lo hi) := by
  rw [mem_octets_iff]
  rintro ⟨i, hi', hx⟩
  have hsize : i < hi - lo := by
    rw [ByteArray.size_extract] at hi'
    omega
  rw [byteAt_extract hsize] at hx
  exact h (lo + i) (by omega) (by omega) hx

theorem mem_octets_of_mem_extract {b : ByteArray} {lo hi : Nat} {x : UInt8}
    (h : x ∈ octets (b.extract lo hi)) : x ∈ octets b := by
  rw [octets_extract] at h
  exact List.mem_of_mem_drop (List.mem_of_mem_take h)

/-- The first of the `n` positions from `i` on whose byte satisfies `p`, or
    the position after them. -/
@[specialize] def firstFrom (p : UInt8 → Bool) (b : ByteArray) : (n i : Nat) → Nat
  | 0, i => i
  | n + 1, i => if p (byteAt b i) then i else firstFrom p b n (i + 1)

/-- The position after the last of the first `n` bytes that satisfies `p`, or
    zero if none does. -/
@[specialize] def lastEnd (p : UInt8 → Bool) (b : ByteArray) : (n : Nat) → Nat
  | 0 => 0
  | n + 1 => if p (byteAt b n) then n + 1 else lastEnd p b n

theorem firstFrom_spec (p : UInt8 → Bool) (b : ByteArray) (n i : Nat) :
    i ≤ firstFrom p b n i ∧ firstFrom p b n i ≤ i + n ∧
      (firstFrom p b n i < i + n → p (byteAt b (firstFrom p b n i)) = true) ∧
      ∀ j, i ≤ j → j < firstFrom p b n i → p (byteAt b j) = false := by
  induction n generalizing i with
  | zero => simp only [firstFrom]; refine ⟨by omega, by omega, by omega, ?_⟩; intro j h1 h2; omega
  | succ n ih =>
    rw [firstFrom]
    by_cases hp : p (byteAt b i) = true
    · rw [if_pos hp]
      exact ⟨by omega, by omega, fun _ => hp, fun j h1 h2 => by omega⟩
    · rw [if_neg hp]
      obtain ⟨h1, h2, h3, h4⟩ := ih (i + 1)
      refine ⟨by omega, by omega, fun h => h3 (by omega), fun j hj hlt => ?_⟩
      rcases Nat.eq_or_lt_of_le hj with rfl | hlt'
      · exact Bool.eq_false_iff.mpr hp
      · exact h4 j hlt' hlt

theorem lastEnd_spec (p : UInt8 → Bool) (b : ByteArray) (n : Nat) :
    lastEnd p b n ≤ n ∧ (0 < lastEnd p b n → p (byteAt b (lastEnd p b n - 1)) = true) ∧
      ∀ j, lastEnd p b n ≤ j → j < n → p (byteAt b j) = false := by
  induction n with
  | zero => simp only [lastEnd]; refine ⟨by omega, by omega, ?_⟩; intro j h1 h2; omega
  | succ n ih =>
    rw [lastEnd]
    by_cases hp : p (byteAt b n) = true
    · rw [if_pos hp]
      exact ⟨by omega, fun _ => by simpa using hp, fun j h1 h2 => by omega⟩
    · rw [if_neg hp]
      obtain ⟨h1, h2, h3⟩ := ih
      refine ⟨by omega, h2, fun j hj hlt => ?_⟩
      rcases Nat.lt_or_ge j n with h | h
      · exact h3 j hj h
      · obtain rfl : j = n := by omega
        exact Bool.eq_false_iff.mpr hp

end LineChat
