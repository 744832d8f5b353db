import LineChat.Text.Numeral
import Mathlib.Data.List.Induction

/-!
# Numerals and What They Stand For

Which texts are read as a number, and as which one.

A decimal numeral of `n` is what a person would write for it: the digits of `n`,
any number of zeros in front of them, and in front of these a plus sign or none.
The digits are the ones that printing a number gives, `Nat.toDigits`, so nothing
in `Decimal` refers to the reader, and a printed number is a numeral of itself
without any further argument.

`unsigned?_eq_some_iff` says that reading accepts the numerals below its bound and
nothing else. Both directions go by the last digit, where `Nat.toDigits` splits.
Printing and reading agree in every radix up to sixteen; the converse is only
needed for ten, because hexadecimal digits can be written in two ways.

## Main definitions

* `Decimal`: A decimal numeral of a number.

## Theorems

* `digits?_toDigits`: Printed digits are read back.
* `head?_toDigits`: Only the number zero begins with that digit.
* `digits?_eq_some_iff`: Zeros and printed digits are all that is read.
* `unsigned?_eq_some_iff`: The numerals below a bound are all that is read.
-/

namespace LineChat

namespace Text

/-- A decimal numeral of `n`: a plus sign or none, any number of zeros, and the
    digits of `n`. -/
def Decimal (n : Nat) (cs : List Char) : Prop :=
  ∃ sign zeros, (sign = [] ∨ sign = ['+']) ∧
    cs = sign ++ List.replicate zeros '0' ++ Nat.toDigits 10 n

theorem digitValue?_digitChar {radix d : Nat} (hd : d < radix) (hradix : radix ≤ 16) :
    digitValue? radix (Nat.digitChar d) = some d := by
  have hvalue : ∀ d < 16, (if '0' ≤ Nat.digitChar d ∧ Nat.digitChar d ≤ '9' then
        some ((Nat.digitChar d).toNat - '0'.toNat)
      else if 'a' ≤ Nat.digitChar d ∧ Nat.digitChar d ≤ 'z' then
        some ((Nat.digitChar d).toNat - 'a'.toNat + 10)
      else if 'A' ≤ Nat.digitChar d ∧ Nat.digitChar d ≤ 'Z' then
        some ((Nat.digitChar d).toNat - 'A'.toNat + 10)
      else none) = some d := by decide
  unfold digitValue?
  simp only [hvalue d (by omega), if_pos hd]

/-- The ten digits are the only characters with a value in decimal. -/
theorem digitValue?_ten {c : Char} {d : Nat} (h : digitValue? 10 c = some d) :
    d < 10 ∧ c = Nat.digitChar d := by
  unfold digitValue? at h
  split at h
  · rename_i hrange
    simp only [Option.ite_none_right_eq_some, Option.some.injEq] at h
    rcases h with ⟨hlt, hvalue⟩
    have hlow : 48 ≤ c.toNat := hrange.1
    have hzero : c.toNat - 48 = d := hvalue
    refine ⟨by omega, Char.toNat_inj.mp ?_⟩
    rw [Nat.toNat_digitChar_of_lt_ten (by omega)]
    omega
  · -- A letter stands for ten or more.
    split at h
    · simp only [Option.ite_none_right_eq_some] at h
      omega
    · split at h
      · simp only [Option.ite_none_right_eq_some] at h
        omega
      · cases h

theorem digits?_singleton (radix : Nat) (c : Char) : digits? radix [c] = digitValue? radix c := by
  unfold digits?
  cases hc : digitValue? radix c with
  | none => simp [List.mapM_cons, hc]
  | some d => simp [List.mapM_cons, hc, naturalOf]

-- The last digit counts once, and the number before it `radix` times.
theorem digits?_concat (radix : Nat) {cs : List Char} (hcs : cs ≠ []) (c : Char) :
    digits? radix (cs ++ [c])
      = (digits? radix cs).bind fun n => (digitValue? radix c).map fun d => n * radix + d := by
  unfold digits?
  have hempty : cs.isEmpty = false := by simpa using hcs
  have hempty' : (cs ++ [c]).isEmpty = false := by simp
  rw [hempty, hempty']
  cases hds : cs.mapM (digitValue? radix) with
  | none => simp [List.mapM_append, hds]
  | some ds =>
      cases hc : digitValue? radix c with
      | none => simp [List.mapM_append, List.mapM_cons, hds, hc]
      | some d => simp [List.mapM_append, List.mapM_cons, hds, hc, naturalOf]

/-- A zero in front changes nothing. -/
theorem digits?_zero_cons {radix : Nat} (hradix : 0 < radix) {cs : List Char} (hcs : cs ≠ []) :
    digits? radix ('0' :: cs) = digits? radix cs := by
  have hzero : digitValue? radix '0' = some 0 := by
    unfold digitValue?
    simp [hradix]
  unfold digits?
  have hempty : cs.isEmpty = false := by simpa using hcs
  rw [hempty, List.isEmpty_cons]
  cases hds : cs.mapM (digitValue? radix) with
  | none => simp [List.mapM_cons, hzero, hds]
  | some ds => simp [List.mapM_cons, hzero, hds, naturalOf]

theorem digits?_zeros {radix : Nat} (hradix : 0 < radix) (zeros : Nat) {cs : List Char}
    (hcs : cs ≠ []) : digits? radix (List.replicate zeros '0' ++ cs) = digits? radix cs := by
  induction zeros with
  | zero => rfl
  | succ zeros ih =>
      rw [List.replicate_succ, List.cons_append, digits?_zero_cons hradix (by simp [hcs]), ih]

/-- Printed digits are read back. -/
theorem digits?_toDigits {radix : Nat} (hmore : 1 < radix) (hradix : radix ≤ 16) (n : Nat) :
    digits? radix (Nat.toDigits radix n) = some n := by
  induction n using Nat.strongRecOn with
  | ind n ih =>
      rw [Nat.toDigits_eq_if hmore]
      by_cases hlt : n < radix
      · rw [if_pos hlt, digits?_singleton, digitValue?_digitChar hlt hradix]
      · have hdiv : n / radix < n := Nat.div_lt_self (by omega) hmore
        have hmod : n % radix < radix := Nat.mod_lt n (by omega)
        rw [if_neg hlt, digits?_concat radix Nat.toDigits_ne_nil, ih _ hdiv,
          digitValue?_digitChar hmod hradix]
        exact congrArg some (Nat.div_add_mod' n radix)

theorem digitValue?_of_mem_toDigits {radix : Nat} (hmore : 1 < radix) (hradix : radix ≤ 16)
    (n : Nat) : ∀ c ∈ Nat.toDigits radix n, (digitValue? radix c).isSome = true := by
  induction n using Nat.strongRecOn with
  | ind n ih =>
      intro c hc
      rw [Nat.toDigits_eq_if hmore] at hc
      split at hc
      · rename_i hlt
        rw [List.mem_singleton.mp hc, digitValue?_digitChar hlt hradix]
        rfl
      · rcases List.mem_append.mp hc with hfront | hlast
        · exact ih _ (Nat.div_lt_self (by omega) hmore) c hfront
        · rw [List.mem_singleton.mp hlast, digitValue?_digitChar (Nat.mod_lt n (by omega)) hradix]
          rfl

-- Only the number zero begins with that digit.
theorem head?_toDigits {radix : Nat} (hmore : 1 < radix) (hradix : radix ≤ 16) (n : Nat)
    (h : (Nat.toDigits radix n).head? = some '0') : n = 0 := by
  induction n using Nat.strongRecOn with
  | ind n ih =>
      rw [Nat.toDigits_eq_if hmore] at h
      split at h
      · rename_i hlt
        have hzero : Nat.digitChar n = '0' := by simpa using h
        have hvalue := digitValue?_digitChar hlt hradix
        rw [hzero, show '0' = Nat.digitChar 0 from rfl,
          digitValue?_digitChar (by omega) hradix] at hvalue
        exact (Option.some.inj hvalue).symm
      · rename_i hge
        have hfront : (Nat.toDigits radix (n / radix)).head? = some '0' := by
          cases hdigits : Nat.toDigits radix (n / radix) with
          | nil => exact absurd hdigits Nat.toDigits_ne_nil
          | cons c cs =>
              rw [hdigits] at h
              exact h
        have hdiv := ih _ (Nat.div_lt_self (by omega) hmore) hfront
        rw [Nat.div_eq_zero_iff] at hdiv
        omega

/-- What is read in decimal is a printed number with zeros in front of it. -/
theorem digits?_eq_some_iff {cs : List Char} {n : Nat} :
    digits? 10 cs = some n ↔ ∃ zeros, cs = List.replicate zeros '0' ++ Nat.toDigits 10 n := by
  constructor
  · intro h
    induction cs using List.reverseRecOn generalizing n with
    | nil => cases h
    | append_singleton cs c ih =>
        cases hcs : cs with
        | nil =>
            rw [hcs, List.nil_append, digits?_singleton] at h
            rcases digitValue?_ten h with ⟨hlt, rfl⟩
            exact ⟨0, (Nat.toDigits_of_lt_base hlt).symm⟩
        | cons _ _ =>
            have hne : cs ≠ [] := by simp [hcs]
            rw [digits?_concat 10 hne] at h
            rcases Option.bind_eq_some_iff.mp h with ⟨m, hm, h⟩
            rcases Option.map_eq_some_iff.mp h with ⟨d, hd, rfl⟩
            rcases digitValue?_ten hd with ⟨hlt, rfl⟩
            rcases ih hm with ⟨zeros, hzeros⟩
            rw [← hcs, hzeros, ← Nat.toDigits_of_lt_base hlt, List.append_assoc]
            rcases Nat.eq_zero_or_pos m with rfl | hpos
            · -- Nothing but zeros stands before the last digit.
              refine ⟨zeros + 1, ?_⟩
              rw [Nat.toDigits_zero, Nat.zero_mul, Nat.zero_add, List.replicate_succ',
                List.append_assoc]
            · exact ⟨zeros, by rw [Nat.toDigits_append_toDigits (by decide) hpos hlt, Nat.mul_comm]⟩
  · rintro ⟨zeros, rfl⟩
    rw [digits?_zeros (by decide) zeros Nat.toDigits_ne_nil,
      digits?_toDigits (by decide) (by decide)]

theorem isDigit_of_digits? {cs : List Char} {n : Nat} (h : digits? 10 cs = some n) {c : Char}
    (hc : c ∈ cs) : c.isDigit = true := by
  rcases digits?_eq_some_iff.mp h with ⟨zeros, rfl⟩
  rcases List.mem_append.mp hc with hzero | hdigit
  · rw [List.eq_of_mem_replicate hzero]
    rfl
  · exact Nat.isDigit_of_mem_toDigits (by decide) (by decide) hdigit

/-- A plus sign in front is passed over; what is left are digits. -/
theorem unsigned?_plus (bound n : Nat) (cs : List Char) :
    unsigned? bound ('+' :: cs) = some n ↔ digits? 10 cs = some n ∧ n < bound := by
  unfold unsigned?
  cases hdigits : digits? 10 cs with
  | none => simp only [hdigits, reduceCtorEq, false_and]
  | some m =>
      simp only [hdigits]
      rw [Option.ite_none_right_eq_some, Option.some.injEq]
      exact ⟨fun h => ⟨h.2, h.2 ▸ h.1⟩, fun h => ⟨h.1 ▸ h.2, h.1⟩⟩

theorem unsigned?_of_no_plus (bound : Nat) {cs : List Char} (h : ∀ rest, cs ≠ '+' :: rest) :
    unsigned? bound cs = unsigned? bound ('+' :: cs) := by
  unfold unsigned?
  extract_lets digits digits'
  have hdigits : digits = cs := by
    unfold digits
    split
    · exact absurd rfl (h _)
    · rfl
  rw [hdigits]
  rfl

/-- A numeral is taken apart into its sign and its digits. -/
theorem unsigned?_eq (bound : Nat) (cs : List Char) :
    ∃ sign digits, (sign = [] ∧ (∀ rest, cs ≠ '+' :: rest) ∨ sign = ['+']) ∧
      cs = sign ++ digits ∧
      ∀ n, unsigned? bound cs = some n ↔ digits? 10 digits = some n ∧ n < bound := by
  by_cases hplus : ∃ rest, cs = '+' :: rest
  · rcases hplus with ⟨rest, rfl⟩
    exact ⟨['+'], rest, Or.inr rfl, rfl, fun n => unsigned?_plus bound n rest⟩
  · have hnot : ∀ rest, cs ≠ '+' :: rest := fun rest h => hplus ⟨rest, h⟩
    refine ⟨[], cs, Or.inl ⟨rfl, hnot⟩, rfl, fun n => ?_⟩
    rw [unsigned?_of_no_plus bound hnot, unsigned?_plus]

/-- The numerals below the bound are read, each as its number, and nothing else
    is. -/
theorem unsigned?_eq_some_iff {bound n : Nat} {cs : List Char} :
    unsigned? bound cs = some n ↔ Decimal n cs ∧ n < bound := by
  rcases unsigned?_eq bound cs with ⟨sign, digits, hsign, rfl, hread⟩
  rw [hread, and_congr_left_iff, digits?_eq_some_iff]
  intro _
  constructor
  · rintro ⟨zeros, rfl⟩
    exact ⟨sign, zeros, hsign.imp_left And.left, (List.append_assoc ..).symm⟩
  · rintro ⟨sign', zeros, hsign', hcs⟩
    rw [List.append_assoc] at hcs
    have hdigits : digits? 10 (List.replicate zeros '0' ++ Nat.toDigits 10 n) = some n :=
      digits?_eq_some_iff.mpr ⟨zeros, rfl⟩
    rcases hsign with ⟨rfl, hnot⟩ | rfl
    · rcases hsign' with rfl | rfl
      · exact ⟨zeros, hcs⟩
      · exact absurd hcs (hnot _)
    · rcases hsign' with rfl | rfl
      · have hsame : '+' :: digits = List.replicate zeros '0' ++ Nat.toDigits 10 n := hcs
        rw [← hsame] at hdigits
        exact absurd (isDigit_of_digits? hdigits List.mem_cons_self) (by decide)
      · exact ⟨zeros, List.append_cancel_left hcs⟩

namespace Decimal

theorem digits? {n : Nat} {cs : List Char} (h : Decimal n cs) :
    ∃ sign digits, (sign = [] ∨ sign = ['+']) ∧ cs = sign ++ digits ∧
      Text.digits? 10 digits = some n := by
  rcases h with ⟨sign, zeros, hsign, rfl⟩
  exact ⟨sign, _, hsign, List.append_assoc .., digits?_eq_some_iff.mpr ⟨zeros, rfl⟩⟩

theorem ne_nil {n : Nat} {cs : List Char} (h : Decimal n cs) : cs ≠ [] := by
  rcases h with ⟨sign, zeros, _, rfl⟩
  exact List.append_ne_nil_of_right_ne_nil _ Nat.toDigits_ne_nil

/-- A numeral is made of digits and at most a plus sign. -/
theorem isDigit {n : Nat} {cs : List Char} (h : Decimal n cs) {c : Char} (hc : c ∈ cs) :
    c = '+' ∨ c.isDigit = true := by
  rcases h.digits? with ⟨sign, digits, hsign, rfl, hdigits⟩
  rcases List.mem_append.mp hc with hplus | hdigit
  · rcases hsign with rfl | rfl
    · cases hplus
    · exact Or.inl (List.mem_singleton.mp hplus)
  · exact Or.inr (isDigit_of_digits? hdigits hdigit)

end Decimal

/-- What is printed for a number is a numeral of it. -/
theorem decimal_toString (n : Nat) : Decimal n (toString n).toList :=
  ⟨[], 0, Or.inl rfl, by
    rw [Nat.toString_eq_ofList_toDigits, String.toList_ofList]
    rfl⟩

end Text

end LineChat
