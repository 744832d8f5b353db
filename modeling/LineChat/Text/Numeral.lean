/-!
# Numerals

Reads numbers the way command lines and addresses write them.

A decimal numeral is one or more ASCII digits, with any number of leading zeros
and at most one sign in front. What does not fit the bound it is read for is no
numeral of that kind.

## Main definitions

* `digitValue?`: The value of a digit in a radix.
* `naturalOf`: The value of a list of digits.
* `unsigned?`: A numeral below a bound, with an optional plus sign.
* `signed?`: A numeral with an optional sign, in a two-sided range.

## Theorems

* `unsigned?_lt`: What `unsigned?` reads lies below the bound.
-/

namespace LineChat

namespace Text

/-- The value of an ASCII digit or letter as a digit in a radix of up to 36. -/
def digitValue? (radix : Nat) (c : Char) : Option Nat :=
  let v :=
    if '0' ≤ c ∧ c ≤ '9' then some (c.toNat - '0'.toNat)
    else if 'a' ≤ c ∧ c ≤ 'z' then some (c.toNat - 'a'.toNat + 10)
    else if 'A' ≤ c ∧ c ≤ 'Z' then some (c.toNat - 'A'.toNat + 10)
    else none
  match v with
  | some d => if d < radix then some d else none
  | none => none

/-- The value of a list of digits, the most significant first. -/
def naturalOf (radix : Nat) (digits : List Nat) : Nat :=
  digits.foldl (fun n d => n * radix + d) 0

/-- The value of one or more digits that make up the whole list. -/
def digits? (radix : Nat) (cs : List Char) : Option Nat :=
  if cs.isEmpty then none
  else
    match cs.mapM (digitValue? radix) with
    | some ds => some (naturalOf radix ds)
    | none => none

/-- A decimal numeral below `bound`, with an optional plus sign. -/
def unsigned? (bound : Nat) (cs : List Char) : Option Nat :=
  let digits := match cs with
    | '+' :: rest => rest
    | _ => cs
  match digits? 10 digits with
  | some n => if n < bound then some n else none
  | none => none

/-- A decimal numeral from `-bound` up to but not including `bound`, with an
    optional sign. -/
def signed? (bound : Nat) (cs : List Char) : Option Int :=
  match cs with
  | '-' :: rest =>
    match digits? 10 rest with
    | some n => if n ≤ bound then some (-(n : Int)) else none
    | none => none
  | _ =>
    match unsigned? bound cs with
    | some n => some n
    | none => none

theorem unsigned?_lt {bound n : Nat} {cs : List Char} (h : unsigned? bound cs = some n) :
    n < bound := by
  simp only [unsigned?] at h
  split at h
  · split at h
    · simp_all
    · simp at h
  · simp at h

end Text

end LineChat
