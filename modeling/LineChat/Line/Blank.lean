import LineChat.Octets

/-!
# Blank Space Around Records

Which bytes count as blank, and where a record begins and ends once the blank
bytes around it are dropped.

Blank is the C locale's notion: space, tab, newline, vertical tab, form feed
and carriage return. No byte above 127 is blank, so a trimmed record never
loses part of a multi-byte character.

`trimRange` answers with positions rather than a copy, because one caller only
wants to know whether anything is left.

## Main definitions

* `newline`: The byte that ends a record.
* `isBlank`: The six blank bytes.
* `trimRange`: Start and end of a byte string without the blanks around it.
* `trimmed`: The bytes in that range.

## Theorems

* `trimRange_le`: The range is ordered and lies inside the byte string.
* `trimRange_first`, `trimRange_last`: A non-empty range neither starts nor
  ends with a blank.
* `trimRange_outside`: Everything outside the range is blank.
-/

namespace LineChat

/-- The byte that ends a record. -/
def newline : UInt8 := 10

/-- Space, tab, newline, vertical tab, form feed and carriage return. -/
def isBlank (x : UInt8) : Bool :=
  x == 32 || (9 ≤ x && x ≤ 13)

theorem isBlank_newline : isBlank newline = true := by decide

/-- The range of `b` without the blanks around it. Both ends are the size of
    `b` when everything is blank. -/
def trimRange (b : ByteArray) : Nat × Nat :=
  let start := firstFrom (fun x => !isBlank x) b b.size 0
  (start, max start (lastEnd (fun x => !isBlank x) b b.size))

/-- The bytes of `b` without the blanks around them. -/
def trimmed (b : ByteArray) : ByteArray :=
  b.extract (trimRange b).1 (trimRange b).2

theorem trimRange_le (b : ByteArray) :
    (trimRange b).1 ≤ (trimRange b).2 ∧ (trimRange b).2 ≤ b.size := by
  have h1 := (firstFrom_spec (fun x => !isBlank x) b b.size 0).2.1
  have h2 := (lastEnd_spec (fun x => !isBlank x) b b.size).1
  simp only [trimRange]
  omega

/-- Everything before the range is blank. -/
theorem trimRange_before (b : ByteArray) (j : Nat) (h : j < (trimRange b).1) :
    isBlank (byteAt b j) = true := by
  have := (firstFrom_spec (fun x => !isBlank x) b b.size 0).2.2.2 j (Nat.zero_le j) h
  simpa using this

/-- Everything after the range is blank. -/
theorem trimRange_after (b : ByteArray) (j : Nat) (h : (trimRange b).2 ≤ j) (hj : j < b.size) :
    isBlank (byteAt b j) = true := by
  have hle : lastEnd (fun x => !isBlank x) b b.size ≤ j := by
    simp only [trimRange] at h
    omega
  have := (lastEnd_spec (fun x => !isBlank x) b b.size).2.2 j hle hj
  simpa using this

theorem trimRange_first (b : ByteArray) (h : (trimRange b).1 < (trimRange b).2) :
    isBlank (byteAt b (trimRange b).1) = false := by
  have hlt : (trimRange b).1 < 0 + b.size := by
    have := (trimRange_le b).2
    omega
  have := (firstFrom_spec (fun x => !isBlank x) b b.size 0).2.2.1 hlt
  simpa [trimRange] using this

theorem trimRange_last (b : ByteArray) (h : (trimRange b).1 < (trimRange b).2) :
    isBlank (byteAt b ((trimRange b).2 - 1)) = false := by
  have hmax : (trimRange b).2 = lastEnd (fun x => !isBlank x) b b.size := by
    simp only [trimRange] at h ⊢
    omega
  rw [hmax]
  have := (lastEnd_spec (fun x => !isBlank x) b b.size).2.1 (by omega)
  simpa using this

end LineChat
