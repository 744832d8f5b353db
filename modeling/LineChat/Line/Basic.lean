import LineChat.Line.Blank

/-!
# Lines

A line is a run of bytes without a newline, and a byte stream is lines with a
newline after each, followed by one more line that has not been ended yet.

`split` takes a byte string apart that way. It walks from the end to the start:
the first newline it meets bounds the unended remainder, every further one
bounds a complete line, and each finished line is put in front of the ones
already found, so nothing has to be reversed and the walk is a loop even for
a stream of many lines. `join` is the converse and is what makes `split` a
definition one can trust: the parts of a split, joined, are the stream.

## Main definitions

* `Line`: Bytes without a newline.
* `Split`: Complete lines and the unended remainder of a stream.
* `split`: A byte string as a `Split`.
* `Split.join`: The stream a split stands for.

## Theorems

* `join_split`: Joining a split gives the stream back.
-/

namespace LineChat

/-- Bytes without a newline. -/
structure Line where
  /-- The bytes of the line. -/
  bytes : ByteArray
  /-- No newline among them. -/
  unbroken : newline ∉ octets bytes

namespace Line

/-- The line without bytes. -/
def empty : Line := ⟨ByteArray.empty, by simp⟩

instance : Inhabited Line := ⟨empty⟩

/-- The number of bytes in the line. -/
def size (l : Line) : Nat := l.bytes.size

@[ext] theorem ext {a b : Line} (h : a.bytes = b.bytes) : a = b := by
  cases a
  cases b
  simp_all

/-- Lines are compared by their bytes. -/
instance : DecidableEq Line := fun a b =>
  match ByteArray.instDecidableEq a.bytes b.bytes with
  | isTrue h => isTrue (ext h)
  | isFalse h => isFalse fun h' => h (congrArg bytes h')

/-- Two pieces of one line put together. -/
def append (a b : Line) : Line :=
  ⟨a.bytes ++ b.bytes, by simpa using ⟨a.unbroken, b.unbroken⟩⟩

/-- The piece of a line between two positions. -/
def slice (l : Line) (lo hi : Nat) : Line :=
  ⟨l.bytes.extract lo hi, fun h => l.unbroken (mem_octets_of_mem_extract h)⟩

/-- The bytes as a line, if there is no newline among them. -/
def ofBytes? (b : ByteArray) : Option Line :=
  if h : firstFrom (· == newline) b b.size 0 < b.size then none
  else some ⟨b, by
    rw [mem_octets_iff]
    rintro ⟨i, hi, hx⟩
    have hs := firstFrom_spec (· == newline) b b.size 0
    have := hs.2.2.2 i (Nat.zero_le i) (by omega)
    simp [hx] at this⟩

/-- The line as it travels: its bytes and a newline. -/
def wire (l : Line) : ByteArray := l.bytes.push newline

end Line

/-- A byte stream taken apart: the lines that a newline ended, and the line
    that has not been ended yet. -/
structure Split where
  /-- The ended lines, in order. -/
  lines : List Line
  /-- What follows the last newline. -/
  rest : Line
  deriving DecidableEq

namespace Split

/-- The stream that a split stands for. -/
def join (s : Split) : ByteArray :=
  s.lines.foldr (fun l acc => l.wire ++ acc) s.rest.bytes

end Split

/-- The walk of `split`: positions below `i` are still to be looked at, the
    bytes from `i` to `hi` belong to a line whose start is not known yet, and
    `found` is what lies behind `hi`. -/
def splitBelow (b : ByteArray) : (i hi : Nat) →
    (∀ j, i ≤ j → j < hi → byteAt b j ≠ newline) → (found : Option Split) → Split
  | 0, hi, h, found =>
    let line : Line := ⟨b.extract 0 hi, not_mem_octets_extract h⟩
    match found with
    | none => ⟨[], line⟩
    | some s => ⟨line :: s.lines, s.rest⟩
  | i + 1, hi, h, found =>
    if hx : byteAt b i = newline then
      let line : Line := ⟨b.extract (i + 1) hi, not_mem_octets_extract h⟩
      splitBelow b i i (fun j h1 h2 => by omega) (match found with
        | none => some ⟨[], line⟩
        | some s => some ⟨line :: s.lines, s.rest⟩)
    else
      splitBelow b i hi (fun j h1 h2 => by
        rcases Nat.eq_or_lt_of_le h1 with rfl | hlt
        · exact hx
        · exact h j hlt h2) found

/-- The complete lines of a byte string and what follows the last newline. -/
def split (b : ByteArray) : Split :=
  splitBelow b b.size b.size (fun j h1 h2 => by omega) none

@[simp] theorem octets_wire (l : Line) : octets l.wire = octets l.bytes ++ [newline] := by
  simp [Line.wire, octets, ByteArray.data_push]

@[simp] theorem Split.join_nil (rest : Line) : Split.join ⟨[], rest⟩ = rest.bytes := rfl

@[simp] theorem Split.join_cons (l : Line) (ls : List Line) (rest : Line) :
    Split.join ⟨l :: ls, rest⟩ = l.wire ++ Split.join ⟨ls, rest⟩ := rfl

/-- A range that holds a byte at `i` is what lies before it, the byte, and what
    lies behind it. -/
theorem octets_extract_at {b : ByteArray} {i hi : Nat} (hlt : i < hi) (hle : hi ≤ b.size) :
    octets (b.extract 0 hi)
      = octets (b.extract 0 i) ++ byteAt b i :: octets (b.extract (i + 1) hi) := by
  simp only [octets_extract, List.drop_zero, Nat.sub_zero]
  have hi' : i < (octets b).length := by rw [length_octets]; omega
  have hx : (octets b)[i] = byteAt b i := by
    have := byteAt_of_lt (b := b) (i := i) (by omega)
    rw [List.getElem?_eq_getElem hi'] at this
    exact Option.some.inj this
  have hsplit : (octets b).drop i = byteAt b i :: (octets b).drop (i + 1) := by
    rw [List.drop_eq_getElem_cons hi', hx]
  have htake : (octets b).take hi = (octets b).take (i + (hi - i)) := by
    congr 1
    omega
  rw [htake, List.take_add, hsplit]
  have : hi - i = (hi - (i + 1)) + 1 := by omega
  rw [this, List.take_succ_cons]

theorem octets_join_splitBelow (b : ByteArray) (i hi : Nat)
    (h : ∀ j, i ≤ j → j < hi → byteAt b j ≠ newline) (found : Option Split)
    (hle : i ≤ hi) (hsize : hi ≤ b.size) :
    octets (splitBelow b i hi h found).join
      = octets (b.extract 0 hi)
        ++ (match found with | none => [] | some s => newline :: octets s.join) := by
  induction i generalizing hi found with
  | zero =>
    cases found with
    | none => simp [splitBelow]
    | some s => simp [splitBelow]
  | succ i ih =>
    rw [splitBelow]
    by_cases hx : byteAt b i = newline
    · have hcut := octets_extract_at (show i < hi by omega) hsize
      rw [dif_pos hx, ih _ _ _ (Nat.le_refl i) (by omega), hcut, hx]
      cases found with
      | none => simp
      | some s => simp
    · rw [dif_neg hx]
      exact ih _ _ _ (by omega) hsize

/-- Joining the parts of a byte string gives it back. -/
theorem join_split (b : ByteArray) : (split b).join = b := by
  apply octets_injective
  rw [split, octets_join_splitBelow b _ _ _ _ (Nat.le_refl _) (Nat.le_refl _)]
  simp [octets_extract, ← length_octets]

end LineChat
