import LineChat.Line.Error
import LineChat.Octets

/-!
# Bounded Byte Buffers

A queue of bytes with a hard limit: bytes are appended at the end and consumed
from the front, and an append that would exceed the limit is refused whole.

Limits go up to the largest 64-bit size, so the sum that is compared with the
limit may leave the machine word; such a sum is refused too. The room a buffer
has reserved grows by doubling from 1024 bytes and is clamped to the limit.
When doubling would leave the machine word, exactly the room that is needed is
reserved.

## Main definitions

* `Buffer`: Bytes, their limit and the room reserved for them.
* `grownCapacity`: The room reserved when more is needed.
* `Buffer.reserve`, `Buffer.append`: Room for more bytes, and more bytes.
* `Buffer.consume`, `Buffer.clear`: Dropping bytes from the front, or all.

## Theorems

* `reserve_eq_error_iff`: Exactly when room is refused.
* `bytes_of_append`: What an append leaves behind.
* `reserve_cases`, `append_cases`: Everything that a call can come to.
-/

namespace LineChat

/-- One more than the largest size a machine word holds. -/
def wordBound : Nat := 0x10000000000000000

/-- The room of the first growth. -/
def initialCapacity : Nat := 1024

/-- The limit of a buffer when none is given: 16 MiB. -/
def defaultLimit : Nat := 16 * 1024 * 1024

/-- The first of `c`, `2 * c`, `4 * c`, … that is at least `needed`, or nothing
    if doubling leaves the machine word before. -/
def doubledTo (needed c : Nat) (hc : 0 < c) : Option Nat :=
  if needed ≤ c then some c
  else if wordBound ≤ 2 * c then none
  else doubledTo needed (2 * c) (by omega)
termination_by needed - c

/-- The room reserved when `needed` bytes no longer fit into `current`. -/
def grownCapacity (current needed limit : Nat) : Nat :=
  match doubledTo needed (max current initialCapacity) (by simp only [initialCapacity]; omega) with
  | none => needed
  | some c => max (min c limit) needed

/-- Bytes that may not exceed a limit. -/
structure Buffer where
  /-- The most bytes the buffer may hold. -/
  limit : Nat
  /-- The bytes it holds. -/
  bytes : ByteArray
  /-- The room reserved for them. -/
  capacity : Nat
  /-- The limit is kept. -/
  fits : bytes.size ≤ limit

namespace Buffer

/-- A buffer without bytes and without room. -/
def empty (limit : Nat) : Buffer := ⟨limit, ByteArray.empty, 0, Nat.zero_le limit⟩

instance : Inhabited Buffer := ⟨empty defaultLimit⟩

/-- The number of bytes held. -/
def size (b : Buffer) : Nat := b.bytes.size

/-- Whether no bytes are held. -/
def isEmpty (b : Buffer) : Bool := b.size == 0

/-- Room for `additional` more bytes, or the refusal. -/
def reserve (b : Buffer) (additional : Nat) : Except Overflow Buffer :=
  let needed := b.size + additional
  if wordBound ≤ needed ∨ b.limit < needed then
    .error ⟨b.size, additional, b.limit⟩
  else if needed ≤ b.capacity then .ok b
  else .ok { b with capacity := grownCapacity b.capacity needed b.limit }

/-- The bytes followed by `data`, or the refusal. -/
@[inline] def append (b : Buffer) (data : ByteArray) : Except Overflow Buffer :=
  if h : wordBound ≤ b.size + data.size ∨ b.limit < b.size + data.size then
    .error ⟨b.size, data.size, b.limit⟩
  else
    .ok {
      limit := b.limit
      bytes := b.bytes ++ data
      capacity :=
        if b.size + data.size ≤ b.capacity then b.capacity
        else grownCapacity b.capacity (b.size + data.size) b.limit
      fits := by
        rw [ByteArray.size_append]
        simp only [size] at h
        omega }

/-- The bytes without the first `n`, or without any if there are fewer. -/
def consume (b : Buffer) (n : Nat) : Buffer :=
  { b with
    bytes := b.bytes.extract n b.bytes.size
    fits := by
      have := b.fits
      rw [ByteArray.size_extract]
      omega }

/-- The buffer without its bytes. -/
def clear (b : Buffer) : Buffer :=
  { b with bytes := ByteArray.empty, fits := Nat.zero_le b.limit }

/-- The first `n` bytes, and the buffer without them. -/
def detach (b : Buffer) (n : Nat) : ByteArray × Buffer :=
  (b.bytes.extract 0 (min n b.size), b.consume n)

theorem isEmpty_iff (b : Buffer) : b.isEmpty = true ↔ b.bytes = ByteArray.empty := by
  rw [← ByteArray.size_eq_zero_iff]
  exact beq_iff_eq

theorem reserve_eq_error_iff (b : Buffer) (n : Nat) (o : Overflow) :
    b.reserve n = .error o ↔
      (wordBound ≤ b.size + n ∨ b.limit < b.size + n) ∧ o = ⟨b.size, n, b.limit⟩ := by
  simp only [reserve]
  split
  · rename_i h
    simp [h, eq_comm]
  · rename_i h
    split <;> simp [h]

theorem bytes_of_append {b b' : Buffer} {data : ByteArray} (h : b.append data = .ok b') :
    b'.bytes = b.bytes ++ data ∧ b'.limit = b.limit := by
  simp only [append] at h
  split at h
  · simp at h
  · simp only [Except.ok.injEq] at h
    rw [← h]
    exact ⟨rfl, rfl⟩

/-- Room is refused, or reserved without a change to the bytes. -/
theorem reserve_cases (b : Buffer) (n : Nat) :
    ((wordBound ≤ b.size + n ∨ b.limit < b.size + n) ∧ b.reserve n = .error ⟨b.size, n, b.limit⟩) ∨
      (¬ (wordBound ≤ b.size + n ∨ b.limit < b.size + n) ∧
        ∃ b', b.reserve n = .ok b' ∧ b'.bytes = b.bytes ∧ b'.limit = b.limit) := by
  by_cases h : wordBound ≤ b.size + n ∨ b.limit < b.size + n
  · exact Or.inl ⟨h, (reserve_eq_error_iff b n _).mpr ⟨h, rfl⟩⟩
  · right
    refine ⟨h, ?_⟩
    unfold reserve
    rw [if_neg h]
    by_cases hroom : b.size + n ≤ b.capacity
    · exact ⟨b, if_pos hroom, rfl, rfl⟩
    · exact ⟨_, if_neg hroom, rfl, rfl⟩

/-- Bytes are refused, or go to the end, exactly when room for them is. -/
theorem append_cases (b : Buffer) (data : ByteArray) :
    ((wordBound ≤ b.size + data.size ∨ b.limit < b.size + data.size) ∧
      b.append data = .error ⟨b.size, data.size, b.limit⟩) ∨
    (¬ (wordBound ≤ b.size + data.size ∨ b.limit < b.size + data.size) ∧
      ∃ b', b.append data = .ok b' ∧ b'.bytes = b.bytes ++ data ∧ b'.limit = b.limit) := by
  by_cases h : wordBound ≤ b.size + data.size ∨ b.limit < b.size + data.size
  · left
    refine ⟨h, ?_⟩
    unfold append
    rw [dif_pos h]
  · right
    refine ⟨h, ?_⟩
    cases happ : b.append data with
    | error o =>
        unfold append at happ
        rw [dif_neg h] at happ
        cases happ
    | ok b' => exact ⟨b', rfl, bytes_of_append happ⟩

end Buffer

end LineChat
