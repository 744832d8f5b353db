import LineChat.Line.Buffer
import Mathlib.Algebra.Group.Nat.Defs
import Mathlib.Data.Nat.Find
import Mathlib.Logic.Function.Iterate
import Mathlib.Order.Bounds.Basic
import Mathlib.Order.MinMax

/-!
# The Room of a Buffer Doubles

How much room is reserved when bytes no longer fit.

The room is looked for by doubling: from the room there is, or from 1024 bytes if
that is more, until it is enough. The number of doublings is therefore the least
one that is enough, and there is such a number because the search begins above
zero. Whether the first room is a power of two plays no part in it. What is needed
is a machine word, and the search begins at the tenth power of two or above, so
that it is over after at most 54 doublings.

All of this is about numbers without bounds. The rooms are machine words, whose
product with two may wrap around. `RoomSearch` is the search in words, one pass at
a time. It stops before a product that would wrap, so every room that it tries is
the number it stands for (`toNat_of_trying`), and it ends where the search in
numbers ends (`search_over`, `toNat_room?`).

Room is looked for only once the bytes are known to fit under the limit. So what is
needed is at most the limit, and clamping to the limit never takes the room below
what is needed.

Unless doubling leaves the word, the room is at least doubled or reaches the limit,
with one exception. A search that begins at 1024 bytes, because there is less room
than that, may end there too, and 1024 bytes are not twice a room of more than 512
(`first_growth_is_less_than_double`).

## Main definitions

* `RoomSearch`: How far the search for a room has come, in machine words.
* `RoomSearch.pass`, `RoomSearch.room?`: One pass, and the room in the end.

## Theorems

* `doubledTo_eq`, `grownCapacity_eq`: The room as a number.
* `bounds_grownCapacity`: The room is enough and within the limit.
* `toNat_of_trying`, `search_over`: The search in words.
* `reserve_grown`: A reservation that needs more room.
* `room_grows_by_doubling`: All of it, for every room, need and limit.
-/

namespace LineChat

/-- How far the search for a room has come, in machine words. -/
inductive RoomSearch
  /-- A room that may be too small. -/
  | trying (room : UInt64)
  /-- The first room that is enough. -/
  | enough (room : UInt64)
  /-- No machine word is the next room. -/
  | exhausted
  deriving DecidableEq

namespace RoomSearch

/-- One pass of the search: a room that is too small is doubled, unless the product
    with two would leave the word. A search that is over stays as it is. -/
def pass (needed : UInt64) : RoomSearch → RoomSearch
  | trying room =>
    if needed ≤ room then enough room
    else if 2 * room.toNat < wordBound then trying (2 * room)
    else exhausted
  | enough room => enough room
  | exhausted => exhausted

/-- The room to reserve, once the search is over: one within the limit, and just
    what is needed if doubling has found nothing. -/
def room? (needed limit : UInt64) : RoomSearch → Option UInt64
  | trying _ => none
  | enough room => some (max (min room limit) needed)
  | exhausted => some needed

end RoomSearch

/-! ## The number of doublings -/

section Doublings

variable {needed c k : Nat}

/-- From a room above zero some number of doublings is enough. -/
theorem exists_isLeast_doublings (needed : Nat) (hc : 0 < c) :
    ∃ k, IsLeast {k | needed ≤ c * 2 ^ k} k := by
  have henough : ∃ k, needed ≤ c * 2 ^ k :=
    ⟨needed, Nat.lt_two_pow_self.le.trans (Nat.le_mul_of_pos_left _ hc)⟩
  exact ⟨Nat.find henough, Nat.find_spec henough, fun _ hj => Nat.find_min' henough hj⟩

theorem le_of_isLeast_doublings_zero (hk : IsLeast {k | needed ≤ c * 2 ^ k} 0) : needed ≤ c :=
  hk.1.trans_eq (by rw [Nat.pow_zero, Nat.mul_one])

theorem lt_of_isLeast_doublings_succ (hk : IsLeast {k | needed ≤ c * 2 ^ k} (k + 1)) :
    c < needed := by
  refine Nat.lt_of_not_le fun henough => Nat.not_succ_le_zero k (hk.2 ?_)
  exact henough.trans_eq (by rw [Nat.pow_zero, Nat.mul_one])

theorem doublings_succ (c j : Nat) : c * 2 ^ (j + 1) = 2 * c * 2 ^ j := by
  rw [Nat.pow_succ', ← Nat.mul_assoc, Nat.mul_comm c 2]

-- A room that is too small needs one doubling more than the next one.
theorem isLeast_doublings_pred (hk : IsLeast {k | needed ≤ c * 2 ^ k} (k + 1)) :
    IsLeast {k | needed ≤ 2 * c * 2 ^ k} k :=
  ⟨hk.1.trans_eq (doublings_succ c k), fun j hj =>
    Nat.le_of_succ_le_succ (hk.2 (hj.trans_eq (doublings_succ c j).symm))⟩

-- What has left the word stays outside.
theorem not_doublings_lt (h : wordBound ≤ 2 * c) (k : Nat) : ¬ 2 * c * 2 ^ k < wordBound :=
  Nat.not_lt.mpr (h.trans (Nat.le_mul_of_pos_right _ (Nat.two_pow_pos k)))

/-- From 1024 bytes up to a machine word there are at most 54 doublings. -/
theorem doublings_le (hc : initialCapacity ≤ c) (hneeded : needed ≤ wordBound)
    (hk : IsLeast {k | needed ≤ c * 2 ^ k} k) : k ≤ 54 := by
  refine hk.2 ?_
  calc needed ≤ wordBound := hneeded
    _ = initialCapacity * 2 ^ 54 := by decide
    _ ≤ c * 2 ^ 54 := Nat.mul_le_mul_right _ hc

end Doublings

/-! ## The room as a number -/

/-- Doubling ends with the least number of doublings that is enough, or with nothing
    if these leave the machine word. -/
theorem doubledTo_eq {needed c k : Nat} (hk : IsLeast {k | needed ≤ c * 2 ^ k} k) (hc : 0 < c)
    (hword : c < wordBound) :
    doubledTo needed c hc = if c * 2 ^ k < wordBound then some (c * 2 ^ k) else none := by
  -- The next room needs one doubling less.
  induction k generalizing c with
  | zero =>
      rw [doubledTo, if_pos (le_of_isLeast_doublings_zero hk), Nat.pow_zero, Nat.mul_one,
        if_pos hword]
  | succ k ih =>
      rw [doubledTo, if_neg (Nat.not_le.mpr (lt_of_isLeast_doublings_succ hk)), doublings_succ]
      by_cases hleaves : wordBound ≤ 2 * c
      · rw [if_pos hleaves, if_neg (not_doublings_lt hleaves k)]
      · rw [if_neg hleaves]
        exact ih (isLeast_doublings_pred hk) _ (Nat.not_le.mp hleaves)

theorem max_initialCapacity_pos (current : Nat) : 0 < max current initialCapacity :=
  lt_max_of_lt_right (by decide)

theorem max_initialCapacity_lt {current : Nat} (h : current < wordBound) :
    max current initialCapacity < wordBound :=
  max_lt h (by decide)

section Room

variable {current needed limit k : Nat}

/-- The room is that of the least number of doublings that is enough, within the
    limit, or else just what is needed. -/
theorem grownCapacity_eq (hcurrent : current < wordBound) (hneeded : needed ≤ limit)
    (hk : IsLeast {k | needed ≤ max current initialCapacity * 2 ^ k} k) :
    grownCapacity current needed limit =
      if max current initialCapacity * 2 ^ k < wordBound
        then min limit (max current initialCapacity * 2 ^ k) else needed := by
  have henough : needed ≤ max current initialCapacity * 2 ^ k := hk.1
  rw [grownCapacity, doubledTo_eq hk _ (max_initialCapacity_lt hcurrent)]
  by_cases hbound : max current initialCapacity * 2 ^ k < wordBound
  · rw [if_pos hbound, if_pos hbound, min_comm]
    exact max_eq_left (le_min henough hneeded)
  · rw [if_neg hbound, if_neg hbound]

/-- The room is at least what is needed and at most the limit. -/
theorem bounds_grownCapacity (hcurrent : current < wordBound) (hneeded : needed ≤ limit) :
    needed ≤ grownCapacity current needed limit ∧ grownCapacity current needed limit ≤ limit := by
  rcases exists_isLeast_doublings needed (max_initialCapacity_pos current) with ⟨k, hk⟩
  rw [grownCapacity_eq hcurrent hneeded hk]
  split
  · exact ⟨le_min hneeded hk.1, min_le_left _ _⟩
  · exact ⟨le_rfl, hneeded⟩

-- A room of 1024 bytes or more is doubled at least once, and so are the first 1024
-- bytes if they are not enough. What is left is a search that ends where it begins.
theorem twice_le_doublings (hcurrent : current < needed)
    (hk : IsLeast {k | needed ≤ max current initialCapacity * 2 ^ k} k) :
    2 * current ≤ max current initialCapacity * 2 ^ k ∨
      (needed ≤ initialCapacity ∧ initialCapacity < 2 * current ∧
        max current initialCapacity * 2 ^ k = initialCapacity) := by
  cases k with
  | zero =>
      have henough : needed ≤ max current initialCapacity := le_of_isLeast_doublings_zero hk
      have hfirst : max current initialCapacity = initialCapacity := by omega
      rw [hfirst] at henough ⊢
      rw [Nat.pow_zero, Nat.mul_one]
      rcases Nat.lt_or_ge initialCapacity (2 * current) with hlarge | hsmall
      · exact Or.inr ⟨henough, hlarge, rfl⟩
      · exact Or.inl hsmall
  | succ k =>
      left
      calc 2 * current ≤ 2 * max current initialCapacity :=
            Nat.mul_le_mul_left 2 (le_max_left _ _)
        _ ≤ 2 * max current initialCapacity * 2 ^ k :=
            Nat.le_mul_of_pos_right _ (Nat.two_pow_pos k)
        _ = max current initialCapacity * 2 ^ (k + 1) := (doublings_succ _ k).symm

end Room

/-! ## The search in words -/

theorem toNat_ofNat_of_lt_wordBound {n : Nat} (h : n < wordBound) : (UInt64.ofNat n).toNat = n :=
  UInt64.toNat_ofNat_of_lt' h

namespace RoomSearch

theorem toNat_two_mul {c : UInt64} (h : 2 * c.toNat < wordBound) : (2 * c).toNat = 2 * c.toNat := by
  rw [UInt64.toNat_mul]
  exact Nat.mod_eq_of_lt h

/-- Every room that is tried is the number that it stands for. -/
theorem toNat_of_trying {needed c d : UInt64} {n : Nat}
    (h : (pass needed)^[n] (trying c) = trying d) : d.toNat = c.toNat * 2 ^ n := by
  induction n generalizing d with
  | zero =>
      cases h
      rw [Nat.pow_zero, Nat.mul_one]
  | succ n ih =>
      rw [Function.iterate_succ_apply'] at h
      -- Only a room that was tried before leads to one that is tried.
      cases hlast : (pass needed)^[n] (trying c) with
      | trying room =>
          rw [hlast, pass] at h
          split at h
          · cases h
          · split at h
            · rename_i hword
              cases h
              rw [toNat_two_mul hword, ih hlast, doublings_succ, Nat.mul_assoc]
            · cases h
      | enough room =>
          rw [hlast] at h
          cases h
      | exhausted =>
          rw [hlast] at h
          cases h

/-- One pass more than there are doublings, and the search is over. -/
theorem search_over {needed c : UInt64} {k : Nat}
    (hk : IsLeast {k | needed.toNat ≤ c.toNat * 2 ^ k} k) :
    (pass needed)^[k + 1] (trying c) =
      if c.toNat * 2 ^ k < wordBound then enough (.ofNat (c.toNat * 2 ^ k)) else exhausted := by
  induction k generalizing c with
  | zero =>
      have hword : c.toNat < wordBound := c.toNat_lt
      have henough : needed ≤ c := le_of_isLeast_doublings_zero hk
      rw [Nat.pow_zero, Nat.mul_one, if_pos hword, UInt64.ofNat_toNat]
      exact if_pos henough
  | succ k ih =>
      have hsmall : ¬ needed ≤ c := Nat.not_le.mpr (lt_of_isLeast_doublings_succ hk)
      rw [Function.iterate_succ_apply, pass, if_neg hsmall, doublings_succ]
      by_cases hword : 2 * c.toNat < wordBound
      · rw [if_pos hword, ← toNat_two_mul hword]
        refine ih ?_
        rw [toNat_two_mul hword]
        exact isLeast_doublings_pred hk
      · rw [if_neg hword, if_neg (not_doublings_lt (Nat.not_lt.mp hword) k)]
        exact Function.iterate_fixed rfl (k + 1)

/-- The search in words ends with the room that is reserved. -/
theorem toNat_room? {current needed limit k : Nat} (hcurrent : current < wordBound)
    (hneeded : needed ≤ limit) (hlimit : limit < wordBound)
    (hk : IsLeast {k | needed ≤ max current initialCapacity * 2 ^ k} k) :
    (((pass (.ofNat needed))^[k + 1] (trying (.ofNat (max current initialCapacity)))).room?
      (.ofNat needed) (.ofNat limit)).map UInt64.toNat
        = some (grownCapacity current needed limit) := by
  have hfirst := toNat_ofNat_of_lt_wordBound (max_initialCapacity_lt hcurrent)
  have hneed := toNat_ofNat_of_lt_wordBound (hneeded.trans_lt hlimit)
  have hmost := toNat_ofNat_of_lt_wordBound hlimit
  rw [search_over (by rwa [hneed, hfirst]), hfirst, grownCapacity_eq hcurrent hneeded hk]
  by_cases hbound : max current initialCapacity * 2 ^ k < wordBound
  · have henough : needed ≤ max current initialCapacity * 2 ^ k := hk.1
    rw [if_pos hbound, if_pos hbound, room?, Option.map_some, UInt64.toNat_max, UInt64.toNat_min,
      toNat_ofNat_of_lt_wordBound hbound, hneed, hmost, min_comm]
    exact congrArg some (max_eq_left (le_min hneeded henough))
  · rw [if_neg hbound, if_neg hbound, room?, Option.map_some, hneed]

end RoomSearch

/-! ## Reserving room -/

/-- A reservation that is within the limit and needs more room gets the room that
    doubling finds. -/
theorem Buffer.reserve_grown (b : Buffer) (n : Nat) (hroom : b.capacity < b.size + n)
    (hfits : b.size + n ≤ b.limit) (hlimit : b.limit < wordBound) :
    b.reserve n = .ok { b with capacity := grownCapacity b.capacity (b.size + n) b.limit } := by
  have hgranted : ¬ (wordBound ≤ b.size + n ∨ b.limit < b.size + n) := by omega
  rw [reserve, if_neg hgranted, if_neg (Nat.not_le.mpr hroom)]

-- Words that are not subtracted below zero are subtracted as numbers.
theorem toNat_sub_of_le_of_lt_wordBound {m n : Nat} (h : m ≤ n) (hn : n < wordBound) :
    (UInt64.ofNat n - UInt64.ofNat m).toNat = n - m := by
  have hm := toNat_ofNat_of_lt_wordBound (h.trans_lt hn)
  have hn' := toNat_ofNat_of_lt_wordBound hn
  rw [UInt64.toNat_sub_of_le _ _ (UInt64.le_iff_toNat_le.mpr (by rwa [hm, hn'])), hm, hn']

/-- For every room, need and limit that are machine words, the need above the room
    and within the limit: there is a least number of doublings, counted from the room
    or from 1024 bytes if that is more, that is enough. It is at most 54. With one
    pass more the search in words is over and has found the reserved room, and every
    room that it tries on the way is the doubled number, not a remainder of it. The
    reserved room is the doubled one within the limit, or just what is needed if the
    doubled one leaves the word; either way it is at least what is needed and at most
    the limit. Unless doubling leaves the word, the room is at least twice the old one
    or the limit, or else it ends at 1024 bytes (or at the limit) because that is
    enough and less than twice the old one. A buffer with this room and limit that
    needs as much reserves the new room, and what it holds can be taken off the new
    room in words without falling below zero. -/
theorem room_grows_by_doubling (current needed limit : Nat) (hcurrent : current < needed)
    (hneeded : needed ≤ limit) (hlimit : limit < wordBound) :
    let first := max current initialCapacity
    let room := grownCapacity current needed limit
    let search := fun n =>
      (RoomSearch.pass (.ofNat needed))^[n] (RoomSearch.trying (.ofNat first))
    ∃ k, IsLeast {k | needed ≤ first * 2 ^ k} k ∧
      (k ≤ 54 ∧
        ((search (k + 1)).room? (.ofNat needed) (.ofNat limit)).map UInt64.toNat = some room ∧
        ∀ n c, search n = .trying c → c.toNat = first * 2 ^ n) ∧
      ((first * 2 ^ k < wordBound → room = min limit (first * 2 ^ k)) ∧
        (wordBound ≤ first * 2 ^ k → room = needed) ∧ needed ≤ room ∧ room ≤ limit) ∧
      (first * 2 ^ k < wordBound → min limit (2 * current) ≤ room ∨
        (needed ≤ initialCapacity ∧ initialCapacity < 2 * current ∧
          room = min limit initialCapacity)) ∧
      ∀ (b : Buffer) (n : Nat), b.capacity = current → b.limit = limit → b.size + n = needed →
        b.reserve n = .ok { b with capacity := room } ∧ b.size ≤ room ∧
          (UInt64.ofNat room - UInt64.ofNat b.size).toNat = room - b.size := by
  intro first room search
  have hneed : needed < wordBound := hneeded.trans_lt hlimit
  have hword : current < wordBound := hcurrent.trans hneed
  have hbounds : needed ≤ room ∧ room ≤ limit := bounds_grownCapacity hword hneeded
  rcases exists_isLeast_doublings needed (max_initialCapacity_pos current) with ⟨k, hk⟩
  have hroom : room = if first * 2 ^ k < wordBound then min limit (first * 2 ^ k) else needed :=
    grownCapacity_eq hword hneeded hk
  refine ⟨k, hk, ⟨doublings_le (le_max_right _ _) hneed.le hk,
    RoomSearch.toNat_room? hword hneeded hlimit hk, fun n c hn => ?_⟩,
    ⟨fun h => ?_, fun h => ?_, hbounds⟩, fun h => ?_, fun b n hcapacity hmost hsum => ?_⟩
  · rw [RoomSearch.toNat_of_trying hn, toNat_ofNat_of_lt_wordBound (max_initialCapacity_lt hword)]
  · rw [hroom, if_pos h]
  · rw [hroom, if_neg (Nat.not_lt.mpr h)]
  · rw [hroom, if_pos h]
    rcases twice_le_doublings hcurrent hk with htwice | ⟨hfirst, hlarge, hends⟩
    · exact Or.inl (min_le_min_left limit htwice)
    · exact Or.inr ⟨hfirst, hlarge, congrArg (min limit) hends⟩
  · have hsize : b.size ≤ room := by omega
    refine ⟨?_, hsize, toNat_sub_of_le_of_lt_wordBound hsize (hbounds.2.trans_lt hlimit)⟩
    have hsame : grownCapacity b.capacity (b.size + n) b.limit = room := by
      rw [hcapacity, hmost, hsum]
    rw [b.reserve_grown n (by omega) (by omega) (by omega), hsame]

/-- Two doublings of 1500 bytes are enough for 5000, and the limit cuts them off. The
    upper half of the words cannot be doubled, so just what is needed is reserved. -/
theorem room_grows_by_doubling_up_to_limit :
    1500 < 5000 ∧ 5000 ≤ 5500 ∧ 5500 < wordBound ∧
      IsLeast {k | 5000 ≤ max 1500 initialCapacity * 2 ^ k} 2 ∧
      grownCapacity 1500 5000 5500 = 5500 ∧
      (let b := { Buffer.empty 5500 with capacity := 1500 }
       b.reserve 5000 = .ok { b with capacity := grownCapacity 1500 5000 5500 }) ∧
      2 ^ 63 < wordBound - 1 ∧ wordBound - 1 < wordBound ∧
      grownCapacity (2 ^ 63) (wordBound - 1) (wordBound - 1) = wordBound - 1 := by
  have htwice : IsLeast {k | 5000 ≤ max 1500 initialCapacity * 2 ^ k} 2 := by
    refine ⟨by decide, fun j hj => Nat.le_of_not_lt fun hless => ?_⟩
    have hone : max 1500 initialCapacity * 2 ^ j ≤ max 1500 initialCapacity * 2 ^ 1 :=
      Nat.mul_le_mul_left _ (Nat.pow_le_pow_right Nat.two_pos (Nat.le_of_lt_succ hless))
    exact absurd (hj.trans hone) (by decide)
  rcases room_grows_by_doubling 1500 5000 5500 (by decide) (by decide) (by decide) with
    ⟨k, hk, _, ⟨hroom, _⟩, _, hreserve⟩
  obtain rfl : k = 2 := hk.unique htwice
  rcases room_grows_by_doubling (2 ^ 63) (wordBound - 1) (wordBound - 1) (by decide) le_rfl
    (by decide) with ⟨_, _, _, ⟨_, _, henough, hmost⟩, _⟩
  exact ⟨by decide, by decide, by decide, htwice, hroom (by decide),
    (hreserve { Buffer.empty 5500 with capacity := 1500 } 5000 rfl rfl rfl).1, by decide,
    by decide, le_antisymm hmost henough⟩

/-- A room of 600 bytes that is to hold 700 grows to 1024, which is less than twice
    the room and less than the limit, though nothing leaves the machine word: the
    search begins at 1024 bytes and does not double at all. -/
theorem first_growth_is_less_than_double :
    600 < 700 ∧ 700 ≤ 4096 ∧ 4096 < wordBound ∧
      IsLeast {k | 700 ≤ max 600 initialCapacity * 2 ^ k} 0 ∧
      max 600 initialCapacity * 2 ^ 0 < wordBound ∧ grownCapacity 600 700 4096 = 1024 ∧
      ¬ min 4096 (2 * 600) ≤ grownCapacity 600 700 4096 := by
  have hzero : IsLeast {k | 700 ≤ max 600 initialCapacity * 2 ^ k} 0 :=
    ⟨by decide, fun _ _ => Nat.zero_le _⟩
  have hroom : grownCapacity 600 700 4096 = 1024 := by
    rw [grownCapacity_eq (by decide) (by decide) hzero]
    decide
  refine ⟨by decide, by decide, by decide, hzero, by decide, hroom, ?_⟩
  rw [hroom]
  decide

end LineChat
