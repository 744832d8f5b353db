import LineChat.Address.Socket
import LineChat.Proofs.Text.Decimal

/-!
# Addresses Are Read Back

What the readers of addresses find in the texts of addresses.

An address stands in the middle of a text: a version 6 address is followed by a
bracket and a port, and a group by a colon or by another one. So every law says
what is read *and* what is left, for any text behind that cannot be mistaken for
more of the same. Behind a number that is a text that does not begin with a
digit (`Ends`); behind groups it is one that goes on neither with a group nor with a
colon and a group (`Halts`). The bracket is such a text, and so are the two
colons that stand for zeros.

Groups are read in turn, and from the second on with a colon in front, so their
text is built the same way (`groupsBehind`) and the reading is an induction on the
groups. Before each group the reader tries a version 4 address, which would need
a dot behind its first number (`readIpv4_eq_none`); hexadecimal digits hold no dot.

A version 6 address has three texts: eight groups, groups around the two colons
that stand for its longest run of zeros, and a version 4 address behind
`::ffff:`. That the run consists of zeros is all that the reading needs of it
(`IsZeroRun`); that it is the longest does not matter.

## Main definitions

* `Ends`, `Halts`: What may stand behind a number and behind groups.
* `separator`, `groupsBehind`: The text of groups behind others.
* `IsZeroRun`: The groups of a run are zeros.

## Theorems

* `readNumber_toDigits`: A printed number is read back.
* `readIpv4_text`: So is a version 4 address.
* `readGroups_groupsBehind`: So are groups.
* `isZeroRun_longestRun`: The longest run of zeros is one.
* `readIpv6_whole`, `readIpv6_colons`, `readIpv6_mapped`: The three texts of a
  version 6 address.
* `readIpv6_text`: A version 6 address is read back.
-/

namespace LineChat

namespace Address

open Text

/-- The text does not go on with a digit. -/
def Ends (radix : Nat) (cs : List Char) : Prop := ∀ c ∈ cs.head?, digitValue? radix c = none

theorem ends_nil (radix : Nat) : Ends radix [] := nofun

theorem ends_cons {radix : Nat} {c : Char} {cs : List Char} (h : digitValue? radix c = none) :
    Ends radix (c :: cs) := by
  intro d hd
  rw [List.head?_cons, Option.mem_some_iff] at hd
  exact hd ▸ h

-- Every decimal digit is a hexadecimal one.
theorem Ends.decimal {cs : List Char} (h : Ends 16 cs) : Ends 10 cs := by
  intro c hc
  cases hvalue : digitValue? 10 c with
  | none => rfl
  | some d =>
      rcases digitValue?_ten hvalue with ⟨hlt, rfl⟩
      have hnone := h _ hc
      rw [digitValue?_digitChar (by omega) (by decide)] at hnone
      cases hnone

theorem Ends.takeWhile {radix : Nat} {cs : List Char} (h : Ends radix cs) :
    cs.takeWhile (fun c => (digitValue? radix c).isSome) = [] := by
  cases cs with
  | nil => rfl
  | cons c cs => rw [List.takeWhile_cons_of_neg (by simp [h c rfl])]

theorem Ends.dropWhile {radix : Nat} {cs : List Char} (h : Ends radix cs) :
    cs.dropWhile (fun c => (digitValue? radix c).isSome) = cs := by
  cases cs with
  | nil => rfl
  | cons c cs => rw [List.dropWhile_cons_of_neg (by simp [h c rfl])]

/-- Where no digit stands no number is read. -/
theorem readNumber_of_ends {radix maxDigits bound : Nat} {leadingZeros : Bool} {cs : List Char}
    (h : Ends radix cs) : readNumber radix maxDigits bound leadingZeros cs = none := by
  unfold readNumber
  rw [h.takeWhile]
  rfl

/-- A printed number is read back, up to where its digits end. -/
theorem readNumber_toDigits {radix maxDigits bound n : Nat} {rest : List Char}
    (leadingZeros : Bool) (hmore : 1 < radix) (hradix : radix ≤ 16) (hbound : n < bound)
    (hlength : (Nat.toDigits radix n).length ≤ maxDigits) (hrest : Ends radix rest) :
    readNumber radix maxDigits bound leadingZeros (Nat.toDigits radix n ++ rest)
      = some (n, rest) := by
  have hdigits := digitValue?_of_mem_toDigits hmore hradix n
  have hpos : 0 < (Nat.toDigits radix n).length := List.length_pos_iff.mpr Nat.toDigits_ne_nil
  have hcanonical : (!leadingZeros && (Nat.toDigits radix n).head? == some '0'
      && decide (1 < (Nat.toDigits radix n).length)) = false := by
    by_cases hhead : (Nat.toDigits radix n).head? = some '0'
    · rw [head?_toDigits hmore hradix n hhead, Nat.toDigits_zero]
      simp
    · simp [hhead]
  unfold readNumber
  simp only [List.takeWhile_append_of_pos hdigits, List.dropWhile_append_of_pos hdigits,
    hrest.takeWhile, hrest.dropWhile, List.append_nil, hcanonical, digits?_toDigits hmore hradix,
    if_pos hbound]
  rw [if_neg (by omega)]
  rfl

/-- A byte of a version 4 address is read back. -/
theorem readNumber_byte (x : UInt8) {rest : List Char} (hrest : Ends 10 rest) :
    readNumber 10 3 256 false (Nat.toDigits 10 x.toNat ++ rest) = some (x.toNat, rest) := by
  have hlt : x.toNat < 256 := x.toNat_lt
  refine readNumber_toDigits false (by decide) (by decide) hlt ?_ hrest
  exact (Nat.length_toDigits_le_iff (by decide) (by decide)).mpr (by omega)

/-- A group of a version 6 address is read back. -/
theorem readNumber_group (g : UInt16) {rest : List Char} (hrest : Ends 16 rest) :
    readNumber 16 4 65536 true (Nat.toDigits 16 g.toNat ++ rest) = some (g.toNat, rest) := by
  have hlt : g.toNat < 65536 := g.toNat_lt
  refine readNumber_toDigits true (by decide) (by decide) hlt ?_ hrest
  exact (Nat.length_toDigits_le_iff (by decide) (by decide)).mpr (by omega)

theorem readChar_cons (c : Char) (cs : List Char) : readChar c (c :: cs) = some ((), cs) := by
  unfold readChar
  exact if_pos rfl

theorem readChar_of_ne {c d : Char} (h : d ≠ c) (cs : List Char) : readChar c (d :: cs) = none := by
  unfold readChar
  exact if_neg h

theorem Ipv4.toList_text (ip : Ipv4) : ip.text.toList = Nat.toDigits 10 ip.a.toNat ++
    '.' :: (Nat.toDigits 10 ip.b.toNat ++ '.' :: (Nat.toDigits 10 ip.c.toNat ++
      '.' :: Nat.toDigits 10 ip.d.toNat)) := by
  unfold Ipv4.text
  rw [String.toList_intercalate]
  simp [List.intercalate]

/-- A version 4 address is read back. -/
theorem readIpv4_text (ip : Ipv4) {rest : List Char} (hrest : Ends 10 rest) :
    readIpv4 (ip.text.toList ++ rest) = some (ip, rest) := by
  have hdot : ∀ cs, Ends 10 ('.' :: cs) := fun cs => ends_cons (by decide)
  unfold readIpv4
  rw [ip.toList_text]
  simp only [List.append_assoc, List.cons_append, readNumber_byte _ (hdot _),
    readNumber_byte _ hrest, readChar_cons, Option.bind_eq_bind, Option.bind_some, Option.pure_def, UInt8.ofNat_toNat]

theorem readIpv4_of_ends {cs : List Char} (h : Ends 10 cs) : readIpv4 cs = none := by
  unfold readIpv4
  simp only [readNumber_of_ends h]
  rfl

-- A version 4 address goes on with a dot behind its first digits.
theorem readIpv4_eq_none {cs : List Char}
    (h : (cs.dropWhile fun c => (digitValue? 10 c).isSome).head? ≠ some '.') :
    readIpv4 cs = none := by
  unfold readIpv4
  rw [Option.bind_eq_bind, Option.bind_eq_none_iff]
  rintro ⟨a, rest⟩ hfirst
  have hrest : rest = cs.dropWhile fun c => (digitValue? 10 c).isSome := by
    unfold readNumber at hfirst
    grind
  have hdot : readChar '.' rest = none := by
    cases hcs : rest with
    | nil => rfl
    | cons c rest' =>
        refine readChar_of_ne (fun hc => h ?_) rest'
        rw [← hrest, hcs, hc, List.head?_cons]
  simp only [hdot, Option.bind_eq_bind, Option.bind_none]

/-- The text does not go on with a group: neither at once nor behind a colon. -/
structure Halts (cs : List Char) : Prop where
  ends : Ends 16 cs
  dot : cs.head? ≠ some '.'
  behind : ∀ inner, cs = ':' :: inner → Ends 16 inner

/-- What stands between the groups read so far and the next one. -/
def separator (found : List UInt16) : List Char := if found.isEmpty then [] else [':']

/-- The text of groups that come behind others. -/
def groupsBehind (found : List UInt16) : List UInt16 → List Char
  | [] => []
  | g :: gs => separator found ++ (Nat.toDigits 16 g.toNat ++ groupsBehind (found ++ [g]) gs)

-- The digits of a group are no part of a version 4 address.
theorem readIpv4_group (g : UInt16) {rest : List Char} (hends : Ends 16 rest)
    (hdot : rest.head? ≠ some '.') : readIpv4 (Nat.toDigits 16 g.toNat ++ rest) = none := by
  apply readIpv4_eq_none
  have hnot : '.' ∉ Nat.toDigits 16 g.toNat := by
    intro hmem
    have hdigit := digitValue?_of_mem_toDigits (by decide) (by decide) g.toNat '.' hmem
    revert hdigit
    decide
  -- The walk stops at a letter of the group, or behind the group.
  generalize Nat.toDigits 16 g.toNat = digits at hnot
  induction digits with
  | nil => rwa [List.nil_append, hends.decimal.dropWhile]
  | cons c digits ih =>
      rw [List.mem_cons, not_or] at hnot
      rw [List.cons_append, List.dropWhile_cons]
      split
      · exact ih hnot.2
      · rw [List.head?_cons, ne_eq, Option.some.injEq]
        exact fun hc => hnot.1 hc.symm

theorem readGroups_behind (n : Nat) (found : List UInt16) (inner : List Char) :
    readGroups (n + 1) found (separator found ++ inner)
      = match if 0 < n then readIpv4 inner else none with
        | some (v4, rest) =>
          (⟨found ++ [UInt16.ofNat (v4.a.toNat * 256 + v4.b.toNat),
            UInt16.ofNat (v4.c.toNat * 256 + v4.d.toNat)], true⟩, rest)
        | none =>
          match readNumber 16 4 65536 true inner with
          | some (g, rest) => readGroups n (found ++ [UInt16.ofNat g]) rest
          | none => (⟨found, false⟩, separator found ++ inner) := by
  cases found with
  | nil => rfl
  | cons g found => rfl

theorem readGroups_group (n : Nat) (found : List UInt16) (g : UInt16) {rest : List Char}
    (hends : Ends 16 rest) (hdot : rest.head? ≠ some '.') :
    readGroups (n + 1) found (separator found ++ (Nat.toDigits 16 g.toNat ++ rest))
      = readGroups n (found ++ [g]) rest := by
  rw [readGroups_behind, readIpv4_group g hends hdot, ite_self, readNumber_group g hends]
  simp only [UInt16.ofNat_toNat]

theorem readGroups_of_halts (n : Nat) (found : List UInt16) {rest : List Char} (h : Halts rest) :
    readGroups n found rest = (⟨found, false⟩, rest) := by
  cases n with
  | zero => rfl
  | succ n =>
      by_cases hstart : ∃ inner, rest = separator found ++ inner
      · rcases hstart with ⟨inner, rfl⟩
        have hinner : Ends 16 inner := by
          cases found with
          | nil => exact h.ends
          | cons g found => exact h.behind inner rfl
        rw [readGroups_behind, readIpv4_of_ends hinner.decimal, ite_self, readNumber_of_ends hinner]
      · have hsome : found.isEmpty = false := by
          cases found with
          | nil => exact absurd ⟨rest, rfl⟩ hstart
          | cons g found => rfl
        have hcolon : readChar ':' rest = none := by
          cases rest with
          | nil => rfl
          | cons c rest =>
              refine readChar_of_ne (fun hc => hstart ⟨rest, ?_⟩) rest
              unfold separator
              rw [hsome, hc]
              rfl
        rw [readGroups]
        simp only [hsome, hcolon, Bool.false_eq_true, if_false, Option.map_none]

theorem groupsBehind_ends (found : List UInt16) (gs : List UInt16) {rest : List Char}
    (hfound : found ≠ []) (h : Halts rest) :
    Ends 16 (groupsBehind found gs ++ rest) ∧ (groupsBehind found gs ++ rest).head? ≠ some '.' := by
  cases gs with
  | nil => exact ⟨h.ends, h.dot⟩
  | cons g gs =>
      have hsep : separator found = [':'] := by
        unfold separator
        rw [List.isEmpty_eq_false_iff.mpr hfound]
        rfl
      rw [groupsBehind, hsep]
      exact ⟨ends_cons (by decide), by simp⟩

/-- Groups are read back, up to where no other follows. -/
theorem readGroups_groupsBehind (gs : List UInt16) (n : Nat) (found : List UInt16)
    {rest : List Char} (hlength : gs.length ≤ n) (h : Halts rest) :
    readGroups n found (groupsBehind found gs ++ rest) = (⟨found ++ gs, false⟩, rest) := by
  induction gs generalizing n found with
  | nil => rw [groupsBehind, List.nil_append, List.append_nil, readGroups_of_halts n found h]
  | cons g gs ih =>
      cases n with
      | zero => cases hlength
      | succ n =>
          have hne : found ++ [g] ≠ [] :=
            List.append_ne_nil_of_right_ne_nil _ (List.cons_ne_nil _ _)
          rcases groupsBehind_ends (found ++ [g]) gs hne h with ⟨hends, hdot⟩
          rw [groupsBehind, List.append_assoc, List.append_assoc,
            readGroups_group n found g hends hdot, ih n _ (Nat.le_of_succ_le_succ hlength), List.append_assoc, List.singleton_append]

theorem separator_append (found : List UInt16) (g : UInt16) : separator (found ++ [g]) = [':'] := by
  cases found <;> rfl

theorem toList_groupsText (gs : List UInt16) :
    (Ipv6.groupsText gs).toList = groupsBehind [] gs := by
  have hjoin : ∀ (gs : List UInt16) (found : List UInt16) (g : UInt16),
      groupsBehind found (g :: gs) = separator found ++
        [':'].intercalate ((g :: gs).map fun g => Nat.toDigits 16 g.toNat) := by
    intro gs
    induction gs with
    | nil => intro found g; simp [groupsBehind]
    | cons next gs ih =>
        intro found g
        rw [groupsBehind, ih, separator_append]
        simp only [List.map_cons, List.intercalate_cons_cons, List.append_assoc]
  unfold Ipv6.groupsText
  rw [String.toList_intercalate, List.map_map]
  cases gs with
  | nil => rfl
  | cons g gs =>
      rw [hjoin]
      simp [separator, Function.comp_def]

/-- A run of zeros stands in some groups at a place and of a length. -/
def IsZeroRun (groups : List UInt16) (run : Nat × Nat) : Prop :=
  ∃ before after, groups = before ++ List.replicate run.2 0 ++ after ∧ before.length = run.1

-- The walk has read `seen` and a run of zeros behind it.
theorem isZeroRun_longestRunFrom (gs seen : List UInt16) (run : Nat) (best : Nat × Nat)
    (h : IsZeroRun (seen ++ List.replicate run 0 ++ gs) best) :
    IsZeroRun (seen ++ List.replicate run 0 ++ gs)
      (Ipv6.longestRunFrom (seen.length + run) run best gs) := by
  induction gs generalizing seen run best with
  | nil => exact h
  | cons g gs ih =>
      rw [Ipv6.longestRunFrom]
      split
      · rename_i hzero
        subst hzero
        have hall : seen ++ List.replicate run 0 ++ 0 :: gs
            = seen ++ List.replicate (run + 1) 0 ++ gs := by
          rw [List.replicate_succ', List.append_assoc, List.append_assoc, List.append_assoc,
            List.singleton_append]
        rw [hall] at h ⊢
        refine ih seen (run + 1) _ ?_
        split
        · exact ⟨seen, gs, rfl, by omega⟩
        · exact h
      · have hall : seen ++ List.replicate run 0 ++ g :: gs
            = seen ++ List.replicate run 0 ++ [g] ++ List.replicate 0 0 ++ gs := by
          simp
        have hlength : seen.length + run + 1
            = (seen ++ List.replicate run 0 ++ [g]).length + 0 := by
          simp only [List.length_append, List.length_replicate, List.length_singleton, Nat.add_zero]
        rw [hall] at h ⊢
        rw [hlength]
        exact ih _ 0 best h

theorem isZeroRun_longestRun (groups : List UInt16) :
    IsZeroRun groups (Ipv6.longestRun groups) :=
  isZeroRun_longestRunFrom groups [] 0 (0, 0) ⟨[], groups, rfl, rfl⟩

theorem halts_bracket (cs : List Char) : Halts (']' :: cs) :=
  ⟨ends_cons (by decide), by simp, fun inner h => by simp at h⟩

theorem halts_colons (cs : List Char) : Halts (':' :: ':' :: cs) := by
  refine ⟨ends_cons (by decide), by simp, fun inner h => ?_⟩
  rw [← (List.cons.inj h).2]
  exact ends_cons (by decide)

/-- All eight groups are read. -/
theorem readIpv6_whole (ip : Ipv6) {rest : List Char} (h : Halts rest) :
    readIpv6 (groupsBehind [] ip.groups ++ rest) = some (ip, rest) := by
  unfold readIpv6
  rw [readGroups_groupsBehind ip.groups 8 [] (Nat.le_of_eq ip.eight) h]
  simp only [List.nil_append]
  rw [dif_pos ip.eight]

-- The groups before the colons are read, then those behind them, and as many
-- zeros as are missing stand in between.
theorem readIpv6_colons {before tail : List UInt16} {cs rest : List Char} {endsInV4 : Bool}
    (ip : Ipv6) (hbefore : before.length ≤ 7)
    (htail : readGroups (7 - before.length) [] cs = (⟨tail, endsInV4⟩, rest))
    (hgroups : ip.groups
      = before ++ List.replicate (8 - before.length - tail.length) 0 ++ tail) :
    readIpv6 (groupsBehind [] before ++ ':' :: ':' :: cs) = some (ip, rest) := by
  have hlength := ip.eight
  unfold readIpv6
  rw [readGroups_groupsBehind before 8 [] (by omega) (halts_colons cs)]
  simp only [List.nil_append]
  rw [dif_neg (by omega), if_neg Bool.false_ne_true]
  simp only [readChar_cons, Option.bind_eq_bind, Option.bind_some, htail, ← hgroups]
  rw [dif_pos hlength]

-- Two groups have the four bytes of a version 4 address.
theorem groups_ofNat (x y : UInt16) :
    let v4 := Ipv4.ofNat (x.toNat * 0x10000 + y.toNat)
    UInt16.ofNat (v4.a.toNat * 256 + v4.b.toNat) = x ∧
      UInt16.ofNat (v4.c.toNat * 256 + v4.d.toNat) = y := by
  have hx : x.toNat < 65536 := x.toNat_lt
  have hy : y.toNat < 65536 := y.toNat_lt
  intro v4
  simp only [v4, Ipv4.ofNat, UInt8.toNat_ofNat']
  constructor
  · rw [← UInt16.toNat_inj, UInt16.toNat_ofNat']
    omega
  · rw [← UInt16.toNat_inj, UInt16.toNat_ofNat']
    omega

-- Behind the colons stand a group of ones and a version 4 address.
theorem readIpv6_mapped {ip : Ipv6} {v4 : Ipv4} (h : ip.mapped? = some v4) {rest : List Char}
    (hrest : Ends 10 rest) :
    readIpv6 (("::ffff:" ++ v4.text).toList ++ rest) = some (ip, rest) := by
  unfold Ipv6.mapped? at h
  split at h
  · rename_i x y hgroups
    rcases groups_ofNat x y with ⟨hx, hy⟩
    rw [Option.some.inj h] at hx hy
    have hfirst : Nat.toDigits 16 (0xFFFF : UInt16).toNat = ['f', 'f', 'f', 'f'] := by decide
    have hcolon : Ends 16 (separator [0xFFFF] ++ (v4.text.toList ++ rest)) := ends_cons (by decide)
    have hdot : (separator [0xFFFF] ++ (v4.text.toList ++ rest)).head? ≠ some '.' := by
      simp [separator]
    have htail : readGroups 7 [] (separator [] ++ (Nat.toDigits 16 (0xFFFF : UInt16).toNat ++
        (separator [0xFFFF] ++ (v4.text.toList ++ rest)))) = (⟨[0xFFFF, x, y], true⟩, rest) := by
      rw [readGroups_group 6 [] 0xFFFF hcolon hdot, List.nil_append, readGroups_behind,
        if_pos (by decide), readIpv4_text v4 hrest]
      simp only [hx, hy]
      rfl
    have htext : ("::ffff:" ++ v4.text).toList ++ rest = groupsBehind [] [] ++ ':' :: ':' ::
        (separator [] ++ (Nat.toDigits 16 (0xFFFF : UInt16).toNat ++
          (separator [0xFFFF] ++ (v4.text.toList ++ rest)))) := by
      rw [String.toList_append, List.append_assoc, hfirst]
      rfl
    rw [htext]
    exact readIpv6_colons ip (by decide) htail hgroups
  · cases h

/-- A version 6 address is read back. -/
theorem readIpv6_text (ip : Ipv6) (cs : List Char) :
    readIpv6 (ip.text.toList ++ ']' :: cs) = some (ip, ']' :: cs) := by
  have hhalts := halts_bracket cs
  have height := ip.eight
  unfold Ipv6.text
  split
  · rename_i v4 hmapped
    exact readIpv6_mapped hmapped hhalts.ends.decimal
  · rcases isZeroRun_longestRun ip.groups with ⟨before, after, hgroups, hplace⟩
    generalize Ipv6.longestRun ip.groups = run at hgroups hplace
    have hlength : before.length + run.2 + after.length = 8 := by
      rw [hgroups, List.length_append, List.length_append, List.length_replicate] at height
      exact height
    dsimp only
    split
    · have hbefore : ip.groups.take run.1 = before := by
        rw [hgroups, ← hplace, List.append_assoc, List.take_left]
      have hafter : ip.groups.drop (run.1 + run.2) = after := by
        rw [hgroups, ← hplace]
        exact List.drop_left' (by rw [List.length_append, List.length_replicate])
      have htext : (Ipv6.groupsText before ++ "::" ++ Ipv6.groupsText after).toList ++ ']' :: cs
          = groupsBehind [] before ++ ':' :: ':' :: (groupsBehind [] after ++ ']' :: cs) := by
        rw [String.toList_append, String.toList_append, toList_groupsText, toList_groupsText,
          List.append_assoc, List.append_assoc]
        rfl
      rw [hbefore, hafter, htext]
      refine readIpv6_colons ip (by omega)
        (readGroups_groupsBehind after _ [] (by omega) hhalts) ?_
      rw [hgroups, List.nil_append]
      congr 3
      omega
    · rw [toList_groupsText]
      exact readIpv6_whole ip hhalts

end Address

end LineChat
