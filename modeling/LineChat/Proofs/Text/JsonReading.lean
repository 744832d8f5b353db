import LineChat.Proofs.Text.Decimal
import LineChat.Text.Json

/-!
# Flat JSON Objects Are Read Back

A reader of flat JSON objects, and what it reads of the ones that are written.

The reader takes the whole notation for objects whose values are strings and
counts: space, tab, newline and carriage return between any two tokens, every
escape inside a string, also the ones that are never written, and characters
past the first 65536 as two escapes. Text outside the notation is refused, such
as a control character inside a string, half of a pair of escapes, or a zero in
front of a count.

It works in two steps. `tokens?` goes over the characters; it reads a string by
`readText?`, one character or escape at a time, and each of these steps leaves
less behind (`length_readEscape?`, `length_readText?`). `membersOf?` then goes
over the tokens. Writing is undone step by step: a character is read from what
is written for it (`readText?_jsonChar`), whatever stands behind it, and so are
a string, a value and a member. A count ends at the first character that is no
digit, so for values that character is named.

Nothing that is written is a control character, so an object is one line.

## Main definitions

* `readEscape?`, `readText?`: The escapes and characters of a string.
* `JsonToken`, `tokens?`: The tokens of a text.
* `membersOf?`, `objectOf?`: The members that tokens write.
* `readObject?`: The flat object that a text writes.
* `jsonMember`: How a member of an object is written.

## Theorems

* `readText?_jsonChar`: A character is read from what is written for it.
* `tokens?_render`, `tokens?_member`: A value and a member are read as their tokens.
* `readObject?_jsonObject`: An object is read back from the line it is written on.
* `shown_jsonObject`: That line holds no control character.
-/

namespace LineChat

namespace Text

/-- What may stand between two tokens. -/
def isJsonSpace (c : Char) : Bool := c == ' ' || c == '\t' || c == '\n' || c == '\r'

/-- What a character behind a backslash stands for. -/
def escapedBy? (c : Char) : Option Char :=
  if c = '"' ∨ c = '\\' ∨ c = '/' then some c
  else if c = 'b' then some '\x08'
  else if c = 'f' then some '\x0c'
  else if c = 'n' then some '\n'
  else if c = 'r' then some '\r'
  else if c = 't' then some '\t'
  else none

/-- The code unit that four hexadecimal digits give, and what follows them. -/
def codeUnit? : List Char → Option (Nat × List Char)
  | a :: b :: c :: d :: cs => (digits? 16 [a, b, c, d]).map fun n => (n, cs)
  | _ => none

/-- The character of an escape behind its backslash, and what follows it. A
    character past the first 65536 is written as two code units. -/
def readEscape? (cs : List Char) : Option (Char × List Char) :=
  match cs with
  | [] => none
  | c :: cs =>
    if c = 'u' then
      match codeUnit? cs with
      | none => none
      | some (first, rest) =>
        if 0xD800 ≤ first ∧ first ≤ 0xDBFF then
          match rest with
          | '\\' :: 'u' :: cs =>
            match codeUnit? cs with
            | none => none
            | some (second, rest) =>
              if 0xDC00 ≤ second ∧ second ≤ 0xDFFF then
                some (Char.ofNat (0x10000 + (first - 0xD800) * 0x400 + (second - 0xDC00)), rest)
              else none
          | _ => none
        else if 0xDC00 ≤ first ∧ first ≤ 0xDFFF then none
        else some (Char.ofNat first, rest)
    else (escapedBy? c).map fun c => (c, cs)

theorem length_codeUnit? {cs rest : List Char} {n : Nat} (h : codeUnit? cs = some (n, rest)) :
    rest.length < cs.length := by
  unfold codeUnit? at h
  split at h
  · simp only [Option.map_eq_some_iff, Prod.mk.injEq] at h
    rcases h with ⟨_, _, _, rfl⟩
    simp only [List.length_cons]
    omega
  · cases h

theorem length_readEscape? {cs rest : List Char} {c : Char}
    (h : readEscape? cs = some (c, rest)) : rest.length < cs.length := by
  unfold readEscape? at h
  split at h
  · cases h
  · rename_i e cs
    split at h
    · split at h
      · cases h
      · rename_i first behind hunit
        have hbehind := length_codeUnit? hunit
        split at h
        · split at h
          · rename_i cs'
            split at h
            · cases h
            · rename_i second rest' hunit'
              have hrest := length_codeUnit? hunit'
              simp only [Option.ite_none_right_eq_some, Option.some.injEq, Prod.mk.injEq] at h
              rcases h with ⟨_, _, rfl⟩
              simp only [List.length_cons] at hbehind ⊢
              omega
          · cases h
        · simp only [Option.ite_none_left_eq_some, Option.some.injEq, Prod.mk.injEq] at h
          rcases h with ⟨_, _, rfl⟩
          simp only [List.length_cons]
          omega
    · simp only [Option.map_eq_some_iff, Prod.mk.injEq] at h
      rcases h with ⟨_, _, _, rfl⟩
      exact Nat.lt_succ_self _

/-- The characters of a string behind its opening quote, and what follows the
    closing one. -/
def readText? (cs : List Char) : Option (List Char × List Char) :=
  match cs with
  | [] => none
  | c :: cs =>
    if c = '"' then some ([], cs)
    else if c = '\\' then
      match h : readEscape? cs with
      | none => none
      | some (c, rest) =>
        have := length_readEscape? h
        (readText? rest).map fun read => (c :: read.1, read.2)
    else if c.toNat < 0x20 then none
    else (readText? cs).map fun read => (c :: read.1, read.2)
termination_by cs.length

theorem length_readText? {cs text rest : List Char} (h : readText? cs = some (text, rest)) :
    rest.length < cs.length := by
  fun_induction readText? cs generalizing text rest with
  | case1 => cases h
  | case2 cs =>
      simp only [Option.some.injEq, Prod.mk.injEq] at h
      rw [← h.2]
      exact Nat.lt_succ_self _
  | case3 => cases h
  | case4 cs _ _ _ hescape hlt ih =>
      simp only [Option.map_eq_some_iff, Prod.mk.injEq, Prod.exists] at h
      rcases h with ⟨_, _, hread, _, rfl⟩
      have := ih hread
      simp only [List.length_cons]
      omega
  | case5 => cases h
  | case6 _ cs _ _ _ ih =>
      simp only [Option.map_eq_some_iff, Prod.mk.injEq, Prod.exists] at h
      rcases h with ⟨_, _, hread, _, rfl⟩
      have := ih hread
      simp only [List.length_cons]
      omega

/-- A token of a flat object. -/
inductive JsonToken
  | opening
  | closing
  | colon
  | comma
  | value (field : JsonField)
  deriving DecidableEq, Repr

/-- The token of a single character. -/
def mark? (c : Char) : Option JsonToken :=
  if c = '\x7b' then some .opening
  else if c = '\x7d' then some .closing
  else if c = ':' then some .colon
  else if c = ',' then some .comma
  else none

/-- The count that some digits write: a zero does not stand in front. -/
def count? (ds : List Char) : Option Nat :=
  if ds.head? = some '0' ∧ 1 < ds.length then none else digits? 10 ds

/-- The tokens of a text. -/
def tokens? (cs : List Char) : Option (List JsonToken) :=
  match cs with
  | [] => some []
  | c :: cs =>
    if isJsonSpace c then tokens? cs
    else if c = '"' then
      match h : readText? cs with
      | none => none
      | some (text, rest) =>
        have := length_readText? h
        (tokens? rest).map (.value (.text (String.ofList text)) :: ·)
    else if c.isDigit then
      match count? (c :: cs.takeWhile Char.isDigit) with
      | none => none
      | some n =>
        have := (cs.dropWhile_sublist Char.isDigit).length_le
        (tokens? (cs.dropWhile Char.isDigit)).map (.value (.count n) :: ·)
    else
      match mark? c with
      | none => none
      | some mark => (tokens? cs).map (mark :: ·)
termination_by cs.length

/-- The members that tokens write, up to the closing brace. -/
def membersOf? : List JsonToken → Option (List (String × JsonField))
  | [.value (.text name), .colon, .value field, .closing] => some [(name, field)]
  | .value (.text name) :: .colon :: .value field :: .comma :: tokens =>
    (membersOf? tokens).map ((name, field) :: ·)
  | _ => none

/-- The members of the object that tokens write. -/
def objectOf? : List JsonToken → Option (List (String × JsonField))
  | [.opening, .closing] => some []
  | .opening :: tokens => membersOf? tokens
  | _ => none

/-- The flat object that a text writes: its members, in the given order. -/
def readObject? (s : String) : Option (List (String × JsonField)) :=
  (tokens? s.toList).bind objectOf?

theorem codeUnit?_of_length {ds : List Char} {n : Nat} (hlength : ds.length = 4)
    (hds : digits? 16 ds = some n) (cs : List Char) : codeUnit? (ds ++ cs) = some (n, cs) := by
  match ds, hlength with
  | [a, b, c, d], _ =>
    unfold codeUnit?
    simp only [List.cons_append, List.nil_append, hds, Option.map_some]

/-- A character below the space is the code unit of its escape. -/
theorem readEscape?_control {c : Char} (hc : c.toNat < 0x20) (cs : List Char) :
    readEscape? ('u' :: (List.replicate (4 - (hexDigits c.toNat).length) '0' ++ hexDigits c.toNat
      ++ cs)) = some (c, cs) := by
  have hshort : (hexDigits c.toNat).length ≤ 4 :=
    (Nat.length_toDigits_le_iff (by decide) (by decide)).mpr (by omega)
  have hlength : (List.replicate (4 - (hexDigits c.toNat).length) '0'
      ++ hexDigits c.toNat).length = 4 := by
    rw [List.length_append, List.length_replicate]
    omega
  have hdigits : digits? 16 (List.replicate (4 - (hexDigits c.toNat).length) '0'
      ++ hexDigits c.toNat) = some c.toNat := by
    unfold hexDigits
    rw [digits?_zeros (by decide) _ Nat.toDigits_ne_nil]
    exact digits?_toDigits (by decide) (by decide) c.toNat
  unfold readEscape?
  simp only [codeUnit?_of_length hlength hdigits, if_pos]
  rw [if_neg (by omega), if_neg (by omega), Char.ofNat_toNat]

theorem readText?_escape {cs rest : List Char} {c : Char} (h : readEscape? cs = some (c, rest)) :
    readText? ('\\' :: cs) = (readText? rest).map fun read => (c :: read.1, read.2) := by
  rw [readText?, if_neg (by decide), if_pos rfl]
  split
  · rename_i hnone
    rw [h] at hnone
    cases hnone
  · rename_i hsome
    rw [h] at hsome
    cases hsome
    rfl

theorem readText?_plain {c : Char} (hquote : c ≠ '"') (hescape : c ≠ '\\')
    (hshown : ¬ c.toNat < 0x20) (cs : List Char) :
    readText? (c :: cs) = (readText? cs).map fun read => (c :: read.1, read.2) := by
  rw [readText?, if_neg hquote, if_neg hescape, if_neg hshown]

/-- A character is read back from the way it is written inside a string. -/
theorem readText?_jsonChar (c : Char) (cs : List Char) :
    readText? (jsonChar c ++ cs) = (readText? cs).map fun read => (c :: read.1, read.2) := by
  fun_cases jsonChar c with
  | case1 | case2 | case3 | case4 | case5 | case6 | case7 =>
      rename_i hletter
      subst hletter
      exact readText?_escape rfl
  | case8 _ _ _ _ _ _ _ hcontrol =>
      exact readText?_escape (readEscape?_control hcontrol cs)
  | case9 hquote hescape _ _ _ _ _ hshown => exact readText?_plain hquote hescape hshown cs

theorem readText?_chars (text rest : List Char) :
    readText? (text.flatMap jsonChar ++ '"' :: rest) = some (text, rest) := by
  induction text with
  | nil =>
      rw [List.flatMap_nil, List.nil_append, readText?, if_pos rfl]
  | cons c text ih =>
      rw [List.flatMap_cons, List.append_assoc, readText?_jsonChar, ih]
      rfl

theorem tokens?_string (s : String) (cs : List Char) :
    tokens? (jsonString s ++ cs) = (tokens? cs).map (.value (.text s) :: ·) := by
  have hread : readText? (s.toList.flatMap jsonChar ++ (['"'] ++ cs)) = some (s.toList, cs) :=
    readText?_chars s.toList cs
  unfold jsonString
  rw [List.cons_append, List.append_assoc, tokens?, if_neg (by decide), if_pos rfl]
  split
  · rename_i hnone
    rw [hread] at hnone
    cases hnone
  · rename_i hsome
    rw [hread] at hsome
    cases hsome
    rw [String.ofList_toList]

theorem tokens?_mark {c : Char} {mark : JsonToken} (h : mark? c = some mark) (cs : List Char) :
    tokens? (c :: cs) = (tokens? cs).map (mark :: ·) := by
  have hspace : ¬ isJsonSpace c = true ∧ c ≠ '"' ∧ ¬ c.isDigit = true := by
    unfold mark? at h
    split at h
    · rename_i hc
      subst hc
      decide
    · split at h
      · rename_i hc
        subst hc
        decide
      · split at h
        · rename_i hc
          subst hc
          decide
        · rename_i hc
          obtain ⟨rfl, -⟩ := Option.ite_none_right_eq_some.mp h
          decide
  rw [tokens?, if_neg hspace.1, if_neg hspace.2.1, if_neg hspace.2.2, h]

theorem count?_toDigits (n : Nat) : count? (Nat.toDigits 10 n) = some n := by
  unfold count?
  rw [if_neg, digits?_toDigits (by decide) (by decide)]
  rintro ⟨hzero, hmany⟩
  rw [head?_toDigits (by decide) (by decide) n hzero] at hmany
  exact absurd hmany (by decide)

theorem tokens?_digits (n : Nat) {c : Char} (hc : ¬ c.isDigit = true) (cs : List Char) :
    tokens? ((toString n).toList ++ c :: cs)
      = (tokens? (c :: cs)).map (.value (.count n) :: ·) := by
  have hall : ∀ d ∈ Nat.toDigits 10 n, d.isDigit = true := fun d hd =>
    Nat.isDigit_of_mem_toDigits (by decide) (by decide) hd
  have hcount := count?_toDigits n
  rw [Nat.toString_eq_ofList_toDigits, String.toList_ofList]
  cases hds : Nat.toDigits 10 n with
  | nil => exact absurd hds Nat.toDigits_ne_nil
  | cons d ds =>
      rw [hds] at hall hcount
      have hdigit := hall d List.mem_cons_self
      have hrest : ∀ d ∈ ds, d.isDigit = true := fun d hd => hall d (List.mem_cons_of_mem _ hd)
      have hspace : ¬ isJsonSpace d = true := by
        intro hspace
        simp only [isJsonSpace, Bool.or_eq_true, beq_iff_eq] at hspace
        rcases hspace with ((rfl | rfl) | rfl) | rfl <;> exact absurd hdigit (by decide)
      have hquote : d ≠ '"' := by
        rintro rfl
        exact absurd hdigit (by decide)
      have htake : (ds ++ c :: cs).takeWhile Char.isDigit = ds := by
        rw [List.takeWhile_append_of_pos hrest, List.takeWhile_cons_of_neg hc, List.append_nil]
      have hdrop : (ds ++ c :: cs).dropWhile Char.isDigit = c :: cs := by
        rw [List.dropWhile_append_of_pos hrest, List.dropWhile_cons_of_neg hc]
      rw [List.cons_append, tokens?, if_neg hspace, if_neg hquote, if_pos hdigit, htake, hcount]
      simp only [hdrop]

/-- The tokens of a value. -/
theorem tokens?_render (field : JsonField) {c : Char} (hc : ¬ c.isDigit = true) (cs : List Char) :
    tokens? (field.render ++ c :: cs) = (tokens? (c :: cs)).map (.value field :: ·) := by
  cases field with
  | text s => exact tokens?_string s (c :: cs)
  | count n => exact tokens?_digits n hc cs

/-- How a member of an object is written. -/
def jsonMember (f : String × JsonField) : List Char := jsonString f.1 ++ ':' :: f.2.render

theorem tokens?_member (f : String × JsonField) {c : Char} {mark : JsonToken}
    (hc : mark? c = some mark) (hdigit : ¬ c.isDigit = true) (cs : List Char) :
    tokens? (jsonMember f ++ c :: cs) = (tokens? cs).map fun tokens =>
      .value (.text f.1) :: .colon :: .value f.2 :: mark :: tokens := by
  unfold jsonMember
  rw [List.append_assoc, List.cons_append, tokens?_string, tokens?_mark rfl,
    tokens?_render f.2 hdigit, tokens?_mark hc]
  simp only [Option.map_map]
  rfl

/-- What stands between the braces of an object gives its members. -/
theorem membersOf?_members (f : String × JsonField) (fields : List (String × JsonField)) :
    ∃ tokens, tokens? (List.intercalate [','] ((f :: fields).map jsonMember) ++ ['\x7d'])
        = some tokens ∧ membersOf? tokens = some (f :: fields) := by
  induction fields generalizing f with
  | nil =>
      refine ⟨[.value (.text f.1), .colon, .value f.2, .closing], ?_, rfl⟩
      rw [List.map_singleton, List.intercalate_singleton,
        tokens?_member f rfl (by decide), tokens?]
      rfl
  | cons g fields ih =>
      rcases ih g with ⟨tokens, htokens, hmembers⟩
      refine ⟨.value (.text f.1) :: .colon :: .value f.2 :: .comma :: tokens, ?_, ?_⟩
      · rw [List.map_cons, List.map_cons, List.intercalate_cons_cons, List.append_assoc,
          List.append_assoc, ← List.map_cons, List.singleton_append,
          tokens?_member f rfl (by decide), htokens]
        rfl
      · rw [membersOf?, hmembers]
        rfl

theorem objectOf?_opening {tokens : List JsonToken} {f : String × JsonField}
    {fields : List (String × JsonField)} (h : membersOf? tokens = some (f :: fields)) :
    objectOf? (.opening :: tokens) = some (f :: fields) := by
  unfold objectOf?
  split
  · rename_i heq
    cases heq
    cases h
  · rename_i heq
    cases heq
    exact h
  · rename_i hother
    exact absurd rfl (hother tokens)

/-- An object is read back from the line it is written on. -/
theorem readObject?_jsonObject (fields : List (String × JsonField)) :
    readObject? (jsonObject fields) = some fields := by
  have hobject : ∀ inside, readObject? (String.ofList ('\x7b' :: (inside ++ ['\x7d'])))
      = (tokens? (inside ++ ['\x7d'])).bind fun tokens => objectOf? (.opening :: tokens) := by
    intro inside
    unfold readObject?
    rw [String.toList_ofList, tokens?_mark rfl, Option.bind_map]
    rfl
  cases fields with
  | nil =>
      have hempty : tokens? ([] ++ ['\x7d']) = some [.closing] := by
        rw [List.nil_append, tokens?_mark rfl, tokens?]
        rfl
      exact (hobject []).trans (congrArg (Option.bind · _) hempty)
  | cons f fields =>
      rcases membersOf?_members f fields with ⟨tokens, htokens, hmembers⟩
      refine (hobject _).trans ?_
      exact (congrArg (Option.bind · _) htokens).trans (objectOf?_opening hmembers)

-- Spaces, escapes that are never written, and four texts outside the notation.
example :
    readObject? "\x7b \"a\\u00e9\\ud83d\\ude00\\/\" : 10,\n\"b\":\"\"\x7d"
      = some [("aé😀/", .count 10), ("b", .text "")] ∧
    readObject? "\x7b\"a\":01\x7d" = none ∧ readObject? "\x7b\"a\":1,\x7d" = none ∧
    readObject? "\x7b\"\t\":1\x7d" = none ∧ readObject? "\x7b\"\\ud83d\":1\x7d" = none := by
  decide +kernel

/-- Nothing that is written for a character is a control character. -/
theorem shown_jsonChar (c : Char) : ∀ x ∈ jsonChar c, 0x20 ≤ x.toNat := by
  fun_cases jsonChar c with
  | case1 | case2 | case3 | case4 | case5 | case6 | case7 =>
      exact List.forall_mem_cons.mpr ⟨by decide, List.forall_mem_singleton.mpr (by decide)⟩
  | case8 _ _ _ _ _ _ _ hcontrol =>
      have hhex : ∀ n < 0x20, (hexDigits n).all (fun x => 0x20 ≤ x.toNat) = true := by decide
      simp only [List.all_eq_true, decide_eq_true_eq] at hhex
      rw [List.forall_mem_append, List.forall_mem_append, List.forall_mem_cons,
        List.forall_mem_singleton]
      refine ⟨⟨⟨by decide, by decide⟩, ?_⟩, hhex c.toNat hcontrol⟩
      intro x hx
      rw [List.eq_of_mem_replicate hx]
      decide
  | case9 _ _ _ _ _ _ _ hshown =>
      rw [List.forall_mem_singleton]
      exact Nat.le_of_not_lt hshown

theorem shown_jsonString (s : String) : ∀ x ∈ jsonString s, 0x20 ≤ x.toNat := by
  unfold jsonString
  rw [List.forall_mem_cons, List.forall_mem_append, List.forall_mem_singleton,
    List.forall_mem_flatMap]
  exact ⟨by decide, fun c _ => shown_jsonChar c, by decide⟩

theorem shown_render (field : JsonField) : ∀ x ∈ field.render, 0x20 ≤ x.toNat := by
  cases field with
  | text s => exact shown_jsonString s
  | count n =>
      intro x hx
      have hdigit : x.isDigit = true := by
        rw [JsonField.render, Nat.toString_eq_ofList_toDigits, String.toList_ofList] at hx
        exact Nat.isDigit_of_mem_toDigits (by decide) (by decide) hx
      have hzero : '0'.toNat ≤ x.toNat := (Char.isDigit_iff_toNat.mp hdigit).1
      exact Nat.le_trans (by decide) hzero

theorem shown_member (f : String × JsonField) : ∀ x ∈ jsonMember f, 0x20 ≤ x.toNat := by
  unfold jsonMember
  rw [List.forall_mem_append, List.forall_mem_cons]
  exact ⟨shown_jsonString f.1, by decide, shown_render f.2⟩

theorem shown_members (fields : List (String × JsonField)) :
    ∀ x ∈ List.intercalate [','] (fields.map jsonMember), 0x20 ≤ x.toNat := by
  induction fields with
  | nil => exact List.forall_mem_nil _
  | cons f fields ih =>
      cases fields with
      | nil =>
          rw [List.map_singleton, List.intercalate_singleton]
          exact shown_member f
      | cons g fields =>
          rw [List.map_cons, List.map_cons, List.intercalate_cons_cons, ← List.map_cons,
            List.forall_mem_append, List.forall_mem_append, List.forall_mem_singleton]
          exact ⟨⟨shown_member f, by decide⟩, ih⟩

/-- The line that an object is written on holds no control character, and thus
    is one line. -/
theorem shown_jsonObject (fields : List (String × JsonField)) :
    ∀ x ∈ (jsonObject fields).toList, 0x20 ≤ x.toNat := by
  unfold jsonObject
  rw [String.toList_ofList, List.forall_mem_cons, List.forall_mem_append, List.forall_mem_singleton]
  exact ⟨by decide, shown_members fields, by decide⟩

end Text

end LineChat
