import LineChat.Command.Duration
import LineChat.Proofs.Text.Decimal
import Mathlib.Algebra.Group.Nat.Defs
import Mathlib.Data.List.TakeWhile

/-!
# Texts of Durations

Which texts are durations, and how long they are.

A duration is written as a numeral with a unit directly behind it, and white
space may stand around both. There are three units: nothing and `s` for seconds,
`ms` for milliseconds. The reader takes the text apart in another order. It first
drops the white space, then looks for `ms` at the end, then for `s`, and only
then reads what is left as a number. That the order does not matter rests on the
characters of a numeral: it has digits and at most a plus sign, so no unit
overlaps with it and no white space belongs to it (`cutUnit_append`,
`stripWhiteSpace_of_parts`).

The number is below the bound of a machine word and a unit is at most a second.
So the seconds of a duration are below that bound too, and what is left over is
a whole number of milliseconds: nothing is rounded.

## Main definitions

* `DurationUnit`: The three units, with their texts and lengths.
* `DurationText`: A text of so many units.

## Theorems

* `stripWhiteSpace_parts`, `stripWhiteSpace_of_parts`: What is stripped.
* `cutUnit_parts`, `cutUnit_append`: Where the unit begins.
* `parse_eq`: The reader behind the white space, once the text is cut.
* `parse_eq_ok_iff`, `code_of_parse`: What is read, and what is refused.
* `duration_of_text`: Exactly these texts are read, each as its length.
-/

namespace LineChat

/-- The units in which a duration may be given. -/
inductive DurationUnit
  /-- No unit is written. -/
  | bare
  | seconds
  | millis
  deriving DecidableEq, Repr

namespace DurationUnit

/-- What is written for a unit. -/
def suffix : DurationUnit → List Char
  | bare => []
  | seconds => ['s']
  | millis => ['m', 's']

/-- The length of a unit. -/
def nanos : DurationUnit → Nat
  | bare => 1000000000
  | seconds => 1000000000
  | millis => 1000000

end DurationUnit

/-- A text of `v` units: a numeral and the unit, and white space around them. -/
def DurationText (cs : List Char) (v : Nat) (unit : DurationUnit) : Prop :=
  ∃ before number after, cs = before ++ (number ++ unit.suffix) ++ after ∧
    (∀ c ∈ before, isWhiteSpace c = true) ∧ (∀ c ∈ after, isWhiteSpace c = true) ∧
    Text.Decimal v number

/-- What stripping takes away on either side is white space. -/
theorem stripWhiteSpace_parts (cs : List Char) :
    ∃ before after, cs = before ++ stripWhiteSpace cs ++ after ∧
      (∀ c ∈ before, isWhiteSpace c = true) ∧ ∀ c ∈ after, isWhiteSpace c = true := by
  let rest := cs.dropWhile isWhiteSpace
  refine ⟨cs.takeWhile isWhiteSpace, (rest.reverse.takeWhile isWhiteSpace).reverse, ?_, ?_, ?_⟩
  · have hrest : rest = stripWhiteSpace cs ++ (rest.reverse.takeWhile isWhiteSpace).reverse := by
      unfold stripWhiteSpace
      rw [← List.reverse_append, List.takeWhile_append_dropWhile, List.reverse_reverse]
    rw [List.append_assoc, ← hrest, List.takeWhile_append_dropWhile]
  · exact fun c hc => List.mem_takeWhile_imp hc
  · exact fun c hc => List.mem_takeWhile_imp (List.mem_reverse.mp hc)

/-- White space around a text that has none is stripped. -/
theorem stripWhiteSpace_of_parts {before text after : List Char}
    (hbefore : ∀ c ∈ before, isWhiteSpace c = true)
    (hafter : ∀ c ∈ after, isWhiteSpace c = true) (hsome : text ≠ [])
    (htext : ∀ c ∈ text, isWhiteSpace c = false) :
    stripWhiteSpace (before ++ text ++ after) = text := by
  have hstop : ∀ front back : List Char, (∀ c ∈ front, isWhiteSpace c = false) → front ≠ [] →
      (front ++ back).dropWhile isWhiteSpace = front ++ back := by
    intro front back hfront hne
    cases front with
    | nil => exact absurd rfl hne
    | cons c front =>
        have hc : isWhiteSpace c = false := hfront c List.mem_cons_self
        rw [List.cons_append, List.dropWhile_cons_of_neg (by simp [hc])]
  unfold stripWhiteSpace
  rw [List.append_assoc, List.dropWhile_append_of_pos hbefore, hstop text after htext hsome,
    List.reverse_append,
    List.dropWhile_append_of_pos fun c hc => hafter c (List.mem_reverse.mp hc)]
  have hback := hstop text.reverse [] (fun c hc => htext c (List.mem_reverse.mp hc)) (by simpa)
  rw [List.append_nil] at hback
  rw [hback, List.reverse_reverse]

theorem withoutSuffix?_eq_some_iff {suffix cs front : List Char} :
    withoutSuffix? suffix cs = some front ↔ cs = front ++ suffix := by
  unfold withoutSuffix?
  rw [Option.ite_none_right_eq_some, List.isSuffixOf_iff_suffix, Option.some.injEq]
  constructor
  · rintro ⟨⟨before, rfl⟩, rfl⟩
    rw [List.length_append, Nat.add_sub_cancel, List.take_left]
  · rintro rfl
    refine ⟨List.suffix_append front suffix, ?_⟩
    rw [List.length_append, Nat.add_sub_cancel, List.take_left]

theorem withoutSuffix?_eq_none {suffix cs : List Char} {c : Char} (hc : c ∈ suffix)
    (h : c ∉ cs) : withoutSuffix? suffix cs = none := by
  cases hcut : withoutSuffix? suffix cs with
  | none => rfl
  | some front =>
      refine absurd ?_ h
      rw [withoutSuffix?_eq_some_iff.mp hcut]
      exact List.mem_append_right front hc

-- No unit overlaps with a numeral, and no white space belongs to it.
theorem Text.Decimal.not_letter {v : Nat} {number : List Char} (h : Decimal v number) {c : Char}
    (hplus : c ≠ '+') (hdigit : c.isDigit = false) : c ∉ number := by
  intro hc
  rcases h.isDigit hc with heq | hyes
  · exact hplus heq
  · rw [hdigit] at hyes
    cases hyes

theorem isWhiteSpace_of_isDigit {c : Char} (h : c.isDigit = true) : isWhiteSpace c = false := by
  have hrange : 48 ≤ c.toNat ∧ c.toNat ≤ 57 := by
    simpa [Char.isDigit, UInt32.le_iff_toNat_le] using h
  unfold isWhiteSpace
  simp only [Bool.or_eq_false_iff, Bool.and_eq_false_iff, decide_eq_false_iff_not,
    beq_eq_false_iff_ne]
  omega

theorem DurationUnit.not_whiteSpace (unit : DurationUnit) :
    ∀ c ∈ unit.suffix, isWhiteSpace c = false := by
  cases unit with
  | bare => exact List.forall_mem_nil _
  | seconds => exact List.forall_mem_singleton.mpr (by decide)
  | millis => exact List.forall_mem_cons.mpr ⟨by decide, List.forall_mem_singleton.mpr (by decide)⟩

theorem Text.Decimal.not_whiteSpace {v : Nat} {number : List Char} (h : Decimal v number) {c : Char}
    (hc : c ∈ number) : isWhiteSpace c = false := by
  rcases h.isDigit hc with rfl | hdigit
  · decide
  · exact isWhiteSpace_of_isDigit hdigit

-- The numeral and the unit are what is left when the white space is stripped.
theorem DurationText.strip {cs : List Char} {v : Nat} {unit : DurationUnit}
    (h : DurationText cs v unit) :
    ∃ number, stripWhiteSpace cs = number ++ unit.suffix ∧ stripWhiteSpace cs ≠ [] ∧
      Text.Decimal v number := by
  rcases h with ⟨before, number, after, rfl, hbefore, hafter, hnumber⟩
  have hsome : number ++ unit.suffix ≠ [] := List.append_ne_nil_of_left_ne_nil hnumber.ne_nil _
  have hstrip : stripWhiteSpace (before ++ (number ++ unit.suffix) ++ after)
      = number ++ unit.suffix := by
    refine stripWhiteSpace_of_parts hbefore hafter hsome fun c hc => ?_
    rcases List.mem_append.mp hc with hdigit | hletter
    · exact hnumber.not_whiteSpace hdigit
    · exact unit.not_whiteSpace c hletter
  refine ⟨number, hstrip, ?_, hnumber⟩
  rw [hstrip]
  exact hsome

namespace Duration

/-- So many units. -/
def ofUnits (v : Nat) (unit : DurationUnit) : Duration := ⟨v * unit.nanos⟩

/-- Every text is cut into a number and a unit. -/
theorem cutUnit_parts (cs : List Char) :
    ∃ number unit, cs = number ++ DurationUnit.suffix unit ∧
      cutUnit cs = (number, unit == .millis) := by
  unfold cutUnit
  cases hmillis : withoutSuffix? ['m', 's'] cs with
  | some number => exact ⟨number, .millis, withoutSuffix?_eq_some_iff.mp hmillis, rfl⟩
  | none =>
      cases hseconds : withoutSuffix? ['s'] cs with
      | some number => exact ⟨number, .seconds, withoutSuffix?_eq_some_iff.mp hseconds, rfl⟩
      | none => exact ⟨cs, .bare, (List.append_nil cs).symm, rfl⟩

/-- The unit behind a numeral is found, whichever it is. -/
theorem cutUnit_append {v : Nat} {number : List Char} (h : Text.Decimal v number)
    (unit : DurationUnit) : cutUnit (number ++ unit.suffix) = (number, unit == .millis) := by
  have hm : 'm' ∉ number := h.not_letter (by decide) rfl
  have hs : 's' ∉ number := h.not_letter (by decide) rfl
  have hfound : ∀ suffix, withoutSuffix? suffix (number ++ suffix) = some number :=
    fun suffix => withoutSuffix?_eq_some_iff.mpr rfl
  unfold cutUnit
  cases unit with
  | bare =>
      have hbare : number ++ DurationUnit.bare.suffix = number := List.append_nil number
      rw [hbare, withoutSuffix?_eq_none (by decide) hm, withoutSuffix?_eq_none (by decide) hs]
      rfl
  | seconds =>
      have hnot : 'm' ∉ number ++ DurationUnit.seconds.suffix := by
        rw [List.mem_append, not_or]
        exact ⟨hm, by decide⟩
      rw [withoutSuffix?_eq_none (by decide) hnot]
      simp only [hfound, DurationUnit.suffix]
      rfl
  | millis =>
      simp only [hfound, DurationUnit.suffix]
      rfl

/-- The reader behind the white space: the text is cut, and a number below the
    bound that is not zero makes a duration. -/
theorem parse_eq {text : String} {number : List Char} {unit : DurationUnit}
    (hsome : stripWhiteSpace text.toList ≠ [])
    (hcut : cutUnit (stripWhiteSpace text.toList) = (number, unit == .millis)) :
    (∀ d, parse text = .ok d ↔
      ∃ v, Text.Decimal v number ∧ 0 < v ∧ v < 2 ^ 64 ∧ d = ofUnits v unit) ∧
    ∀ failure, parse text = .error failure → failure.code = ExitCode.usage := by
  have hempty : (stripWhiteSpace text.toList).isEmpty = false := by simpa using hsome
  have hlength : ∀ v, (if (unit == .millis) = true then ofMillis v else ofSeconds v)
      = ofUnits v unit := by
    intro v
    cases unit <;> rfl
  have hread : ∀ v, Text.unsigned? 0x10000000000000000 number = some v ↔
      Text.Decimal v number ∧ v < 2 ^ 64 := fun v => Text.unsigned?_eq_some_iff
  unfold parse
  simp only [hempty, hcut, Bool.false_eq_true, if_false, hlength]
  cases hnumber : Text.unsigned? 0x10000000000000000 number with
  | none =>
      refine ⟨fun d => ⟨nofun, ?_⟩, ?_⟩
      · rintro ⟨v, hv, _, hbound, _⟩
        rw [(hread v).mpr ⟨hv, hbound⟩] at hnumber
        cases hnumber
      · intro failure h
        cases h
        rfl
  | some v =>
      rcases (hread v).mp hnumber with ⟨hv, hbound⟩
      -- A text is a numeral of one number only.
      have hone : ∀ w, Text.Decimal w number → w < 2 ^ 64 → w = v := by
        intro w hw hlt
        rw [(hread w).mpr ⟨hw, hlt⟩, Option.some.injEq] at hnumber
        exact hnumber
      cases v with
      | zero =>
          refine ⟨fun d => ⟨nofun, ?_⟩, ?_⟩
          · rintro ⟨w, hw, hpos, hlt, _⟩
            exact absurd (hone w hw hlt) (Nat.ne_of_gt hpos)
          · intro failure h
            cases h
            rfl
      | succ v =>
          refine ⟨fun d => ⟨?_, ?_⟩, nofun⟩
          · intro h
            exact ⟨v + 1, hv, Nat.succ_pos v, hbound, (Except.ok.inj h).symm⟩
          · rintro ⟨w, hw, _, hlt, rfl⟩
            obtain rfl := hone w hw hlt
            rfl

theorem parse_blank {text : String} (h : stripWhiteSpace text.toList = []) :
    parse text = .error ⟨ExitCode.usage, "duration must not be empty"⟩ := by
  unfold parse
  simp only [h, List.isEmpty_nil, if_true]

theorem parse_eq_ok_iff {text : String} {d : Duration} :
    parse text = .ok d ↔
      ∃ v unit, DurationText text.toList v unit ∧ 0 < v ∧ v < 2 ^ 64 ∧ d = ofUnits v unit := by
  constructor
  · intro h
    by_cases hsome : stripWhiteSpace text.toList = []
    · rw [parse_blank hsome] at h
      cases h
    · rcases cutUnit_parts (stripWhiteSpace text.toList) with ⟨number, unit, hparts, hcut⟩
      rcases stripWhiteSpace_parts text.toList with ⟨before, after, htext, hbefore, hafter⟩
      rcases ((parse_eq hsome hcut).1 d).mp h with ⟨v, hv, hpos, hbound, hd⟩
      rw [hparts] at htext
      exact ⟨v, unit, ⟨before, number, after, htext, hbefore, hafter, hv⟩, hpos, hbound, hd⟩
  · rintro ⟨v, unit, htext, hpos, hbound, hd⟩
    rcases htext.strip with ⟨number, hstrip, hsome, hv⟩
    have hcut : cutUnit (stripWhiteSpace text.toList) = (number, unit == .millis) := by
      rw [hstrip, cutUnit_append hv]
    exact ((parse_eq hsome hcut).1 d).mpr ⟨v, hv, hpos, hbound, hd⟩

theorem code_of_parse {text : String} {failure : Failure} (h : parse text = .error failure) :
    failure.code = ExitCode.usage := by
  by_cases hsome : stripWhiteSpace text.toList = []
  · rw [parse_blank hsome] at h
    cases h
    rfl
  · rcases cutUnit_parts (stripWhiteSpace text.toList) with ⟨number, unit, _, hcut⟩
    exact (parse_eq hsome hcut).2 failure h

-- A unit is at most a second, so the seconds are no more than the number.
theorem seconds_ofUnits_le (v : Nat) (unit : DurationUnit) : (ofUnits v unit).seconds ≤ v := by
  unfold seconds ofUnits
  cases unit <;> simp only [DurationUnit.nanos] <;> omega

end Duration

/-- A text is read as a duration exactly if it is a numeral of a number that is
    not zero and fits a machine word, directly followed by nothing, `s` or `ms`,
    with white space around it; and then the duration is exactly so many seconds
    or milliseconds. Its whole seconds fit a machine word again and nothing is
    lost beside them. Every other text is a mistake of the user. What is printed
    for such a number, with a unit behind it, is read back. -/
theorem duration_of_text :
    (∀ text : String,
      (∀ d, Duration.parse text = .ok d ↔ ∃ v unit, DurationText text.toList v unit ∧
        0 < v ∧ v < 2 ^ 64 ∧ d = Duration.ofUnits v unit) ∧
      (∀ d, Duration.parse text = .ok d →
        d.seconds < 2 ^ 64 ∧ d.subsecond < 1000000000 ∧
        d.nanos = d.seconds * 1000000000 + d.subsecond) ∧
      ∀ failure, Duration.parse text = .error failure → failure.code = ExitCode.usage) ∧
    ∀ (v : Nat) (unit : DurationUnit), 0 < v → v < 2 ^ 64 →
      Duration.parse (toString v ++ String.ofList unit.suffix) = .ok (Duration.ofUnits v unit) := by
  refine ⟨fun text => ⟨fun d => Duration.parse_eq_ok_iff, ?_, fun failure h =>
    Duration.code_of_parse h⟩, ?_⟩
  · intro d h
    rcases Duration.parse_eq_ok_iff.mp h with ⟨v, unit, _, _, hbound, rfl⟩
    refine ⟨(Duration.seconds_ofUnits_le v unit).trans_lt hbound, Nat.mod_lt _ (by decide), ?_⟩
    exact (Nat.div_add_mod' _ _).symm
  · intro v unit hpos hbound
    refine Duration.parse_eq_ok_iff.mpr ⟨v, unit, ⟨[], (toString v).toList, [], ?_,
      List.forall_mem_nil _, List.forall_mem_nil _, Text.decimal_toString v⟩, hpos, hbound, rfl⟩
    rw [String.toList_append, String.toList_ofList, List.nil_append, List.append_nil]

/-- The longest number with the shorter unit is a duration of so many thousandths,
    also behind a plus sign and zeros and with white space around it. -/
theorem duration_of_text_in_milliseconds :
    let text := "\u00a0+0018446744073709551615ms\n"
    DurationText text.toList (2 ^ 64 - 1) .millis ∧ 0 < 2 ^ 64 - 1 ∧ 2 ^ 64 - 1 < 2 ^ 64 ∧
      Duration.parse text = .ok ⟨18446744073709551615000000⟩ ∧
      Duration.parse (toString (2 ^ 64 - 1) ++ String.ofList DurationUnit.millis.suffix)
        = .ok ⟨18446744073709551615000000⟩ := by
  intro text
  have htext : DurationText text.toList (2 ^ 64 - 1) .millis := by
    refine ⟨['\u00a0'], "+0018446744073709551615".toList, ['\n'], by decide +kernel,
      List.forall_mem_singleton.mpr (by decide), List.forall_mem_singleton.mpr (by decide),
      ['+'], 2, Or.inr rfl, by decide +kernel⟩
  have hpos : 0 < 2 ^ 64 - 1 := by decide
  have hbound : 2 ^ 64 - 1 < 2 ^ 64 := by decide
  have hread := ((duration_of_text.1 text).1 ⟨18446744073709551615000000⟩).mpr
    ⟨2 ^ 64 - 1, .millis, htext, hpos, hbound, rfl⟩
  exact ⟨htext, hpos, hbound, hread, duration_of_text.2 (2 ^ 64 - 1) .millis hpos hbound⟩

-- A number that fits no word, a space before the unit, a bare unit, and nothing.
example : ["18446744073709551616s", "5 ms", "ms", " "].map (Duration.parse · |>.isOk)
    = [false, false, false, false] := by
  decide +kernel

end LineChat
