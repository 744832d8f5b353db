import LineChat.Command.Exit
import LineChat.Text.Numeral

/-!
# Durations on the Command Line

A duration is a whole number of seconds or milliseconds: digits followed by
nothing, `s` or `ms`, and white space around them. It is not zero, and its
number fits a 64-bit word.

White space here is what the Unicode standard calls so, which is more than the
blanks around a record.

## Main definitions

* `isWhiteSpace`: The white space of the Unicode standard.
* `Duration`: A length of time in nanoseconds.
* `Duration.parse`: The duration of a text.
-/

namespace LineChat

/-- The white space of the Unicode standard. -/
def isWhiteSpace (c : Char) : Bool :=
  let n := c.toNat
  (0x9 ≤ n && n ≤ 0xD) || n == 0x20 || n == 0x85 || n == 0xA0 || n == 0x1680
    || (0x2000 ≤ n && n ≤ 0x200A) || n == 0x2028 || n == 0x2029 || n == 0x202F
    || n == 0x205F || n == 0x3000

/-- Characters without the white space around them. -/
def stripWhiteSpace (cs : List Char) : List Char :=
  ((cs.dropWhile isWhiteSpace).reverse.dropWhile isWhiteSpace).reverse

/-- A list without `suffix` at its end, if it ends so. -/
def withoutSuffix? (suffix cs : List Char) : Option (List Char) :=
  if suffix.isSuffixOf cs then some (cs.take (cs.length - suffix.length)) else none

/-- A length of time. -/
structure Duration where
  /-- Its nanoseconds. -/
  nanos : Nat
  deriving DecidableEq, Repr

namespace Duration

/-- Whole seconds. -/
def ofSeconds (n : Nat) : Duration := ⟨n * 1000000000⟩

/-- Whole milliseconds. -/
def ofMillis (n : Nat) : Duration := ⟨n * 1000000⟩

/-- The whole seconds of a duration. -/
def seconds (d : Duration) : Nat := d.nanos / 1000000000

/-- The nanoseconds beyond the whole seconds. -/
def subsecond (d : Duration) : Nat := d.nanos % 1000000000

/-- The number of a duration's text, and whether it counts milliseconds. -/
def cutUnit (cs : List Char) : List Char × Bool :=
  match withoutSuffix? ['m', 's'] cs with
  | some number => (number, true)
  | none =>
    match withoutSuffix? ['s'] cs with
    | some number => (number, false)
    | none => (cs, false)

/-- The duration of a text. -/
def parse (text : String) : Except Failure Duration :=
  let cs := stripWhiteSpace text.toList
  if cs.isEmpty then .error ⟨ExitCode.usage, "duration must not be empty"⟩
  else
    let (number, millis) := cutUnit cs
    match Text.unsigned? 0x10000000000000000 number with
    | none => .error ⟨ExitCode.usage, "invalid duration value: " ++ String.ofList cs⟩
    | some 0 => .error ⟨ExitCode.usage, "duration must be greater than zero"⟩
    | some n => .ok (if millis then ofMillis n else ofSeconds n)

end Duration

end LineChat
