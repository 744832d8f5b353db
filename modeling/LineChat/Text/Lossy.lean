import LineChat.Octets

/-!
# Text of Arbitrary Bytes

Reads bytes as UTF-8 and puts the replacement character where they are not.

Each maximal run of bytes that begins a character but does not finish it counts
as one fault and gives one replacement character, and so does every byte that
cannot begin a character. Which second bytes may follow a first byte is the
table of well-formed sequences of the Unicode standard: it rules out overlong
forms, surrogates and values past the last code point.

`decodeOne` reads one character or one fault off the front; `lossyList` repeats
it. Bytes that are valid UTF-8 as a whole take the direct way through
`String.fromUTF8`.

## Main definitions

* `replacement`: The replacement character.
* `decodeOne`: The character or fault at the front of a list of bytes.
* `lossyList`: The characters of a list of bytes.
* `lossy`: The text of a byte string.
* `utf8?`: The text of a byte string that is valid UTF-8.

## Theorems

* `length_decodeOne`: Reading one character leaves fewer bytes.
-/

namespace LineChat

namespace Text

/-- Stands for bytes that are not text. -/
def replacement : Char := '\uFFFD'

/-- Whether `x` lies in an inclusive range. -/
def between (lo hi x : UInt8) : Bool := lo ≤ x && x ≤ hi

/-- A byte that goes on with a character. -/
def continues (x : UInt8) : Bool := between 0x80 0xBF x

/-- How many bytes a character that begins with `x` takes, zero if none does. -/
def sequenceLength (x : UInt8) : Nat :=
  if x < 0x80 then 1
  else if between 0xC2 0xDF x then 2
  else if between 0xE0 0xEF x then 3
  else if between 0xF0 0xF4 x then 4
  else 0

/-- Whether `y` may come second in a character that begins with `x`. -/
def secondAllowed (x y : UInt8) : Bool :=
  if x == 0xE0 then between 0xA0 0xBF y
  else if x == 0xED then between 0x80 0x9F y
  else if x == 0xF0 then between 0x90 0xBF y
  else if x == 0xF4 then between 0x80 0x8F y
  else continues y

/-- The low six bits of a byte. -/
def sixBits (x : UInt8) : Nat := x.toNat % 64

/-- The character, or one fault, at the front of `x :: rest`, and the bytes
    behind it. -/
def decodeOne (x : UInt8) (rest : List UInt8) : Char × List UInt8 :=
  match sequenceLength x, rest with
  | 1, _ => (Char.ofNat x.toNat, rest)
  | 2, y :: r =>
    if continues y then (Char.ofNat (x.toNat % 32 * 64 + sixBits y), r) else (replacement, rest)
  | 3, y :: r =>
    if secondAllowed x y then
      match r with
      | z :: r' =>
        if continues z then
          (Char.ofNat ((x.toNat % 16 * 64 + sixBits y) * 64 + sixBits z), r')
        else (replacement, r)
      | [] => (replacement, [])
    else (replacement, rest)
  | 4, y :: r =>
    if secondAllowed x y then
      match r with
      | z :: r' =>
        if continues z then
          match r' with
          | w :: r'' =>
            if continues w then
              (Char.ofNat (((x.toNat % 8 * 64 + sixBits y) * 64 + sixBits z) * 64 + sixBits w), r'')
            else (replacement, r')
          | [] => (replacement, [])
        else (replacement, r)
      | [] => (replacement, [])
    else (replacement, rest)
  | _, _ => (replacement, rest)

/-- Reading one character leaves no more bytes than followed its first. -/
theorem length_decodeOne (x : UInt8) (rest : List UInt8) :
    (decodeOne x rest).2.length ≤ rest.length := by
  unfold decodeOne
  repeat' split
  all_goals simp only [List.length_cons, List.length_nil]
  all_goals omega

/-- The characters of a list of bytes, behind the ones in `read`, which are in
    reverse order. -/
def lossyFrom (read : List Char) : List UInt8 → List Char
  | [] => read.reverse
  | x :: rest =>
    have := length_decodeOne x rest
    lossyFrom ((decodeOne x rest).1 :: read) (decodeOne x rest).2
termination_by bytes => bytes.length
decreasing_by
  simp only [List.length_cons]
  omega

/-- The characters of a list of bytes. -/
def lossyList (bytes : List UInt8) : List Char := lossyFrom [] bytes

/-- The text of a byte string, if it is valid UTF-8. -/
def utf8? (b : ByteArray) : Option String := String.fromUTF8? b

/-- The text of a byte string, with replacement characters where it is none. -/
def lossy (b : ByteArray) : String :=
  match utf8? b with
  | some text => text
  | none => String.ofList (lossyList (octets b))

end Text

end LineChat
