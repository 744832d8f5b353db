import LineChat.Text.Quoted

/-!
# JSON on One Line

Writes flat JSON objects without spaces, on a single line.

Inside a string a double quote and a backslash follow a backslash, the five
control characters that have a letter are written with it, and the other ones
below the space as four hexadecimal digits. Everything else stands for itself,
so the line is one line whatever the text.

## Main definitions

* `jsonChar`: How one character is written inside a string.
* `jsonString`: A text as a JSON string.
* `JsonField`, `jsonObject`: A flat object.
-/

namespace LineChat

namespace Text

/-- How one character is written inside a JSON string. -/
def jsonChar (c : Char) : List Char :=
  if c = '"' then ['\\', '"']
  else if c = '\\' then ['\\', '\\']
  else if c = '\x08' then ['\\', 'b']
  else if c = '\t' then ['\\', 't']
  else if c = '\n' then ['\\', 'n']
  else if c = '\x0c' then ['\\', 'f']
  else if c = '\r' then ['\\', 'r']
  else if c.toNat < 0x20 then
    let digits := hexDigits c.toNat
    ['\\', 'u'] ++ List.replicate (4 - digits.length) '0' ++ digits
  else [c]

/-- A text as a JSON string. -/
def jsonString (s : String) : List Char :=
  '"' :: (s.toList.flatMap jsonChar ++ ['"'])

/-- The value of a field: a text or a count. -/
inductive JsonField
  | text (s : String)
  | count (n : Nat)
  deriving DecidableEq, Repr

/-- A field's value as JSON. -/
def JsonField.render : JsonField → List Char
  | text s => jsonString s
  | count n => (toString n).toList

/-- A flat object on one line, its fields in the given order. -/
def jsonObject (fields : List (String × JsonField)) : String :=
  let members := fields.map fun f => jsonString f.1 ++ ':' :: f.2.render
  String.ofList ('\x7b' :: (List.intercalate [','] members ++ ['\x7d']))

end Text

end LineChat
