import LineChat.Text.Printable

/-!
# Quoted Text

Shows a text between double quotes so that every character can be told.

A double quote and a backslash are written after a backslash, the characters
with a letter of their own as that letter, and any other character that does
not show, or that would join the one before it, as its code point in braces.

## Main definitions

* `hexDigits`: A number in lower case hexadecimal.
* `quotedChar`: How one character is shown.
* `quoted`: How a text is shown.
-/

namespace LineChat

namespace Text

/-- A number in lower case hexadecimal, without leading zeros. -/
def hexDigits (n : Nat) : List Char := Nat.toDigits 16 n

/-- How one character of a text is shown between double quotes. -/
def quotedChar (c : Char) : List Char :=
  if c = '\x00' then ['\\', '0']
  else if c = '\t' then ['\\', 't']
  else if c = '\n' then ['\\', 'n']
  else if c = '\r' then ['\\', 'r']
  else if c = '"' then ['\\', '"']
  else if c = '\\' then ['\\', '\\']
  else if isPrintable c && !extendsGrapheme c then [c]
  else ['\\', 'u', '\x7b'] ++ hexDigits c.toNat ++ ['\x7d']

/-- A text between double quotes. -/
def quoted (s : String) : String :=
  String.ofList ('"' :: (s.toList.flatMap quotedChar ++ ['"']))

end Text

end LineChat
