import LineChat.Text.Numeral

/-!
# Internet Addresses

Addresses of hosts, their standard texts, and the texts that stand for them.

The text of a version 4 address is its four bytes in decimal. A version 6
address is eight groups in hexadecimal; the longest run of at least two zero
groups, the first of several, is written as two colons, and an address that
maps a version 4 address ends in that one's text.

Reading is done by small readers from the front of a list of characters. The
strict grammar allows no leading zeros in a version 4 address. A host that is
written without brackets may also use the old numeric forms: one to four
numbers in decimal, octal or hexadecimal, the last of which fills the bytes
that are left.

## Main definitions

* `Ipv4`, `Ipv6`, `IpAddress`: Addresses.
* `Ipv4.text`, `Ipv6.text`: Their standard texts.
* `Scan`: A function that reads something off the front.
* `readIpv4`, `readIpv6`: The strict grammars.
* `numericHost?`: A host given as a number.
-/

namespace LineChat

namespace Address

/-- A version 4 address. -/
structure Ipv4 where
  a : UInt8
  b : UInt8
  c : UInt8
  d : UInt8
  deriving DecidableEq, Repr

/-- A version 6 address: eight groups of sixteen bits. -/
structure Ipv6 where
  /-- The groups, the most significant first. -/
  groups : List UInt16
  /-- There are eight. -/
  eight : groups.length = 8
  deriving DecidableEq, Repr

/-- An address of either version. -/
inductive IpAddress
  | v4 (ip : Ipv4)
  | v6 (ip : Ipv6)
  deriving DecidableEq, Repr

namespace Ipv4

/-- The standard text of a version 4 address. -/
def text (ip : Ipv4) : String :=
  String.intercalate "." ([ip.a, ip.b, ip.c, ip.d].map fun x => toString x.toNat)

/-- The address whose four bytes make up `n`. -/
def ofNat (n : Nat) : Ipv4 :=
  ⟨UInt8.ofNat (n / 0x1000000), UInt8.ofNat (n / 0x10000), UInt8.ofNat (n / 0x100),
    UInt8.ofNat n⟩

end Ipv4

namespace Ipv6

/-- The longest run of zeros in a list of groups, as its start and length: the
    first of several. `i` is the position of the list's head, `run` the length
    of the run that ends before it, `best` the longest one so far. -/
def longestRunFrom (i run : Nat) (best : Nat × Nat) : List UInt16 → Nat × Nat
  | [] => best
  | g :: groups =>
    if g = 0 then
      let run := run + 1
      longestRunFrom (i + 1) run (if best.2 < run then (i + 1 - run, run) else best) groups
    else longestRunFrom (i + 1) 0 best groups

/-- The longest run of zeros, as its start and length. -/
def longestRun (groups : List UInt16) : Nat × Nat := longestRunFrom 0 0 (0, 0) groups

/-- Groups in hexadecimal with colons between them. -/
def groupsText (groups : List UInt16) : String :=
  String.intercalate ":" (groups.map fun g => String.ofList (Nat.toDigits 16 g.toNat))

/-- The version 4 address that a version 6 address maps, if it is of that
    form. -/
def mapped? (ip : Ipv6) : Option Ipv4 :=
  match ip.groups with
  | [0, 0, 0, 0, 0, 0xFFFF, x, y] => some (Ipv4.ofNat (x.toNat * 0x10000 + y.toNat))
  | _ => none

/-- The standard text of a version 6 address. -/
def text (ip : Ipv6) : String :=
  match ip.mapped? with
  | some v4 => "::ffff:" ++ v4.text
  | none =>
    let run := longestRun ip.groups
    if 1 < run.2 then
      groupsText (ip.groups.take run.1) ++ "::" ++ groupsText (ip.groups.drop (run.1 + run.2))
    else groupsText ip.groups

end Ipv6

/-- The standard text of an address. -/
def IpAddress.text : IpAddress → String
  | v4 ip => ip.text
  | v6 ip => ip.text

/-- Reads something off the front of a text: what it read and what is left. -/
abbrev Scan (α : Type) := List Char → Option (α × List Char)

/-- Reads the given character. -/
def readChar (c : Char) : Scan Unit
  | x :: rest => if x = c then some ((), rest) else none
  | [] => none

/-- Reads as many digits as there are: a number below `bound` of at most
    `maxDigits` digits. Unless `leadingZeros`, a number of several digits does
    not start with a zero. -/
def readNumber (radix maxDigits bound : Nat) (leadingZeros : Bool) : Scan Nat := fun cs =>
  let digits := cs.takeWhile fun c => (Text.digitValue? radix c).isSome
  let rest := cs.dropWhile fun c => (Text.digitValue? radix c).isSome
  if digits.length = 0 ∨ maxDigits < digits.length then none
  else if !leadingZeros && digits.head? == some '0' && 1 < digits.length then none
  else
    match Text.digits? radix digits with
    | some n => if n < bound then some (n, rest) else none
    | none => none

/-- Reads a version 4 address. -/
def readIpv4 : Scan Ipv4 := fun cs => do
  let byte := readNumber 10 3 256 false
  let (a, cs) ← byte cs
  let (_, cs) ← readChar '.' cs
  let (b, cs) ← byte cs
  let (_, cs) ← readChar '.' cs
  let (c, cs) ← byte cs
  let (_, cs) ← readChar '.' cs
  let (d, cs) ← byte cs
  return (⟨UInt8.ofNat a, UInt8.ofNat b, UInt8.ofNat c, UInt8.ofNat d⟩, cs)

/-- What `readGroups` found: the groups, and whether the last two of them were
    a version 4 address. -/
structure Groups where
  list : List UInt16
  endsInV4 : Bool

/-- Reads up to `n` groups with colons between them, of which the last two may
    be given as a version 4 address. `found` holds the groups before, in
    order. -/
def readGroups : (n : Nat) → (found : List UInt16) → List Char → Groups × List Char
  | 0, found, cs => (⟨found, false⟩, cs)
  | n + 1, found, cs =>
    let start := if found.isEmpty then some cs else (readChar ':' cs).map (·.2)
    match start with
    | none => (⟨found, false⟩, cs)
    | some inner =>
      -- A version 4 address takes the place of two groups, so both must be left.
      match if 0 < n then readIpv4 inner else none with
      | some (v4, rest) =>
        let pair := [UInt16.ofNat (v4.a.toNat * 256 + v4.b.toNat),
          UInt16.ofNat (v4.c.toNat * 256 + v4.d.toNat)]
        (⟨found ++ pair, true⟩, rest)
      | none =>
        match readNumber 16 4 65536 true inner with
        | some (g, rest) => readGroups n (found ++ [UInt16.ofNat g]) rest
        | none => (⟨found, false⟩, cs)

/-- Reads a version 6 address: eight groups, or fewer with two colons in place
    of the missing ones. -/
def readIpv6 : Scan Ipv6 := fun cs =>
  let (head, rest) := readGroups 8 [] cs
  if h : head.list.length = 8 then some (⟨head.list, h⟩, rest)
  else if head.endsInV4 then none
  else do
    let (_, rest) ← readChar ':' rest
    let (_, rest) ← readChar ':' rest
    let (tail, rest) := readGroups (7 - head.list.length) [] rest
    let zeros := List.replicate (8 - head.list.length - tail.list.length) 0
    let all := head.list ++ zeros ++ tail.list
    if h : all.length = 8 then some (⟨all, h⟩, rest) else none

/-- One number of the old numeric form: hexadecimal behind `0x`, octal behind
    another zero, decimal otherwise. -/
def oldNumber? (cs : List Char) : Option Nat :=
  match cs with
  | '0' :: 'x' :: digits => Text.digits? 16 digits
  | '0' :: 'X' :: digits => Text.digits? 16 digits
  | '0' :: d :: digits => Text.digits? 8 (d :: digits)
  | _ => Text.digits? 10 cs

/-- The parts of a text between its dots. -/
def dotParts (s : String) : List (List Char) := (s.splitOn ".").map String.toList

/-- A version 4 address in the old numeric form: one to four numbers, all but
    the last of which are one byte each. -/
def oldIpv4? (s : String) : Option Ipv4 := do
  let parts ← (dotParts s).mapM oldNumber?
  match parts with
  | [n] => if n < 0x100000000 then some (Ipv4.ofNat n) else none
  | [a, n] =>
    if a < 256 ∧ n < 0x1000000 then some (Ipv4.ofNat (a * 0x1000000 + n)) else none
  | [a, b, n] =>
    if a < 256 ∧ b < 256 ∧ n < 0x10000 then
      some (Ipv4.ofNat (a * 0x1000000 + b * 0x10000 + n))
    else none
  | [a, b, c, n] =>
    if a < 256 ∧ b < 256 ∧ c < 256 ∧ n < 256 then
      some (Ipv4.ofNat (a * 0x1000000 + b * 0x10000 + c * 0x100 + n))
    else none
  | _ => none

/-- A host that is given as a number: its address and its scope. A version 6
    address may have a scope behind a percent sign; without one it is zero. -/
def numericHost? (host : String) : Option (IpAddress × UInt32) :=
  match oldIpv4? host with
  | some ip => some (.v4 ip, 0)
  | none =>
    match readIpv6 host.toList with
    | some (ip, []) => some (.v6 ip, 0)
    | some (ip, '%' :: scope) =>
      match readNumber 10 scope.length 0x100000000 true scope with
      | some (n, []) => some (.v6 ip, UInt32.ofNat n)
      | _ => none
    | _ => none

end Address

end LineChat
