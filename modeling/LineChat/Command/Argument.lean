import LineChat.Text.Numeral

/-!
# Command Line Arguments

The grammar of a command line, and reading one level of it.

A command line has levels: the options of the program, then the name of a
command, then the options and positional arguments of that command. A level is
given by its `Grammar`. Options have a long name and perhaps a letter; a value
follows an option as the next argument or behind an equals sign, and a letter's
value may also follow it directly. Behind two dashes everything is positional.

An argument that begins with a dash is never the value of the option before it.

An option whose value has been seen is only settled when the next option or
positional argument arrives, or at the end of its level. Which of two mistakes
is reported follows from that: a value that is wrong is reported after an
unknown option behind it, and a level's last value after all mistakes of the
level below it.

## Main definitions

* `ArgumentError`: The mistakes, and the requests for help, of a command line.
* `ValueKind`: What an option's value has to look like.
* `Flag`, `Grammar`: The options of a level, and the level.
* `Reading`: What has been read of a level.
* `readLevel`: Reads a level up to the name of a command.
* `Reading.finish`: The end of a level.
-/

namespace LineChat

/-- Why a command line is not carried out. -/
inductive ArgumentError
  | valueValidation
  | invalidValue
  | unknownArgument
  | argumentConflict
  | missingRequiredArgument
  | missingSubcommand
  | invalidSubcommand
  | tooManyValues
  | displayHelp
  | displayVersion
  | displayHelpOnMissing
  deriving DecidableEq, Repr

namespace ArgumentError

/-- The exit code: asking for help or the version is no mistake. -/
def exitCode : ArgumentError → Nat
  | displayHelp => 0
  | displayVersion => 0
  | _ => 2

/-- What a mistake says. -/
def message : ArgumentError → String
  | valueValidation => "a value is not of the form that its option asks for"
  | invalidValue => "a value is missing or not one of those that its option takes"
  | unknownArgument => "there is no such argument"
  | argumentConflict => "an option was given twice"
  | missingRequiredArgument => "an argument is missing"
  | missingSubcommand => "the name of a command is missing"
  | invalidSubcommand => "there is no such command"
  | tooManyValues => "an option takes no value"
  | displayHelp => "help"
  | displayVersion => "version"
  | displayHelpOnMissing => "nothing was asked for"

end ArgumentError

/-- What a value has to look like. -/
inductive ValueKind
  /-- Any text. -/
  | text
  /-- A port number. -/
  | port
  /-- A size of a machine word. -/
  | size
  /-- One of some names. -/
  | choice (names : List String)
  deriving DecidableEq, Repr

namespace ValueKind

/-- The port of a text. Its number may have a sign, so `-0` is zero. -/
def port? (s : String) : Option Nat :=
  match Text.signed? 0x8000000000000000 s.toList with
  | some i => if 0 ≤ i ∧ i < 65536 then some i.toNat else none
  | none => none

/-- The size of a text. -/
def size? (s : String) : Option Nat := Text.unsigned? 0x10000000000000000 s.toList

/-- Whether a value is right, and the mistake if it is not. -/
def check (kind : ValueKind) (value : String) : Except ArgumentError Unit :=
  match kind with
  | text => .ok ()
  | port => if (port? value).isSome then .ok () else .error .valueValidation
  | size => if (size? value).isSome then .ok () else .error .valueValidation
  | choice names => if value ∈ names then .ok () else .error .invalidValue

end ValueKind

/-- What an option does. -/
inductive FlagAction
  /-- It has a value and is given once. -/
  | set (kind : ValueKind)
  /-- It has a value and may be given again. -/
  | append (kind : ValueKind)
  /-- It has no value and is given once. -/
  | raise
  /-- It asks for help. -/
  | help
  /-- It asks for the version. -/
  | version
  deriving DecidableEq, Repr

/-- An option. -/
structure Flag where
  /-- Its long name, without dashes. -/
  name : String
  /-- Its letter. -/
  letter : Option Char
  /-- What it does. -/
  action : FlagAction
  deriving DecidableEq, Repr

/-- A level of a command line. -/
structure Grammar where
  /-- Its options. -/
  flags : List Flag
  /-- How many positional arguments it has, all of them required. -/
  positionals : Nat
  /-- The commands that may follow. -/
  commands : List String
  deriving DecidableEq, Repr

/-- What has been read of a level. -/
structure Reading where
  /-- The options that were settled and their values, in order. -/
  given : List (String × String)
  /-- The option that is not settled yet, and its value if it has one. -/
  pending : Option (Flag × Option String)
  /-- The positional arguments, in order. -/
  positional : List String
  /-- Two dashes have been read. -/
  onlyPositional : Bool
  deriving Repr

namespace Reading

/-- Nothing has been read. -/
def start : Reading := ⟨[], none, [], false⟩

/-- Whether an option has been settled. -/
def has (r : Reading) (name : String) : Bool := r.given.any (·.1 == name)

/-- The values of an option, in order. -/
def values (r : Reading) (name : String) : List String :=
  r.given.filterMap fun g => if g.1 = name then some g.2 else none

/-- The value of an option. -/
def value? (r : Reading) (name : String) : Option String := (r.values name).head?

/-- Settles an option that has a value. -/
def settleValue (r : Reading) (f : Flag) (value : String) : Except ArgumentError Reading :=
  let add (kind : ValueKind) : Except ArgumentError Reading :=
    match kind.check value with
    | .error e => .error e
    | .ok () => .ok { r with given := r.given ++ [(f.name, value)] }
  match f.action with
  | .set kind => if r.has f.name then .error .argumentConflict else add kind
  | .append kind => add kind
  | _ => .ok r

/-- Settles the option that is not settled yet. -/
def settle (r : Reading) : Except ArgumentError Reading :=
  match r.pending with
  | none => .ok r
  | some (_, none) => .error .invalidValue
  | some (f, some value) => ({ r with pending := none }).settleValue f value

/-- The level has come to its end. -/
def finish (r : Reading) : Except ArgumentError Reading := r.settle

end Reading

namespace Flag

/-- The option has a value. -/
def takesValue (f : Flag) : Bool :=
  match f.action with
  | .set _ => true
  | .append _ => true
  | _ => false

/-- An option without a value has been read. -/
def react (f : Flag) (r : Reading) : Except ArgumentError Reading :=
  match r.settle with
  | .error e => .error e
  | .ok r =>
    match f.action with
    | .help => .error .displayHelp
    | .version => .error .displayVersion
    | _ =>
      if r.has f.name then .error .argumentConflict
      else .ok { r with given := r.given ++ [(f.name, "true")] }

/-- An option with a value has been read, and perhaps the value with it. -/
def take (f : Flag) (attached : Option String) (r : Reading) : Except ArgumentError Reading :=
  match r.settle with
  | .error e => .error e
  | .ok r =>
    match attached with
    | some value => r.settleValue f value
    | none => .ok { r with pending := some (f, none) }

end Flag

/-- A text before and behind the first occurrence of a character. -/
def cutAtFirst (c : Char) : List Char → Option (List Char × List Char)
  | [] => none
  | x :: rest =>
    if x = c then some ([], rest)
    else (cutAtFirst c rest).map fun p => (x :: p.1, p.2)

namespace Grammar

/-- The option of a long name. -/
def named? (g : Grammar) (name : String) : Option Flag := g.flags.find? (·.name == name)

/-- The option of a letter. -/
def lettered? (g : Grammar) (c : Char) : Option Flag := g.flags.find? (·.letter == some c)

/-- An argument that begins with two dashes. -/
def readLong (g : Grammar) (body : List Char) (r : Reading) : Except ArgumentError Reading :=
  let (name, attached) := match cutAtFirst '=' body with
    | some (name, value) => (name, some (String.ofList value))
    | none => (body, none)
  match g.named? (String.ofList name) with
  | none => .error .unknownArgument
  | some f =>
    if f.takesValue then f.take attached r
    else
      match attached with
      | some _ => .error .tooManyValues
      | none => f.react r

/-- An argument that begins with one dash: letters, of which one that takes a
    value takes the rest. -/
def readLetters (g : Grammar) : List Char → Reading → Except ArgumentError Reading
  | [], r => .ok r
  | c :: rest, r =>
    match g.lettered? c with
    | none => .error .unknownArgument
    | some f =>
      if f.takesValue then
        match rest with
        | [] => f.take none r
        | '=' :: value => f.take (some (String.ofList value)) r
        | value => f.take (some (String.ofList value)) r
      else
        match f.react r with
        | .error e => .error e
        | .ok r => readLetters g rest r

/-- A positional argument. -/
def readPositional (g : Grammar) (arg : String) (r : Reading) : Except ArgumentError Reading :=
  if r.positional.length < g.positionals then
    match r.settle with
    | .error e => .error e
    | .ok r => .ok { r with positional := r.positional ++ [arg] }
  -- Behind two dashes the name of a command does not stand for the command.
  else if r.onlyPositional && g.commands.contains arg then .error .unknownArgument
  else if g.commands.isEmpty then .error .unknownArgument
  else .error .invalidSubcommand

/-- Reads one argument that is not the name of a command. -/
def readArgument (g : Grammar) (arg : String) (r : Reading) : Except ArgumentError Reading :=
  if r.onlyPositional then g.readPositional arg r
  else
    match arg.toList with
    | ['-', '-'] => .ok { r with onlyPositional := true }
    | '-' :: '-' :: body => g.readLong body r
    | '-' :: c :: letters => g.readLetters (c :: letters) r
    | _ =>
      match r.pending with
      | some (f, none) => .ok { r with pending := some (f, some arg) }
      | _ => g.readPositional arg r

/-- Whether an argument is the name of a command here: it is not if two dashes
    were read, or if the option before it waits for a value. -/
def isCommand (g : Grammar) (arg : String) (r : Reading) : Bool :=
  !r.onlyPositional && g.commands.contains arg
    && (match r.pending with
      | some (_, none) => false
      | _ => true)

end Grammar

/-- Reads a level up to the name of a command: what was read, and the name with
    the arguments behind it. -/
def readLevel (g : Grammar) (r : Reading) :
    List String → Except ArgumentError (Reading × Option (String × List String))
  | [] => .ok (r, none)
  | arg :: args =>
    if g.isCommand arg r then .ok (r, some (arg, args))
    else
      match g.readArgument arg r with
      | .error e => .error e
      | .ok r => readLevel g r args

end LineChat
