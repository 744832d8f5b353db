import LineChat.Command.Argument
import LineChat.Command.Report
import LineChat.Line.Buffer

/-!
# The Command Line

What the program can be asked to do, and the command line that asks for it.

There are three commands. The server relays lines between its peers, the client
connects to a server, and the third tells the version. The format of the output
and two settings of the log belong to every command and may stand before or
behind its name; behind it they count for more.

## Main definitions

* `LogFormat`, `LogLevel`: Settings of the log.
* `ServerOptions`, `ClientOptions`, `Command`: The commands.
* `CommandLine`: A command line that was understood.
* `CommandLine.parse`: Understanding a command line.
-/

namespace LineChat

/-- How the log is written. -/
inductive LogFormat
  | text
  | json
  deriving DecidableEq, Repr

/-- How much is logged. -/
inductive LogLevel
  | error
  | warn
  | info
  | debug
  | trace
  deriving DecidableEq, Repr

/-- The name of a log format. -/
def LogFormat.name : LogFormat → String
  | text => "text"
  | json => "json"

/-- Every log format. -/
def LogFormat.all : List LogFormat := [text, json]

/-- The name of a log level, which is also that of the filter it sets. -/
def LogLevel.name : LogLevel → String
  | error => "error"
  | warn => "warn"
  | info => "info"
  | debug => "debug"
  | trace => "trace"

/-- Every log level, the quietest first. -/
def LogLevel.all : List LogLevel := [error, warn, info, debug, trace]

/-- The peers of a server when no number is given. -/
def defaultMaxPeers : Nat := 100

/-- What a server is asked for. -/
structure ServerOptions where
  port : Nat
  maxPeers : Nat
  maxBuffer : Nat
  timeout : String
  count : Option Nat
  deriving DecidableEq, Repr

/-- What a client is asked for. -/
structure ClientOptions where
  address : String
  send : List String
  exitAfter : Option Nat
  timeout : String
  deriving DecidableEq, Repr

/-- What the program is asked to do. -/
inductive Command
  | server (options : ServerOptions)
  | client (options : ClientOptions)
  | version (extended : Bool)
  deriving DecidableEq, Repr

/-- A command line that was understood. -/
structure CommandLine where
  format : Option OutputFormat
  logFormat : LogFormat
  logLevel : LogLevel
  command : Command
  deriving DecidableEq, Repr

namespace CommandLine

/-- How the program is called. -/
def usage : String :=
  "Usage: chatprims [--format json|table|pretty|raw] [--log-format text|json]\n"
    ++ "                 [--log-level error|warn|info|debug|trace] COMMAND\n\n"
    ++ "  server [-p PORT] [--max-peers N] [--max-buffer BYTES] [--timeout TIME] [--count N]\n"
    ++ "  client HOST:PORT [--send TEXT]... [--exit-after N] [--timeout TIME]\n"
    ++ "  version [--extended]\n"

/-- The options of every command. -/
def sharedFlags : List Flag := [
  ⟨"format", none, .set (.choice (OutputFormat.all.map (·.name)))⟩,
  ⟨"log-format", none, .set (.choice (LogFormat.all.map (·.name)))⟩,
  ⟨"log-level", none, .set (.choice (LogLevel.all.map (·.name)))⟩,
  ⟨"help", some 'h', .help⟩]

/-- The level before the name of the command. -/
def programGrammar : Grammar :=
  ⟨sharedFlags ++ [⟨"version", some 'V', .version⟩], 0, ["server", "client", "version", "help"]⟩

/-- The level of the server. -/
def serverGrammar : Grammar :=
  ⟨sharedFlags ++ [
    ⟨"port", some 'p', .set .port⟩,
    ⟨"max-peers", none, .set .size⟩,
    ⟨"max-buffer", none, .set .size⟩,
    ⟨"timeout", none, .set .text⟩,
    ⟨"count", none, .set .size⟩], 0, []⟩

/-- The level of the client. -/
def clientGrammar : Grammar :=
  ⟨sharedFlags ++ [
    ⟨"send", none, .append .text⟩,
    ⟨"exit-after", none, .set .size⟩,
    ⟨"timeout", none, .set .text⟩], 1, []⟩

/-- The level of the version. -/
def versionGrammar : Grammar := ⟨sharedFlags ++ [⟨"extended", none, .raise⟩], 0, []⟩

/-- The level of a command. -/
def grammarOf (command : String) : Grammar :=
  if command = "server" then serverGrammar
  else if command = "client" then clientGrammar
  else versionGrammar

/-- The size that an option was given. -/
def sizeOf? (r : Reading) (name : String) : Option Nat := (r.value? name).bind ValueKind.size?

/-- The command that its level asks for. -/
def commandOf (name : String) (r : Reading) : Except ArgumentError Command :=
  if name = "server" then
    .ok (.server {
      port := ((r.value? "port").bind ValueKind.port?).getD 0
      maxPeers := (sizeOf? r "max-peers").getD defaultMaxPeers
      maxBuffer := (sizeOf? r "max-buffer").getD defaultLimit
      timeout := (r.value? "timeout").getD "1s"
      count := sizeOf? r "count" })
  else if name = "client" then
    match r.positional with
    | [] => .error .missingRequiredArgument
    | address :: _ =>
      .ok (.client {
        address := address
        send := r.values "send"
        exitAfter := sizeOf? r "exit-after"
        timeout := (r.value? "timeout").getD "5s" })
  else .ok (.version (r.has "extended"))

/-- The value of a shared option: behind the command's name, or else before
    it. -/
def shared? (outer inner : Reading) (name : String) : Option String :=
  match inner.value? name with
  | some value => some value
  | none => outer.value? name

/-- Asking for the help of a command, by its names. -/
def helpFor : List String → ArgumentError
  | [] => .displayHelp
  | name :: names =>
    if programGrammar.commands.contains name && names.isEmpty then .displayHelp
    else .invalidSubcommand

/-- The command line of the arguments behind the program's name. -/
def parse (args : List String) : Except ArgumentError CommandLine := do
  match ← readLevel programGrammar Reading.start args with
  | (outer, none) =>
    let outer ← outer.finish
    if outer.given.isEmpty then .error .displayHelpOnMissing else .error .missingSubcommand
  | (outer, some (name, args)) =>
    if name = "help" then .error (helpFor args)
    else
      let (inner, _) ← readLevel (grammarOf name) Reading.start args
      let inner ← inner.finish
      let command ← commandOf name inner
      let outer ← outer.finish
      return {
        format := (shared? outer inner "format").bind OutputFormat.ofName?
        logFormat := ((shared? outer inner "log-format").bind fun s =>
          LogFormat.all.find? (·.name == s)).getD .text
        logLevel := ((shared? outer inner "log-level").bind fun s =>
          LogLevel.all.find? (·.name == s)).getD .info
        command := command }

end CommandLine

end LineChat
