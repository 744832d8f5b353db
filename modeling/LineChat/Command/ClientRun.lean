import LineChat.Command.Duration
import LineChat.Command.Options
import LineChat.Session.Client

/-!
# A Run of the Client Command

What the client command does, turn by turn.

The lines to send come from the command line, or from standard input if it
gives none. Standard input is framed here, so that blank lines never go out; a
last line without a newline is sent at its end.

A turn begins with the question whether the run is over. With a number of
messages to print, it is over when that many were printed. Without one, it is
over when nothing is left to send: standard input is not read any more, the
connection is open and its queue is empty. Lines of the command line that do not
get out within the time limit end the run with a failure. After that the turn
sends what standard input has given, lets the client deal with what a wait for
readiness has given, and prints all messages that came in.

The outside is a list of turns. A run over such a list prints messages, makes
calls on the socket, and has ended or goes on.

## Main definitions

* `InputEvent`: What standard input gives.
* `ClientRun`: The state between two turns.
* `ClientTurn`: What the outside gives in one turn.
* `ClientRun.start`: The run that options ask for.
* `ClientRun.verdict?`: Whether a run is over.
* `ClientRun.turn`: One turn.
* `ClientRun.play`: Several turns.
-/

namespace LineChat

/-- The most bytes that are taken from standard input at once. -/
def inputChunk : Nat := 4096

/-- What standard input gives. -/
inductive InputEvent
  | data (chunk : ByteArray)
  | ended
  | failed (fault : Fault)

/-- A run of the client command between two turns. -/
structure ClientRun where
  /-- The name that messages are printed under: the server's address. -/
  origin : String
  /-- How many messages are to be printed, if that is limited. -/
  exitAfter : Option Nat
  /-- The command line has given lines to send. -/
  givenLines : Bool
  /-- How long these may take. -/
  timeLimit : Duration
  client : Client
  /-- The lines of standard input, as long as it is read. -/
  input : Option Framer
  /-- How many messages were printed. -/
  printed : Nat

/-- What the outside gives in one turn of the client command. -/
structure ClientTurn where
  /-- The user wants the run to end. -/
  interrupted : Bool
  /-- How long the run has taken already. -/
  elapsed : Duration
  /-- How the wait for the socket or standard input has ended. -/
  readiness : Except LinkError Unit
  /-- What standard input has given since the turn before. -/
  input : List InputEvent
  /-- What the client's own wait for readiness gives. -/
  wait : WaitAnswer

namespace ClientRun

/-- What became of lines that were to be sent. -/
structure Sent where
  client : Client
  calls : List SocketCall
  /-- Why not all were sent. -/
  failure : Option Failure

/-- Sends messages, each as a line. -/
def sendAll : List Message → Client → Sent
  | [], c => ⟨c, [], none⟩
  | m :: ms, c =>
    let fed := c.feed m.wire
    match fed.answer with
    | .error e => ⟨fed.client, fed.calls, some (Failure.ofSession "send failed" e)⟩
    | .ok () =>
      let more := sendAll ms fed.client
      { more with calls := fed.calls ++ more.calls }

/-- The messages of the lines of a command line. -/
def givenMessages : List String → Except Failure (List Message)
  | [] => .ok []
  | text :: texts =>
    match Message.ofBytes text.toUTF8 with
    | .error e => .error ⟨ExitCode.usage,
        "invalid --send value " ++ Text.quoted text ++ ": " ++ e.message⟩
    | .ok m => (givenMessages texts).map (m :: ·)

/-- The run that options ask for, and the calls on its socket. -/
def start (o : ClientOptions) (d : Dialler) : Except Failure (ClientRun × List SocketCall) := do
  let timeLimit ← Duration.parse o.timeout
  let messages ← givenMessages o.send
  let connected := (Client.ofConfig ClientConfig.standard).connect d o.address
  match connected.answer with
  | .error e => throw (Failure.ofSession "connect failed" e)
  | .ok () =>
    let sent := sendAll messages connected.client
    match sent.failure with
    | some failure => throw failure
    | none =>
      return ({
        origin := (sent.client.peerAddress?.map (·.text)).getD o.address
        exitAfter := o.exitAfter
        givenLines := !messages.isEmpty
        timeLimit := timeLimit
        client := sent.client
        input := if messages.isEmpty then some (Framer.ofLimit defaultLimit) else none
        printed := 0 }, connected.calls ++ sent.calls)

/-- The connection is open and nothing waits to go out. -/
def delivered (r : ClientRun) : Bool :=
  r.client.state? == some .opened && !r.client.pendingEvents.output

/-- Whether a run is over, and how, if nobody has interrupted it. -/
def verdict? (r : ClientRun) (elapsed : Duration) : Option (Except Failure Unit) :=
  let finished := match r.exitAfter with
    | some limit => decide (limit ≤ r.printed)
    | none => r.input.isNone && r.delivered
  if finished then some (.ok ())
  else if r.givenLines && !r.delivered && r.timeLimit.nanos ≤ elapsed.nanos then
    some (.error ⟨ExitCode.timeout, "timed out sending to " ++ r.origin⟩)
  else none

/-- What became of standard input. -/
structure Pumped where
  client : Client
  /-- Its lines, if it goes on. -/
  input : Option Framer
  calls : List SocketCall
  failure : Option Failure

/-- Sends the lines that standard input has completed, and at its end the last
    one. -/
def pumpInput : List InputEvent → Framer → Client → Pumped
  | [], f, c => ⟨c, some f, [], none⟩
  | .failed fault :: _, f, c =>
    ⟨c, some f, [], some (Failure.ofFault "stdin read failed" fault)⟩
  | .ended :: _, f, c =>
    match Message.ofLine? f.pending with
    | none => ⟨c, none, [], none⟩
    | some m =>
      let sent := sendAll [m] c
      match sent.failure with
      | some failure => ⟨sent.client, some f, sent.calls, some failure⟩
      | none => ⟨sent.client, none, sent.calls, none⟩
  | .data chunk :: later, f, c =>
    let fed := f.feed chunk
    match fed.refusal with
    | some o => ⟨c, some fed.framer, [],
        some ⟨ExitCode.usage, "stdin line rejected: " ++ (LineError.overflow o).message⟩⟩
    | none =>
      let sent := sendAll fed.messages.toList c
      match sent.failure with
      | some failure => ⟨sent.client, some fed.framer, sent.calls, some failure⟩
      | none =>
        let more := pumpInput later fed.framer sent.client
        { more with calls := sent.calls ++ more.calls }

/-- How a turn, or several, leaves a run. -/
structure After where
  /-- How the run has ended, if it has. -/
  ended : Option (Except Failure Unit)
  run : ClientRun
  /-- The messages that were printed. -/
  shown : List Message
  calls : List SocketCall

/-- Lets the client deal with a wait for readiness and prints what came in. The
    calls come behind those that were made `before`. -/
def exchange (r : ClientRun) (wait : WaitAnswer) (before : List SocketCall) : After :=
  let updated := r.client.update wait
  let shown := updated.client.messages
  { ended := match updated.answer with
      | .ok () => none
      | .error e =>
        if e.isTimeout then none else some (.error (Failure.ofSession "connection lost" e))
    run := { r with
      client := { updated.client with messages := [] }
      printed := r.printed + shown.length }
    shown := shown
    calls := before ++ updated.calls }

/-- A turn of a run that is not over. -/
def advance (r : ClientRun) (t : ClientTurn) : After :=
  match t.readiness with
  | .error e => ⟨some (.error (Failure.ofSession "poll failed" (.ofLink e))), r, [], []⟩
  | .ok () =>
    match r.input with
    | none => r.exchange t.wait []
    | some f =>
      let pumped := pumpInput t.input f r.client
      let r := { r with client := pumped.client, input := pumped.input }
      match pumped.failure with
      | some failure => ⟨some (.error failure), r, [], pumped.calls⟩
      | none => r.exchange t.wait pumped.calls

/-- One turn. -/
def turn (r : ClientRun) (t : ClientTurn) : After :=
  if t.interrupted then ⟨some (.ok ()), r, [], []⟩
  else
    match r.verdict? t.elapsed with
    | some verdict => ⟨some verdict, r, [], []⟩
    | none => r.advance t

/-- Turns until the run ends or there are no more. -/
def play : List ClientTurn → ClientRun → After
  | [], r => ⟨none, r, [], []⟩
  | t :: ts, r =>
    let first := r.turn t
    match first.ended with
    | some _ => first
    | none =>
      let more := play ts first.run
      { more with shown := first.shown ++ more.shown, calls := first.calls ++ more.calls }

end ClientRun

end LineChat
