import LineChat.Command.Duration
import LineChat.Command.Options
import LineChat.Session.Server

/-!
# A Run of the Server Command

What the server command does, turn by turn.

In a turn the server deals with what a wait for readiness has given, and the
messages that came in are printed. A number of messages to print may be given.
When it is reached, what is queued for the peers gets two more seconds to go
out, during which nothing is printed, and the run has succeeded. An interrupt
also ends a run with success. An error of the server ends it with a failure,
except that a wait may always give nothing.

The outside is a list of turns. A run over such a list prints messages, does
deeds, and has ended or goes on.

## Main definitions

* `ServerRun`: The state between two turns.
* `ServerTurn`: What the outside gives in one turn.
* `ServerRun.start`: The run that options ask for.
* `ServerRun.turn`: One turn.
* `ServerRun.play`: Several turns.
-/

namespace LineChat

/-- How long queued output may still go out once enough was printed. -/
def drainLimit : Duration := Duration.ofSeconds 2

/-- The name that the server's messages are printed under. -/
def serverOrigin : String := "server"

/-- A run of the server command between two turns. -/
structure ServerRun where
  server : Server
  /-- The longest wait of one turn. -/
  tick : Duration
  /-- How many messages are to be printed, if that is limited. -/
  count : Option Nat
  /-- How many were printed. -/
  printed : Nat
  /-- Enough was printed, and only queued output still goes out. -/
  draining : Bool

/-- What the outside gives in one turn of the server command. -/
structure ServerTurn where
  /-- The user wants the run to end. -/
  interrupted : Bool
  /-- How long output has been going out already. -/
  elapsed : Duration
  /-- What the wait for readiness gives. -/
  wait : WaitAnswer

namespace ServerRun

/-- How a turn, or several, leaves a run. -/
structure After where
  /-- How the run has ended, if it has. -/
  ended : Option (Except Failure Unit)
  run : ServerRun
  /-- The messages that were printed. -/
  shown : List Message
  deeds : List Deed

/-- The run that options ask for. The system answers as for `Server.listen`. -/
def start (o : ServerOptions) (answer : Except LinkError (SocketAddress × List AcceptAnswer)) :
    Except Failure ServerRun := do
  let tick ← Duration.parse o.timeout
  if o.maxPeers = 0 then throw ⟨ExitCode.usage, "--max-peers must be greater than zero"⟩
  let config : ServerConfig :=
    ⟨o.maxPeers, o.maxBuffer, ServerConfig.standard.eventCapacity⟩
  match (Server.ofConfig config).listen (UInt16.ofNat o.port) answer with
  | (.error e, _) => throw (Failure.ofSession "listen failed" e)
  | (.ok (), server) =>
    return { server := server, tick := tick, count := o.count, printed := 0, draining := false }

/-- Whether enough messages were printed after `printed` of them. -/
def enough (r : ServerRun) (printed : Nat) : Bool :=
  match r.count with
  | none => false
  | some count => decide (count ≤ printed)

/-- Takes messages until enough were printed or none are left: what was printed,
    and whether it was enough. -/
def printFrom (r : ServerRun) : (printed : Nat) → List Message → List Message × Bool
  | _, [] => ([], false)
  | printed, m :: ms =>
    if r.enough (printed + 1) then ([m], true)
    else
      let more := printFrom r (printed + 1) ms
      (m :: more.1, more.2)

/-- The run after printing what has come in. -/
def print (r : ServerRun) (deeds : List Deed) : After :=
  let out := r.printFrom r.printed r.server.messages
  { ended := none
    run := { r with
      server := { r.server with messages := r.server.messages.drop out.1.length }
      printed := r.printed + out.1.length
      draining := out.2 }
    shown := out.1
    deeds := deeds }

/-- One turn of a run that is not draining. -/
def serveTurn (r : ServerRun) (t : ServerTurn) : After :=
  if t.interrupted then ⟨some (.ok ()), r, [], []⟩
  else
    let updated := r.server.update t.wait
    let r := { r with server := updated.server }
    match updated.answer with
    | .ok () => r.print updated.deeds
    | .error e =>
      if e.isTimeout then r.print updated.deeds
      else ⟨some (.error (Failure.ofSession "update failed" e)), r, [], updated.deeds⟩

/-- One turn of a run that is draining. -/
def drainTurn (r : ServerRun) (t : ServerTurn) : After :=
  if r.server.pendingEvents.output && t.elapsed.nanos < drainLimit.nanos then
    let updated := r.server.update t.wait
    let r := { r with server := updated.server }
    match updated.answer with
    | .ok () => ⟨none, r, [], updated.deeds⟩
    | .error e =>
      -- Enough was printed already, so even a failure to send the rest is no failure.
      if e.isTimeout then ⟨none, r, [], updated.deeds⟩ else ⟨some (.ok ()), r, [], updated.deeds⟩
  else ⟨some (.ok ()), r, [], []⟩

/-- One turn. -/
def turn (r : ServerRun) (t : ServerTurn) : After :=
  if r.draining then r.drainTurn t else r.serveTurn t

/-- Turns until the run ends or there are no more. -/
def play : List ServerTurn → ServerRun → After
  | [], r => ⟨none, r, [], []⟩
  | t :: ts, r =>
    let first := r.turn t
    match first.ended with
    | some _ => first
    | none =>
      let more := play ts first.run
      { more with shown := first.shown ++ more.shown, deeds := first.deeds ++ more.deeds }

end ServerRun

end LineChat
