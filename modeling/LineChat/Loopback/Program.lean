import LineChat.Command.ClientRun
import LineChat.Command.ServerRun
import LineChat.Loopback.Scene

/-!
# Commands on a Network

The server command or the client command, run on a network inside the host.

A program is a run together with the network it runs on. It takes turns for as
long as something happens; then it waits, which is all it can do until the
network, standard input or the user has something for it, or until time has
passed. Time is told in two ways only: none has passed, or more than any limit.

When the run ends the program leaves the network, and everything that belonged
to it is closed.

## Main definitions

* `Job`: A run of either command.
* `Program`: A run, its network, and what waits for it.
* `Program.ofCommand`: The program that a command asks for.
* `Program.settle`: Turns until nothing happens any more.
* `Program.outlast`: The same after a long time.
-/

namespace LineChat

/-- A run of a command that works with the network. -/
inductive Job
  | server (run : ServerRun)
  | client (run : ClientRun)

/-- A program on a network. -/
structure Program where
  scene : Scene
  /-- Its run, until that ends. -/
  job : Option Job
  /-- How the run has ended. -/
  ended : Option (Except Failure Unit)
  /-- What standard input has for it. -/
  input : List InputEvent
  /-- The user wants it to end. -/
  interrupted : Bool
  /-- What it has printed. -/
  shown : List Message

namespace Program

/-- The name under which the client of a program is known on its network. -/
def clientName : String := "program"

/-- A program that has ended before its first turn. -/
def failed (scene : Scene) (failure : Failure) : Program :=
  ⟨scene, none, some (.error failure), [], false, []⟩

/-- A program at the start of its run. -/
def started (scene : Scene) (job : Job) : Program := ⟨scene, some job, none, [], false, []⟩

/-- The program of the server command. -/
def ofServer (s : Scene) (o : ServerOptions) : Program :=
  let port? := if o.port = 0 then none else some (UInt16.ofNat o.port)
  match s.network.listen port? false with
  | .error fault =>
    let address := Network.anyAddress (UInt16.ofNat o.port)
    match ServerRun.start o (.error (.bind address fault)) with
    | .error failure => failed s failure
    | .ok r => started s (.server r)
  | .ok (port, network) =>
    match ServerRun.start o (.ok (Network.anyAddress port, [])) with
    | .error failure => failed s failure
    | .ok r =>
      let s := { s with network := network, server := some r.server }
      started (s.watch .server (.listener port) listenerToken .readable) (.server r)

/-- The program of the client command. -/
def ofClient (s : Scene) (o : ClientOptions) : Program :=
  match ClientRun.start o s.dialler with
  | .error failure => failed s failure
  | .ok (r, calls) =>
    match r.client.peerAddress? with
    | none => started s (.client r)
    | some address =>
      let (e, moved) := s.network.dial address.port
      let s := s.move moved
      let s := { s with lines := (clientName, e) :: s.lines }
      started (s.takeClient clientName ⟨.ok (), r.client, calls⟩).2 (.client r)

/-- The program that a command asks for, unless all it does is to tell the
    version. -/
def ofCommand (s : Scene) : Command → Option Program
  | .server o => some (ofServer s o)
  | .client o => some (ofClient s o)
  | .version _ => none

/-- The port that the program listens on. -/
def port? (p : Program) : Option UInt16 :=
  match p.job with
  | some (.server r) => r.server.localAddress?.map (·.port)
  | _ => none

/-- The name under which messages are printed. -/
def origin (p : Program) : String :=
  match p.job with
  | some (.client r) => r.origin
  | _ => serverOrigin

/-- The program leaves the network: its listener and its sockets are closed. -/
def leave (s : Scene) : Scene :=
  let s := s.seats.foldl (fun s seat => s.close seat.2) s
  let s := s.lines.foldl (fun s line => s.close line.2) s
  let s := match s.server.bind Server.localAddress? with
    | none => s
    | some a => s.closeListener a.port
  { s with server := none, clients := [], seats := [], lines := [] }

/-- The program after a turn that has printed `shown`, with the rest of its
    run. -/
def after (p : Program) (s : Scene) (job : Job) (shown : List Message)
    (ended : Option (Except Failure Unit)) : Program :=
  let p := { p with job := some job, ended := ended, shown := p.shown ++ shown }
  match ended with
  | none => { p with scene := s }
  | some _ => { p with scene := leave s }

/-- Whether something has happened in a wait. -/
def happened : WaitAnswer → Bool
  | .ok [] => false
  | _ => true

/-- One turn, `elapsed` after the start: whether anything has happened. -/
def turn (p : Program) (elapsed : Duration) : Bool × Program :=
  match p.job, p.ended with
  | some (.server r), none =>
    let r := { r with server := p.scene.equipServer r.server }
    let (wait, s) := p.scene.wait .server r.server.config.eventCapacity
    let t := r.turn ⟨p.interrupted, elapsed, wait⟩
    let s := (s.takeServer ⟨.ok (), t.run.server, t.deeds⟩).2
    (happened wait || t.ended.isSome, p.after s (.server t.run) t.shown t.ended)
  | some (.client r), none =>
    let r := { r with client := p.scene.equipClient clientName r.client }
    let (wait, s) := p.scene.wait (.client clientName) r.client.config.eventCapacity
    let t := r.turn ⟨p.interrupted, elapsed, .ok (), p.input, wait⟩
    let s := (s.takeClient clientName ⟨.ok (), t.run.client, t.calls⟩).2
    (happened wait || !p.input.isEmpty || t.ended.isSome,
      { p with input := [] }.after s (.client t.run) t.shown t.ended)
  | _, _ => (false, p)

/-- Turns as long as something happens, at most `fuel` of them. -/
def settleFor : (fuel : Nat) → Program → Program
  | 0, p => p
  | fuel + 1, p =>
    let t := p.turn ⟨0⟩
    if t.1 then settleFor fuel t.2 else t.2

/-- Turns until nothing happens any more. -/
def settle (p : Program) : Program := settleFor Scene.pumpRounds p

/-- More time than any limit allows. -/
def longTime : Duration := Duration.ofSeconds wordBound

/-- Turns until nothing happens any more even though a long time passes. -/
def outlast (p : Program) : Program := (p.settle.turn longTime).2.settle

/-- A bare peer reads in turns with the program until it has `size` bytes or
    nothing more comes. -/
def readFor (fuel : Nat) (p : Program) (id : EndId) (size : Nat) (read : ByteArray) :
    ByteArray × Program :=
  match fuel with
  | 0 => (read, p)
  | fuel + 1 =>
    let p := p.settle
    let (data, s) := p.scene.receiveUpTo id (size - read.size)
    let p := { p with scene := s }
    if data.size = 0 then (read, p) else readFor fuel p id size (read ++ data)

/-- A bare peer reads `size` bytes, waiting for a long time if it has to. -/
def read (p : Program) (id : EndId) (size : Nat) : ByteArray × Program :=
  let (data, p) := readFor Scene.pumpRounds p id size ByteArray.empty
  if data.size < size && !p.scene.isOver id then readFor Scene.pumpRounds p.outlast id size data
  else (data, p)

/-- Standard input has more. -/
def give (p : Program) (events : List InputEvent) : Program :=
  { p with input := p.input ++ events }

/-- The user wants the program to end. -/
def interrupt (p : Program) : Program := { p with interrupted := true }

end Program

end LineChat
