import LineChat.Readiness.Event
import LineChat.Readiness.Interest

/-!
# Edge-Triggered Readiness

A poller watches sources and tells of each change once.

A source that has changed waits in a queue until the next wait. A change puts
it there if its interest covers the change, and so do registering it and
changing its interest while something it is interested in holds. A wait takes
the queued sources in order and tells of each everything that holds of it at
that moment; a source of which nothing holds any more is dropped silently. As
many events are told as the caller has room for, and the sources behind them
stay queued. A source that was told of is not told of again before its next
change, whether or not its owner has dealt with it.

A hangup in both directions and an error are told of whatever the interest.

The poller does not know the sources. It names them by keys of some type, and a
wait is given a function that tells what holds of each.

## Main definitions

* `Condition`: What holds of a source.
* `Change`: What sort of change a source has undergone.
* `Poller`: Registrations and the queue of changed sources.
* `Poller.register`, `Poller.reregister`, `Poller.deregister`: Registrations.
* `Poller.notify`: A source has changed.
* `Poller.wait`: The events for the next batch.
-/

namespace LineChat

/-- What holds of a source. -/
structure Condition where
  /-- There is something to read, or the end. -/
  readable : Bool
  /-- There is room to write. -/
  writable : Bool
  /-- The other side sends nothing more. -/
  readClosed : Bool
  /-- Neither side sends any more. -/
  closed : Bool
  /-- The source has failed. -/
  error : Bool
  deriving DecidableEq, Repr

namespace Condition

/-- The event that an interest in a source gives, if anything is to be told. -/
def event? (c : Condition) (token : Nat) (i : Interest) : Option Event :=
  let readable := c.readable && i.reads
  let writable := c.writable && i.writes
  let readClosed := c.readClosed && i.reads
  if readable || writable || readClosed || c.closed || c.error then
    some {
      token := token
      readable := readable
      writable := writable
      hangup := c.closed || (readable && readClosed)
        || (c.error && (writable || !(readable || readClosed)))
      error := c.error }
  else none

end Condition

/-- The sort of change that a source has undergone. -/
inductive Change
  /-- More to read. -/
  | input
  /-- More room to write. -/
  | output
  /-- A direction was closed, or the source failed. -/
  | state
  deriving DecidableEq, Repr

/-- Whether an interest covers a change. -/
def Interest.covers (i : Interest) : Change → Bool
  | .input => i.reads
  | .output => i.writes
  | .state => true

/-- A registered source. -/
structure Watched (κ : Type) where
  /-- The source. -/
  key : κ
  /-- The number under which events tell of it. -/
  token : Nat
  /-- What is to be told. -/
  interest : Interest
  deriving DecidableEq, Repr

/-- Registrations, and the sources that have changed since they were last told
    of. -/
structure Poller (κ : Type) where
  /-- The registered sources. -/
  watched : List (Watched κ)
  /-- The changed ones, the first change first. -/
  queue : List κ
  deriving Repr

namespace Poller

variable {κ : Type} [DecidableEq κ]

/-- A poller without registrations. -/
def empty : Poller κ := ⟨[], []⟩

instance : Inhabited (Poller κ) := ⟨empty⟩

/-- The registration of a source. -/
def find? (p : Poller κ) (key : κ) : Option (Watched κ) := p.watched.find? (·.key = key)

/-- The source waits to be told of; it keeps its place if it did already. -/
def enqueue (p : Poller κ) (key : κ) : Poller κ :=
  if key ∈ p.queue then p else { p with queue := p.queue ++ [key] }

/-- A source of which `now` holds is watched from now on. -/
def register (p : Poller κ) (key : κ) (token : Nat) (interest : Interest) (now : Condition) :
    Except Fault (Poller κ) :=
  match p.find? key with
  | some _ => .error (.errno 17)
  | none =>
    let p := { p with watched := p.watched ++ [⟨key, token, interest⟩] }
    .ok (if (now.event? token interest).isSome then p.enqueue key else p)

/-- The interest in a source of which `now` holds changes. -/
def reregister (p : Poller κ) (key : κ) (token : Nat) (interest : Interest) (now : Condition) :
    Except Fault (Poller κ) :=
  match p.find? key with
  | none => .error (.errno 2)
  | some _ =>
    let p := { p with
      watched := p.watched.map fun w => if w.key = key then ⟨key, token, interest⟩ else w }
    -- A new interest is a change of its own, whatever was told of before.
    .ok (if (now.event? token interest).isSome then p.enqueue key else p)

/-- A source is not watched any more. -/
def deregister (p : Poller κ) (key : κ) : Except Fault (Poller κ) :=
  match p.find? key with
  | none => .error (.errno 2)
  | some _ => .ok ⟨p.watched.filter (·.key ≠ key), p.queue.filter (· ≠ key)⟩

/-- A source has changed. -/
def notify (p : Poller κ) (key : κ) (change : Change) : Poller κ :=
  match p.find? key with
  | none => p
  | some w => if w.interest.covers change then p.enqueue key else p

/-- Takes up to `room` events off a queue of sources: the events, and the
    sources that are left. -/
def collect (p : Poller κ) (holds : κ → Condition) : (room : Nat) → List κ → List Event × List κ
  | _, [] => ([], [])
  | 0, queue => ([], queue)
  | room + 1, key :: queue =>
    match (p.find? key).bind fun w => (holds key).event? w.token w.interest with
    | none => collect p holds (room + 1) queue
    | some e =>
      let (events, left) := collect p holds room queue
      (e :: events, left)

/-- The events of a wait with room for `capacity` of them. Without any room the
    wait fails. -/
def wait (p : Poller κ) (capacity : Nat) (holds : κ → Condition) :
    Except Fault (List Event × Poller κ) :=
  if capacity = 0 then .error .invalidArgument
  else
    let (events, left) := p.collect holds capacity p.queue
    .ok (events, { p with queue := left })

end Poller

end LineChat
