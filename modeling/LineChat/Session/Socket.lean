import LineChat.Line.Reader
import LineChat.Readiness.Interest

/-!
# Sockets

A socket as its owner sees it: a source of answers to calls.

The answers that the coming calls will get are part of the socket, in order,
one list for each sort of call. So a run is determined by the state it starts
from, and a law that holds for every socket holds whatever the system answers.
A list that is used up means that nothing more can be read or written for now,
and that registrations succeed.

Every call that an owner makes is recorded with its answer. What has been sent
to a socket or received from it, and for what it is registered, is read off
that record, `SocketCall`, and nowhere else.

## Main definitions

* `Socket`: The answers to the coming calls.
* `SocketCall`: A call and its answer.
* `Registration`: An interest that is registered for a socket.
* `Registration.setInterest`: Changes it, if it has to change.
* `receivedBytes`, `sentBytes`: What a record of calls says was transferred.
* `registeredInterest?`: What a record of calls says is registered.

## Theorems

* `sentBytes_append`, `receivedBytes_append`: Records add up.
* `Registration.setInterest_cases`: The three ways in which asking can end.
-/

namespace LineChat

/-- The answers that the coming calls on a socket will get. -/
structure Socket where
  /-- What is read: bytes, none at the end of the stream, or a fault. -/
  reads : List ReadAnswer
  /-- How many of the offered bytes are taken, or a fault. -/
  writes : List (Except Fault Nat)
  /-- Whether registering an interest succeeds. -/
  watches : List (Except Fault Unit)
  /-- The fault that the socket itself remembers. -/
  remembered : Option Fault

/-- A call on a socket, with its answer. -/
inductive SocketCall
  /-- Bytes were asked for. -/
  | read (answer : ReadAnswer)
  /-- Bytes were offered; the answer counts those that were taken. -/
  | write (offered : ByteArray) (answer : Except Fault Nat)
  /-- An interest was registered, for the first time or in place of another. -/
  | watch (interest : Interest) (answer : Except Fault Unit)
  /-- The registration was given up. -/
  | unwatch

namespace SocketCall

/-- The bytes that a call brought in. -/
def received : SocketCall → ByteArray
  | read (.ok data) => data
  | _ => ByteArray.empty

/-- The bytes that a call took out. -/
def sent : SocketCall → ByteArray
  | write offered (.ok n) => offered.extract 0 n
  | _ => ByteArray.empty

end SocketCall

/-- The bytes that a record of calls brought in. -/
def receivedBytes : List SocketCall → ByteArray
  | [] => ByteArray.empty
  | c :: calls => c.received ++ receivedBytes calls

/-- The bytes that a record of calls took out. -/
def sentBytes : List SocketCall → ByteArray
  | [] => ByteArray.empty
  | c :: calls => c.sent ++ sentBytes calls

/-- The interest registered after a record of calls, if `before` was registered
    before it. -/
def registeredInterest? (before : Option Interest) : List SocketCall → Option Interest
  | [] => before
  | .watch interest (.ok ()) :: calls => registeredInterest? (some interest) calls
  | .unwatch :: calls => registeredInterest? none calls
  | _ :: calls => registeredInterest? before calls

theorem receivedBytes_append (a b : List SocketCall) :
    receivedBytes (a ++ b) = receivedBytes a ++ receivedBytes b := by
  induction a with
  | nil => simp [receivedBytes]
  | cons c a ih => simp [receivedBytes, ih, ByteArray.append_assoc]

theorem sentBytes_append (a b : List SocketCall) :
    sentBytes (a ++ b) = sentBytes a ++ sentBytes b := by
  induction a with
  | nil => simp [sentBytes]
  | cons c a ih => simp [sentBytes, ih, ByteArray.append_assoc]

namespace Socket

/-- A socket whose calls all give up at once. -/
def idle : Socket := ⟨[], [], [], none⟩

instance : Inhabited Socket := ⟨idle⟩

/-- Registers an interest. -/
def watch (s : Socket) : Except Fault Unit × Socket :=
  match s.watches with
  | [] => (.ok (), s)
  | answer :: later => (answer, { s with watches := later })

end Socket

/-- An interest that is registered for a socket. -/
structure Registration where
  /-- The number under which events tell of the socket. -/
  token : Nat
  /-- The interest that was registered last. -/
  interest : Interest
  deriving DecidableEq, Repr

/-- The result of asking for another interest. -/
structure InterestChange where
  /-- Whether the registration changed, or why it could not. -/
  answer : Except Fault Bool
  registration : Registration
  socket : Socket
  calls : List SocketCall

namespace Registration

/-- Asks for an interest. The system is only told if it is not the registered
    one, and the registration remembers it only if the system agrees. -/
def setInterest (r : Registration) (s : Socket) (interest : Interest) : InterestChange :=
  if r.interest = interest then ⟨.ok false, r, s, []⟩
  else
    let call := s.watch
    let record := [SocketCall.watch interest call.1]
    match call.1 with
    | .error fault => ⟨.error fault, r, call.2, record⟩
    | .ok () => ⟨.ok true, { r with interest := interest }, call.2, record⟩

/-- The system need not be told, it agrees, or it refuses. -/
theorem setInterest_cases (r : Registration) (s : Socket) (interest : Interest) :
    (r.interest = interest ∧ r.setInterest s interest = ⟨.ok false, r, s, []⟩) ∨
      (r.interest ≠ interest ∧ s.watch.1 = .ok () ∧ r.setInterest s interest
        = ⟨.ok true, { r with interest := interest }, s.watch.2, [.watch interest (.ok ())]⟩) ∨
      (∃ fault, r.interest ≠ interest ∧ s.watch.1 = .error fault ∧ r.setInterest s interest
        = ⟨.error fault, r, s.watch.2, [.watch interest (.error fault)]⟩) := by
  unfold setInterest
  by_cases hsame : r.interest = interest
  · exact Or.inl ⟨hsame, if_pos hsame⟩
  · right
    rw [if_neg hsame]
    cases hanswer : s.watch.1 with
    | ok => exact Or.inl ⟨hsame, rfl, by simp only [hanswer]⟩
    | error fault => exact Or.inr ⟨fault, hsame, rfl, by simp only [hanswer]⟩

end Registration

end LineChat
