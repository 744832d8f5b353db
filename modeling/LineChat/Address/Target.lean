import LineChat.Address.Socket
import LineChat.Fault
import LineChat.Text.Quoted

/-!
# Connection Targets

From what a user gives as the place to connect to, to socket addresses.

A target is a host and a port with a colon between them. The last colon of the
text is that one, so a version 6 address may stand there without brackets. A
target that is a socket address in the strict grammar stands for itself. Any
other host is first taken as a number, and only then looked up by name. Looking
up names is a parameter: it is the business of the system, and the laws here
hold however it answers.

## Main definitions

* `LinkError`: Failures to set up or watch a connection.
* `Directory`: A way of looking up host names.
* `cutAtLast`: A text before and behind the last occurrence of a character.
* `resolve`: The socket addresses of a target.

## Theorems

* `resolve_error`: The only failure is a bad address with the target in it.
-/

namespace LineChat

/-- Failures to set up or watch a connection. -/
inductive LinkError
  /-- Nothing can listen on the address. -/
  | bind (address : SocketAddress) (fault : Fault)
  /-- A connection to the address cannot be started. -/
  | connect (address : SocketAddress) (fault : Fault)
  /-- The target is no address. -/
  | badAddress (target reason : String)
  /-- The listener failed. -/
  | accept (fault : Fault)
  /-- Waiting for readiness failed. -/
  | poll (fault : Fault)
  /-- A call on a socket failed. -/
  | io (fault : Fault)
  deriving DecidableEq, Repr

namespace LinkError

/-- What a failure says. -/
def message : LinkError → String
  | bind address fault => "failed to bind to " ++ address.text ++ ": " ++ fault.message
  | connect address fault => "failed to connect to " ++ address.text ++ ": " ++ fault.message
  | badAddress target reason => "bad address " ++ Text.quoted target ++ ": " ++ reason
  | accept fault => "failed to accept connection: " ++ fault.message
  | poll fault => "poller error: " ++ fault.message
  | io fault => "transport I/O error: " ++ fault.message

/-- The fault of the system behind a failure, if there is one. -/
def fault? : LinkError → Option Fault
  | bind _ fault => some fault
  | connect _ fault => some fault
  | badAddress _ _ => none
  | accept fault => some fault
  | poll fault => some fault
  | io fault => some fault

end LinkError

/-- Looks up a host name: its addresses, or why there are none. -/
abbrev Directory := String → Except String (List Address.IpAddress)

/-- A directory that knows no name. -/
def Directory.none : Directory := fun _ =>
  .error "failed to lookup address information: Name or service not known"

/-- A list of characters before and behind the last occurrence of `c`. -/
def cutAtLast (c : Char) : List Char → Option (List Char × List Char)
  | [] => none
  | x :: rest =>
    match cutAtLast c rest with
    | some (before, behind) => some (x :: before, behind)
    | none => if x = c then some ([], rest) else none

/-- The socket addresses of a target, of which there is at least one. -/
def resolve (names : Directory) (target : String) : Except LinkError (List SocketAddress) :=
  match cutAtLast ':' target.toList with
  | none => .error (.badAddress target "expected host:port")
  | some (host, port) =>
    if host.isEmpty then .error (.badAddress target "missing host")
    else
      match Text.unsigned? 65536 port with
      | none => .error (.badAddress target "invalid port")
      | some p =>
        match SocketAddress.ofText? target with
        | some address => .ok [address]
        | none =>
          -- A look-up takes a name that ends at its first NUL, so none may be in it.
          if '\x00' ∈ host then
            .error (.badAddress target "file name contained an unexpected NUL byte")
          else
            let host := String.ofList host
            match Address.numericHost? host with
            | some (ip, scope) => .ok [SocketAddress.ofIp ip (UInt16.ofNat p) scope]
            | none =>
              match names host with
              | .error reason => .error (.badAddress target reason)
              | .ok [] => .error (.badAddress target "no addresses found")
              | .ok ips => .ok (ips.map fun ip => SocketAddress.ofIp ip (UInt16.ofNat p) 0)

theorem resolve_error {names : Directory} {target : String} {e : LinkError}
    (h : resolve names target = .error e) : ∃ reason, e = .badAddress target reason := by
  simp only [resolve] at h
  -- The branches that give addresses contradict `h`; each of the others names its reason.
  repeat' split at h
  all_goals simp only [Except.error.injEq, reduceCtorEq] at h
  all_goals exact ⟨_, h.symm⟩

end LineChat
