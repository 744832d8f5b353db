import LineChat.Address.Ip

/-!
# Socket Addresses

A host's address and a port on it.

The text puts a colon between the two, and brackets around a version 6 address
because it holds colons itself. A scope of such an address that is not zero is
written before the closing bracket, behind a percent sign.

## Main definitions

* `SocketAddress`: An address and a port.
* `SocketAddress.text`: Its standard text.
* `SocketAddress.ofText?`: The socket address of a text in the strict grammar.
-/

namespace LineChat

/-- An address and a port. -/
inductive SocketAddress
  | v4 (ip : Address.Ipv4) (port : UInt16)
  | v6 (ip : Address.Ipv6) (port : UInt16) (scope : UInt32)
  deriving DecidableEq, Repr

namespace SocketAddress

open Address

/-- The port. -/
def port : SocketAddress → UInt16
  | v4 _ p => p
  | v6 _ p _ => p

/-- A host's address together with a port. Only version 6 has scopes. -/
def ofIp (ip : IpAddress) (port : UInt16) (scope : UInt32) : SocketAddress :=
  match ip with
  | .v4 ip => v4 ip port
  | .v6 ip => v6 ip port scope

/-- The standard text. -/
def text : SocketAddress → String
  | v4 ip p => ip.text ++ ":" ++ toString p.toNat
  | v6 ip p scope =>
    let zone := if scope = 0 then "" else "%" ++ toString scope.toNat
    "[" ++ ip.text ++ zone ++ "]:" ++ toString p.toNat

/-- Reads a port: digits, any number of zeros in front. -/
def readPort : Scan UInt16 := fun cs => do
  let (n, cs) ← readNumber 10 cs.length 65536 true cs
  return (UInt16.ofNat n, cs)

/-- Reads the socket address of a version 4 address. -/
def readV4 : Scan SocketAddress := fun cs => do
  let (ip, cs) ← readIpv4 cs
  let (_, cs) ← readChar ':' cs
  let (p, cs) ← readPort cs
  return (v4 ip p, cs)

/-- Reads the scope of a version 6 address, zero if there is none. -/
def readScope : Scan UInt32 := fun cs =>
  match readChar '%' cs with
  | none => some (0, cs)
  | some (_, inner) =>
    match readNumber 10 inner.length 0x100000000 true inner with
    | some (n, rest) => some (UInt32.ofNat n, rest)
    | none => some (0, cs)

/-- Reads the socket address of a version 6 address. -/
def readV6 : Scan SocketAddress := fun cs => do
  let (_, cs) ← readChar '[' cs
  let (ip, cs) ← readIpv6 cs
  let (scope, cs) ← readScope cs
  let (_, cs) ← readChar ']' cs
  let (_, cs) ← readChar ':' cs
  let (p, cs) ← readPort cs
  return (v6 ip p scope, cs)

/-- The socket address of a text. -/
def ofText? (s : String) : Option SocketAddress :=
  match readV4 s.toList with
  | some (a, []) => some a
  | _ =>
    match readV6 s.toList with
    | some (a, []) => some a
    | _ => none

end SocketAddress

end LineChat
