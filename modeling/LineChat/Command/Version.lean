import LineChat.Command.Options
import LineChat.Session.Connection

/-!
# The Version Command

What the version command prints.

## Main definitions

* `Platform`: Where the program was built for.
* `versionText`: What is printed.
-/

namespace LineChat

/-- The name under which the program is installed. -/
def programName : String := "chatprims"

/-- The version of the program. -/
def programVersion : String := "0.1.0"

/-- What a program was built for. -/
structure Platform where
  target : String
  os : String
  arch : String
  deriving DecidableEq, Repr

/-- The name and version in one line, or all that is known of the program. -/
def versionText (extended : Bool) (p : Platform) : String :=
  if extended then
    "name: " ++ programName ++ "\n"
      ++ "version: " ++ programVersion ++ "\n"
      ++ "build_target: " ++ p.target ++ "\n"
      ++ "target_os: " ++ p.os ++ "\n"
      ++ "target_arch: " ++ p.arch ++ "\n"
      ++ "features: peer=true, cli=true\n"
      ++ "defaults: max_peers=" ++ toString defaultMaxPeers
      ++ ", max_buffer=" ++ toString defaultLimit
      ++ ", read_chunk=" ++ toString connectionChunk ++ "\n"
  else programName ++ " " ++ programVersion ++ "\n"

end LineChat
