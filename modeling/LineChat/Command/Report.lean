import LineChat.Line.Encoding
import LineChat.Text.Json
import LineChat.Text.Lossy
import LineChat.Text.Table

/-!
# Printing Received Messages

How a received message is shown on standard output.

There are four formats: a JSON object, a boxed table, the text behind its
origin in brackets, and the bare text. Each ends with a newline. A message
that is not text is shown with replacement characters; its size is always that
of its bytes. Only the JSON object tells the time of printing.

## Main definitions

* `OutputFormat`: The four formats.
* `Message.text`: A message as text.
* `report`: What is printed for a message.
-/

namespace LineChat

/-- How received messages are shown. -/
inductive OutputFormat
  | json
  | table
  | pretty
  | raw
  deriving DecidableEq, Repr

namespace OutputFormat

/-- Every format, in the order in which they are offered. -/
def all : List OutputFormat := [json, table, pretty, raw]

/-- The name by which a format is chosen. -/
def name : OutputFormat → String
  | json => "json"
  | table => "table"
  | pretty => "pretty"
  | raw => "raw"

/-- The format of a name. -/
def ofName? (s : String) : Option OutputFormat := all.find? (·.name == s)

end OutputFormat

/-- The message as text, with replacement characters where it is none. -/
def Message.text (m : Message) : String := Text.lossy m.bytes

/-- A message in a format, without the newline at the end. -/
def reportLine (format : OutputFormat) (origin time : String) (m : Message) : String :=
  match format with
  | .json => Text.jsonObject [
      ("origin", .text origin), ("size", .count m.size),
      ("message", .text m.text), ("timestamp", .text time)]
  | .table => Text.drawTable ["FROM", "SIZE", "MESSAGE"] [origin, toString m.size, m.text]
  | .pretty => "[" ++ origin ++ "] " ++ m.text
  | .raw => m.text

/-- What is printed for a message that came from `origin` at `time`. -/
def report (format : OutputFormat) (origin time : String) (m : Message) : String :=
  reportLine format origin time m ++ "\n"

end LineChat
