import Querent.Json.Printer

/-!
# Log entries

What the program reports while it works: events with a level, a source, a message and perhaps some
fields.  An event is written as a line of text or as a document.
-/

namespace Querent.Log

/-- How important an event is. -/
inductive Level where
  | error
  | warn
  | info
  | debug
  | trace
  deriving DecidableEq, Repr

/-- The name of a level. -/
def Level.name : Level → String
  | error => "ERROR"
  | warn => "WARN"
  | info => "INFO"
  | debug => "DEBUG"
  | trace => "TRACE"

/-- How much detail a level stands for. -/
def Level.detail : Level → Nat
  | error => 1
  | warn => 2
  | info => 3
  | debug => 4
  | trace => 5

/-- Something that is reported. -/
structure Event where
  level : Level
  source : String
  message : String
  fields : List (String × String)
  deriving DecidableEq, Repr

/-- An event with nothing but a message. -/
def event (level : Level) (source message : String) : Event :=
  ⟨level, source, message, []⟩

/-- How entries are written. -/
inductive Format where
  | text
  | json
  deriving DecidableEq, Repr

/-- The name of a way to write entries. -/
def Format.name : Format → String
  | text => "text"
  | json => "json"

/-- A character of a message; one that could steer a terminal is written by its code. -/
def shownChar (c : Char) : List Char :=
  let code := c.toNat
  if code == 0x1b then "\\x1b".toList
  else if code == 0x07 then "\\x07".toList
  else if code == 0x08 then "\\x08".toList
  else if code == 0x0c then "\\x0c".toList
  else if code == 0x7f then "\\x7f".toList
  else if 0x80 ≤ code && code ≤ 0x9f then "\\u\x7b".toList ++ Nat.toDigits 16 code ++ ['\x7d']
  else [c]

/-- An event as text, less the time at which it was reported. -/
def Event.text (event : Event) : String :=
  event.level.name ++ " " ++ event.source ++ ": " ++
    String.ofList (event.message.toList.flatMap shownChar) ++
    String.join (event.fields.map fun (name, value) => " " ++ name ++ "=" ++ value)

/-- An event as a document, less the time at which it was reported. -/
def Event.json (event : Event) : Json :=
  .ofFields ([("level", .string event.level.name), ("target", .string event.source),
    ("message", .string event.message)] ++
    event.fields.map fun (name, value) => (name, .string value))

/-- An event in a format. -/
def Event.entry (format : Format) (event : Event) : Json :=
  match format with
  | .text => .string event.text
  | .json => event.json

/-- Work that reports events. -/
abbrev Logged := StateM (List Event)

/-- Reports an event. -/
def note (level : Level) (source message : String) : Logged Unit :=
  modify (· ++ [event level source message])

/-- The result of work and the events that it reported. -/
def Logged.result {α : Type} (work : Logged α) : α × List Event :=
  work.run []

end Querent.Log
