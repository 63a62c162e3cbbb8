import Querent.Startup

/-!
# Command line

The program as it is started: it gathers its variables and the files that may hold settings, starts
up, and writes what comes of it.  The opening of the database is left to an engine.
-/

namespace Querent

/-- The variables of the process, each with its name. -/
def processVariables : IO (List (String × String)) := do
  let bytes ← IO.FS.readBinFile "/proc/self/environ"
  let text := (String.fromUTF8? bytes).getD ""
  return (text.toList.splitOn '\x00').filterMap fun entry =>
    let name := entry.takeWhile (· != '=')
    if name.isEmpty || name.length == entry.length then none
    else some (String.ofList name, String.ofList (entry.drop (name.length + 1)))

/-- The file on a path, if it can be read. -/
def readIfPresent (path : String) : IO (Option (String × String)) := do
  try
    let text ← IO.FS.readFile path
    return some (Files.normalPath path, text)
  catch _ => return none

/-- The files that may hold settings and are there. -/
def presentFiles (words : List String) : IO Files := do
  let named := (Arguments.read words).toOption.bind (·.config)
  (Settings.possiblePaths named).filterMapM readIfPresent

end Querent

open Querent in
/-- Starts the program with the arguments after its name. -/
def main (words : List String) : IO UInt32 := do
  let startup := Startup.run words (← presentFiles words) (← processVariables)
  for entry in startup.entries do
    IO.println (match entry with
      | .string text => text
      | document => document.render)
  if let some text := startup.ending.output? then IO.println text
  if let some text := startup.ending.complaint? then IO.eprintln text
  return UInt32.ofNat (startup.ending.exitCode?.getD 0)
