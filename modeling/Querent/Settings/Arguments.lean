import Querent.Decimal.Whole
import Querent.Log.Event
import Querent.Sql.Dialect

/-!
# Command line

The options of the program.  An option takes a value, which follows it as the next argument or is
attached to it; the value of an option is looked at only when the next option comes or the arguments
end.  The first thing that is wrong ends the reading, and so does a wish for help or for the version.
-/

namespace Querent

/-- An option that takes a value. -/
inductive CommandOption where
  | config
  | host
  | port
  | database
  | dialect
  | logFormat
  deriving DecidableEq, Repr

/-- An option that takes no value. -/
inductive CommandFlag where
  | help
  | version
  deriving DecidableEq, Repr

namespace CommandOption

/-- All options. -/
def all : List CommandOption :=
  [config, host, port, database, dialect, logFormat]

/-- The name of an option. -/
def name : CommandOption → String
  | config => "config"
  | host => "host"
  | port => "port"
  | database => "database"
  | dialect => "dialect"
  | logFormat => "log-format"

/-- The letter of an option, if it has one. -/
def letter? : CommandOption → Option Char
  | config => some 'c'
  | port => some 'p'
  | database => some 'd'
  | host | dialect | logFormat => none

/-- What the value of an option is called. -/
def valueName : CommandOption → String
  | config => "FILE"
  | host => "HOST"
  | port => "PORT"
  | database => "PATH"
  | dialect => "DIALECT"
  | logFormat => "LOG_FORMAT"

/-- How an option is shown. -/
def shown (option : CommandOption) : String :=
  "--" ++ option.name ++ " <" ++ option.valueName ++ ">"

end CommandOption

/-- The name of an option without a value. -/
def CommandFlag.name : CommandFlag → String
  | help => "help"
  | version => "version"

/-- Why the reading of arguments ended early. -/
inductive ArgumentError where
  | unexpected (argument : String)
  | missingValue (option : CommandOption)
  | noSuchChoice (option : CommandOption) (value : String)
  | invalidValue (option : CommandOption) (value reason : String)
  | repeated (option : CommandOption)
  | uncalledValue (flag : CommandFlag) (value : String)
  | wish (flag : CommandFlag)
  deriving DecidableEq, Repr

/-- The name and the version of the program. -/
def programVersion : String := "nl-analyst 0.1.0"

/-- How the program is called. -/
def programUsage : String := "Usage: nl-analyst [OPTIONS]"

/-- The wording of an error, of which only the first line is kept. -/
def ArgumentError.message (error : ArgumentError) : String :=
  String.ofList (text.toList.takeWhile fun c => c != '\n')
where
  /-- The whole wording. -/
  text : String :=
    match error with
    | unexpected argument => "error: unexpected argument '" ++ argument ++ "' found"
    | missingValue option =>
      "error: a value is required for '" ++ option.shown ++ "' but none was supplied"
    | noSuchChoice option value =>
      "error: invalid value '" ++ value ++ "' for '" ++ option.shown ++ "'"
    | invalidValue option value reason =>
      "error: invalid value '" ++ value ++ "' for '" ++ option.shown ++ "': " ++ reason
    | repeated option => "error: the argument '" ++ option.shown ++ "' cannot be used multiple times"
    | uncalledValue flag value =>
      "error: unexpected value '" ++ value ++ "' for '--" ++ flag.name ++
        "' found; no more were expected"
    | wish .help => programUsage
    | wish .version => programVersion

/-- What the arguments ask for. -/
structure Arguments where
  config : Option String
  host : Option String
  port : Option Nat
  database : Option String
  dialect : Option Sql.Dialect
  logFormat : Option Log.Format
  deriving DecidableEq, Repr

namespace Arguments

/-- No arguments at all. -/
def empty : Arguments :=
  ⟨none, none, none, none, none, none⟩

/-- The way to write log entries, which is text unless something else is asked for. -/
def logFormatOrText (arguments : Arguments) : Log.Format :=
  arguments.logFormat.getD .text

/-- The number of a port. -/
def readPort (text : String) : Except String Nat := do
  let value ← (Decimal.readSigned text).mapError Decimal.WholeError.message
  if 0 ≤ value && value ≤ 65535 then return value.toNat
  else throw (toString value ++ " is not in 0..=65535")

/-- Whether an option was given. -/
def has (arguments : Arguments) : CommandOption → Bool
  | .config => arguments.config.isSome
  | .host => arguments.host.isSome
  | .port => arguments.port.isSome
  | .database => arguments.database.isSome
  | .dialect => arguments.dialect.isSome
  | .logFormat => arguments.logFormat.isSome

/-- Gives a value to an option. -/
def put (arguments : Arguments) (option : CommandOption) (value : String) :
    Except ArgumentError Arguments :=
  match option with
  | .config =>
    if value.isEmpty then .error (.missingValue .config)
    else .ok { arguments with config := some value }
  | .host => .ok { arguments with host := some value }
  | .port =>
    match readPort value with
    | .ok port => .ok { arguments with port := some port }
    | .error reason => .error (.invalidValue .port value reason)
  | .database => .ok { arguments with database := some value }
  | .dialect =>
    match Sql.Dialect.ofName value with
    | .ok dialect => .ok { arguments with dialect := some dialect }
    | .error reason => .error (.invalidValue .dialect value reason)
  | .logFormat =>
    match value with
    | "text" => .ok { arguments with logFormat := some .text }
    | "json" => .ok { arguments with logFormat := some .json }
    | "" => .error (.missingValue .logFormat)
    | _ => .error (.noSuchChoice .logFormat value)

/-- The last option that was read and, once it has been read, its value. -/
structure Pending where
  option : CommandOption
  value : Option String
  deriving DecidableEq, Repr

/-- What is known in the middle of the arguments. -/
structure Progress where
  arguments : Arguments
  pending : Option Pending

/-- Gives a value to an option that was not given before. -/
def give (arguments : Arguments) (option : CommandOption) (value : String) :
    Except ArgumentError Arguments :=
  if arguments.has option then .error (.repeated option) else arguments.put option value

/-- The arguments so far, once the value of the last option has been looked at. -/
def settled (progress : Progress) : Except ArgumentError Arguments :=
  match progress.pending with
  | none => .ok progress.arguments
  | some ⟨option, none⟩ => .error (.missingValue option)
  | some ⟨option, some value⟩ => progress.arguments.give option value

/-- Starts an option, whose value may be attached. -/
def startOption (progress : Progress) (option : CommandOption) (attached : Option String) :
    Except ArgumentError Progress := do
  let arguments ← settled progress
  match attached with
  | some value => return ⟨← arguments.give option value, none⟩
  | none => return ⟨arguments, some ⟨option, none⟩⟩

/-- Fulfils a wish, which ends the reading. -/
def startFlag (progress : Progress) (flag : CommandFlag) : Except ArgumentError Progress := do
  discard (settled progress)
  throw (.wish flag)

/-- An argument that starts with two hyphens. -/
def readLong (progress : Progress) (text : List Char) : Except ArgumentError Progress :=
  let name := String.ofList (text.takeWhile (· != '='))
  let attached :=
    if text.contains '=' then some (String.ofList ((text.dropWhile (· != '=')).drop 1)) else none
  match CommandOption.all.find? fun option => option.name == name, name, attached with
  | some option, _, attached => startOption progress option attached
  | none, "help", none => startFlag progress .help
  | none, "version", none => startFlag progress .version
  | none, "help", some value => .error (.uncalledValue .help value)
  | none, "version", some value => .error (.uncalledValue .version value)
  | none, name, _ => .error (.unexpected ("--" ++ name))

/-- An argument that starts with one hyphen: a letter and perhaps a value. -/
def readShort (progress : Progress) (letter : Char) (rest : List Char) :
    Except ArgumentError Progress :=
  match CommandOption.all.find? fun option => option.letter? == some letter, letter with
  | some option, _ =>
    let attached : Option String := match rest with
      | [] => none
      | '=' :: value => some (String.ofList value)
      | value => some (String.ofList value)
    startOption progress option attached
  | none, 'h' => startFlag progress .help
  | none, 'V' => startFlag progress .version
  | none, letter => .error (.unexpected ("-" ++ String.singleton letter))

/-- An argument that is no option: the value that an option waits for. -/
def readValue (progress : Progress) (text : String) : Except ArgumentError Progress :=
  match progress.pending with
  | some ⟨option, none⟩ => .ok { progress with pending := some ⟨option, some text⟩ }
  | _ => .error (.unexpected text)

/-- An argument. -/
def readArgument (progress : Progress) (text : String) : Except ArgumentError Progress :=
  match text.toList with
  | '-' :: '-' :: rest => readLong progress rest
  | '-' :: letter :: rest => readShort progress letter rest
  | _ => readValue progress text

/-- The rest of the arguments; after two hyphens alone nothing may follow. -/
def readFrom (progress : Progress) : List String → Except ArgumentError Arguments
  | [] => settled progress
  | "--" :: rest =>
    match rest with
    | [] => settled progress
    | extra :: _ => .error (.unexpected extra)
  | text :: rest => do readFrom (← readArgument progress text) rest

/-- What the arguments after the name of the program ask for. -/
def read (arguments : List String) : Except ArgumentError Arguments :=
  readFrom ⟨empty, none⟩ arguments

/-- Without arguments nothing is asked for. -/
@[simp]
theorem read_nil : read [] = .ok empty := rfl

end Arguments

end Querent
