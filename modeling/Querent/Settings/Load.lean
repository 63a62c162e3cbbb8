import Querent.Settings.Reading

/-!
# Loading settings

The settings of the program from all their layers.  Of the lowest there is one file at most: the one
that the arguments name, or else the first of some fixed places that is there.  The environment is
laid over the file, and the arguments come last.
-/

namespace Querent

/-- Files with their paths, which are given from the place where the program runs or from the root. -/
abbrev Files := List (String × String)

namespace Files

/-- The steps of a path, without those that lead nowhere. -/
def plainSteps (path : String) : List (List Char) :=
  (path.toList.splitOn '/').filter fun step => !step.isEmpty && step != ['.']

/-- Whether a path starts at the root. -/
def isAbsolute (path : String) : Bool :=
  path.toList.head? == some '/'

/-- The steps of a path, where a step back undoes the one before it. -/
def resolved (steps : List (List Char)) : List (List Char) :=
  (steps.foldl (fun back step => if step == ['.', '.'] then back.drop 1 else step :: back)
    []).reverse

/-- A path of steps that starts where another path starts. -/
def joinSteps (path : String) (steps : List (List Char)) : String :=
  (if isAbsolute path then "/" else "") ++ String.ofList (['/'].intercalate steps)

/-- A path without steps that lead nowhere. -/
def plainPath (path : String) : String :=
  joinSteps path (plainSteps path)

/-- The path under which a file is kept. -/
def normalPath (path : String) : String :=
  joinSteps path (resolved (plainSteps path))

/-- The text of the file on a path. -/
def find? (files : Files) (path : String) : Option String :=
  files.lookup (normalPath path)

/-- Whether there is a file or a folder with files on a path. -/
def isPresent (files : Files) (path : String) : Bool :=
  (files.find? path).isSome ||
    files.any fun file => (normalPath path ++ "/").toList.isPrefixOf file.1.toList

/-- The ending of the name of a file, after the last point that does not stand at the start. -/
def ending (path : String) : List Char :=
  let name := (plainSteps path).getLastD []
  let after := name.reverse.takeWhile (· != '.')
  if after.length + 1 < name.length then after.reverse else []

/-- The form of a file, told by the ending of its name. -/
def format? (path : String) : Option FileFormat :=
  FileFormat.endings.lookup (String.ofList (ending path))

end Files

namespace Settings

/-- The places in which a file with settings is looked for, if none is named. -/
def usualFiles : List String :=
  ["config.toml", "config/config.toml", "/etc/nl-analyst/config.toml"]

/-- A file with settings: its path, its form and its text. -/
structure SettingsFile where
  path : String
  format : FileFormat
  text : String

/-- The paths that a name may stand for if there is no file of that very name, and their forms. -/
def extendedPaths (name : String) : List (String × FileFormat) :=
  FileFormat.endings.map fun (ending, format) => (Files.plainPath name ++ "." ++ ending, format)

/-- The file with a name, to which a known ending may be added. -/
def namedFile (files : Files) (name : String) : Except SettingsError SettingsFile :=
  match files.find? name with
  | some text =>
    match Files.format? name with
    | some format => .ok ⟨name, format, text⟩
    | none => .error (.unknownFormat name)
  | none =>
    let found := (extendedPaths name).findSome? fun (path, format) =>
      (files.find? path).map fun text => SettingsFile.mk path format text
    match found with
    | some file => .ok file
    | none => .error (.missingFile name)

/-- The file in a usual place, to which its ending is added again if a folder is in its place. -/
def usualFile (files : Files) (path : String) : Except SettingsError SettingsFile :=
  match files.find? path with
  | some text => .ok ⟨path, .toml, text⟩
  | none =>
    let longer := Files.plainPath path ++ ".toml"
    match files.find? longer with
    | some text => .ok ⟨longer, .toml, text⟩
    | none => .error (.missingFile path)

/-- The file with settings, if there is one. -/
def chosenFile (files : Files) (named : Option String) :
    Except SettingsError (Option SettingsFile) :=
  match named with
  | some name => some <$> namedFile files name
  | none =>
    match usualFiles.find? files.isPresent with
    | some path => some <$> usualFile files path
    | none => .ok none

/-- The paths of all files that may hold settings. -/
def possiblePaths (named : Option String) : List String :=
  match named with
  | some name => name :: (extendedPaths name).map Prod.fst
  | none => usualFiles

/-- The settings in a file. -/
def fileLayer : Option SettingsFile → Except SettingsError SettingLayer
  | none => .ok []
  | some file =>
    let source := SettingSource.file (Files.plainPath file.path)
    match SettingLayer.ofText file.format source file.text with
    | some layer => .ok layer
    | none => .error (.unreadableFile file.path)

/-- The settings of the program. -/
def load (files : Files) (environment : List (String × String)) (arguments : Arguments) :
    Except SettingsError Settings := do
  let file ← fileLayer (← chosenFile files arguments.config)
  let tree := (SettingTree.empty.withLayer file).withLayer (SettingLayer.ofVariables environment)
  let settings := (← ofTree tree).overridden arguments
  if settings.assistant.maxAttempts == 0 then throw .noAttempts else return settings

end Settings

end Querent
