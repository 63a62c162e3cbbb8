import Querent.Proofs.Settings.Keys

/-!
# The file with settings

Which of the files is the one with settings.  A name that is given stands for the file of that name or,
if there is none, for the first one whose name is longer by a known ending.  Without a name the file is
looked for in the usual places, and the first place where anything is decides.
-/

namespace Querent

/-- The file with settings among files: the one with a name, or else the one in the first usual place
where anything is. -/
inductive Chosen (files : Files) : Option String → Option Settings.SettingsFile → Prop where
  | named {name : String} {format : FileFormat} {text : String} (found : files.find? name = some text)
    (known : Files.format? name = some format) : Chosen files (some name) (some ⟨name, format, text⟩)
  /-- The name lacks its ending. -/
  | extended {name path : String} {format : FileFormat} {text : String}
    {before after : List (String × FileFormat)} (missing : files.find? name = none)
    (paths : Settings.extendedPaths name = before ++ (path, format) :: after)
    (earlier : ∀ place ∈ before, files.find? place.1 = none) (found : files.find? path = some text) :
    Chosen files (some name) (some ⟨path, format, text⟩)
  | usual {path text : String} {before after : List String}
    (places : Settings.usualFiles = before ++ path :: after)
    (earlier : ∀ place ∈ before, files.isPresent place = false)
    (found : files.find? path = some text) : Chosen files none (some ⟨path, .toml, text⟩)
  /-- A folder stands in the place of the file. -/
  | besideFolder {path text : String} {before after : List String}
    (places : Settings.usualFiles = before ++ path :: after)
    (earlier : ∀ place ∈ before, files.isPresent place = false) (folder : files.isPresent path = true)
    (missing : files.find? path = none)
    (found : files.find? (Files.plainPath path ++ ".toml") = some text) :
    Chosen files none (some ⟨Files.plainPath path ++ ".toml", .toml, text⟩)
  | nowhere (all : ∀ place ∈ Settings.usualFiles, files.isPresent place = false) :
    Chosen files none none

theorem chosen_of_namedFile {files : Files} {name : String} {file : Settings.SettingsFile}
    (named : Settings.namedFile files name = .ok file) : Chosen files (some name) (some file) := by
  unfold Settings.namedFile at named
  cases found : files.find? name with
  | some text =>
    rw [found] at named
    cases known : Files.format? name with
    | none => simp [known] at named
    | some format =>
      simp only [known, Except.ok.injEq] at named
      subst named
      exact .named found known
  | none =>
    simp only [found] at named
    split at named
    next longer first =>
      obtain ⟨before, ⟨path, format⟩, after, paths, here, earlier⟩ :=
        List.findSome?_eq_some_iff.1 first
      obtain ⟨text, there, rfl⟩ := Option.map_eq_some_iff.1 here
      cases named
      exact .extended found paths (fun place member => Option.map_eq_none_iff.1 (earlier place member))
        there
    next => cases named

theorem chosen_of_usualFile {files : Files} {path : String} {file : Settings.SettingsFile}
    (first : Settings.usualFiles.find? files.isPresent = some path)
    (usual : Settings.usualFile files path = .ok file) : Chosen files none (some file) := by
  obtain ⟨folder, before, after, places, absent⟩ := List.find?_eq_some_iff_append.1 first
  have earlier : ∀ place ∈ before, files.isPresent place = false := fun place member =>
    Bool.not_eq_true' _ ▸ absent place member
  unfold Settings.usualFile at usual
  cases here : files.find? path with
  | some text =>
    rw [here] at usual
    cases usual
    exact .usual places earlier here
  | none =>
    simp only [here] at usual
    split at usual
    next text found =>
      cases usual
      exact .besideFolder places earlier folder here found
    next => cases usual

theorem chosen_of_chosenFile {files : Files} {named : Option String}
    {file : Option Settings.SettingsFile} (chosen : Settings.chosenFile files named = .ok file) :
    Chosen files named file := by
  cases named with
  | some name =>
    obtain ⟨found, read, ⟨⟩⟩ := SettingsError.bind_eq_ok chosen
    exact chosen_of_namedFile read
  | none =>
    unfold Settings.chosenFile at chosen
    cases first : Settings.usualFiles.find? files.isPresent with
    | some path =>
      simp only [first] at chosen
      obtain ⟨found, read, ⟨⟩⟩ := SettingsError.bind_eq_ok chosen
      exact chosen_of_usualFile first read
    | none =>
      simp only [first, Except.ok.injEq] at chosen
      subst chosen
      exact .nowhere fun place member => by simpa using List.find?_eq_none.1 first place member

end Querent
