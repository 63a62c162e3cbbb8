import Querent.Proofs.Settings.Environment
import Querent.Proofs.Settings.File

/-!
# Precedence of sources

Which source settles a setting.  The arguments come first, then the environment, then the file, and
what none of them says holds by default.  Between the file and the environment this is so for each
setting on its own as long as the environment names the settings of a group one by one, and the group
is not a list in the file: a list, like anything else that is no table, gives way as a whole to the
first name that is laid over it.
-/

namespace Querent

open SettingTree SettingLayer

/-! ## Sources -/

/-- What the settings come from. -/
structure Sources where
  arguments : Arguments
  /-- The variables of the environment. -/
  environment : List (String × String)
  /-- The settings in the file alone. -/
  file : SettingTree

namespace Sources

/-- The sources of settings that there are with files. -/
def read (files : Files) (environment : List (String × String)) (arguments : Arguments) :
    Except SettingsError Sources := do
  let file ← Settings.fileLayer (← Settings.chosenFile files arguments.config)
  return ⟨arguments, environment, SettingTree.empty.withLayer file⟩

/-- The settings in the environment alone. -/
def above (sources : Sources) : SettingTree :=
  empty.withLayer (ofVariables sources.environment)

/-- The settings in the environment, laid over those in the file. -/
def tree (sources : Sources) : SettingTree :=
  sources.file.withLayer (ofVariables sources.environment)

/-- Whether the sources have layers for a group: the environment names the settings of the group one
by one, if it has any, and then the group is not a list in the file. -/
structure Layered (sources : Sources) (group : String) : Prop where
  byName : ByName (SettingKey.ofGroup group sources.environment)
  noList : SettingKey.ofGroup group sources.environment = [] ∨
    (sources.file.field? group).any isList = false

instance (sources : Sources) (group : String) : Decidable (sources.Layered group) :=
  decidable_of_iff (ByName (SettingKey.ofGroup group sources.environment) ∧
      ((SettingKey.ofGroup group sources.environment).isEmpty = true ∨
        (sources.file.field? group).any isList = false))
    ⟨fun ⟨byName, noList⟩ => ⟨byName, by simpa using noList⟩,
      fun ⟨byName, noList⟩ => ⟨byName, by simpa using noList⟩⟩

/-- A setting as the first source that says something about it has it, or else by default. -/
def decided (sources : Sources) (key : SettingKey) : Except SettingsError key.Value :=
  match key.given sources.arguments with
  | some value => .ok value
  | none =>
    match key.part? sources.above with
    | some part => key.read part
    | none => key.readIn sources.file

/-- A setting is the same where the sources that count for it say the same. -/
theorem decided_congr {sources other : Sources} {key : SettingKey}
    (given : key.given other.arguments = key.given sources.arguments)
    (above : key.given sources.arguments = none → key.part? other.above = key.part? sources.above)
    (file : key.given sources.arguments = none → key.part? sources.above = none →
      key.readIn other.file = key.readIn sources.file) :
    other.decided key = sources.decided key := by
  unfold decided
  rw [given]
  cases silent : key.given sources.arguments with
  | some value => rfl
  | none =>
    simp only [above silent]
    cases further : key.part? sources.above with
    | some part => rfl
    | none => exact file silent further

/-! ## Layers of a group -/

/-- What the environment and a tree below it show of a setting. -/
theorem part?_withLayer {key : SettingKey} {environment : List (String × String)}
    {below : SettingTree} (byName : ByName (SettingKey.ofGroup key.group environment))
    (noList : SettingKey.ofGroup key.group environment = [] ∨
      (below.field? key.group).any isList = false) :
    key.part? (below.withLayer (ofVariables environment)) =
      if key.said environment = [] then key.part? below
      else
        some ⟨key.path, (((below.field? key.group).bind (·.field? key.name)).getD absent).under
          (key.said environment)⟩ := by
  have group := field?_under (byName_paths (ofVariables environment)) below key.group
  rw [← withLayer_eq_under] at group
  change _ = if SettingKey.ofGroup key.group environment = [] then _
    else some (SettingTree.under _ (SettingKey.ofGroup key.group environment)) at group
  by_cases silent : SettingKey.ofGroup key.group environment = []
  · have nothing : key.said environment = [] := by
      rw [SettingKey.said, silent, into_nil]
    rw [if_pos silent] at group
    rw [if_pos nothing, SettingKey.part?, SettingKey.part?, group]
  · rw [if_neg silent] at group
    have table := noList.resolve_left silent
    obtain ⟨fields, shown⟩ :=
      exists_under_eq_table byName silent ((below.field? key.group).getD absent)
    have inner : ((below.field? key.group).getD absent).field? key.name =
        (below.field? key.group).bind (·.field? key.name) := by
      cases below.field? key.group <;> rfl
    rw [SettingKey.part?_eq (by rw [group, shown]; rfl), SettingKey.part?_eq table, group,
      Option.bind_some, field?_under byName, inner]
    change Option.map _ (if key.said environment = [] then _ else _) = _
    split
    next => rfl
    next => rfl

theorem part?_above {sources : Sources} {key : SettingKey} (layered : sources.Layered key.group) :
    key.part? sources.above =
      if key.said sources.environment = [] then none
      else some ⟨key.path, absent.under (key.said sources.environment)⟩ :=
  part?_withLayer layered.byName (.inr rfl)

/-- In a group with layers a setting is read from the environment, or else from the file. -/
theorem readIn_tree {sources : Sources} {key : SettingKey} (layered : sources.Layered key.group)
    {value : key.Value} (read : key.readIn sources.tree = .ok value) :
    (match key.part? sources.above with
      | some part => key.read part
      | none => key.readIn sources.file) = .ok value := by
  rw [part?_above layered]
  have shown := part?_withLayer layered.byName layered.noList
  by_cases silent : key.said sources.environment = []
  · rw [if_pos silent] at shown ⊢
    rw [SettingKey.readIn, tree, shown] at read
    exact read
  · rw [if_neg silent] at shown ⊢
    rw [SettingKey.readIn, tree, shown] at read
    exact SettingKey.read_of_covers
      (covers_under silent (fun _ => SettingKey.exists_eq_leaf_of_mem_said) (namesWithin_absent _))
      read

/-- In a group with layers every setting is decided by the first source that has it. -/
theorem decided_of_ofTree {sources : Sources} {found : Settings}
    (read : Settings.ofTree sources.tree = .ok found) {key : SettingKey}
    (layered : sources.Layered key.group) :
    sources.decided key = .ok (key.get (found.overridden sources.arguments)) := by
  unfold decided
  rw [SettingKey.get_overridden]
  cases key.given sources.arguments with
  | some value => rfl
  | none => exact readIn_tree layered (SettingKey.readIn_of_ofTree read key)

/-! ## Settings of sources -/

/-- Settings that are loaded are read from their sources, and arguments come first. -/
theorem exists_of_load {files : Files} {environment : List (String × String)} {arguments : Arguments}
    {settings : Settings} (loaded : Settings.load files environment arguments = .ok settings) :
    ∃ sources found, Sources.read files environment arguments = .ok sources ∧
      Settings.ofTree sources.tree = .ok found ∧
      settings = found.overridden sources.arguments ∧ 1 ≤ settings.assistant.maxAttempts := by
  obtain ⟨file, chosen, loaded⟩ := SettingsError.bind_eq_ok loaded
  obtain ⟨layer, layerRead, loaded⟩ := SettingsError.bind_eq_ok loaded
  obtain ⟨found, treeRead, loaded⟩ := SettingsError.bind_eq_ok loaded
  have sources : Sources.read files environment arguments =
      .ok ⟨arguments, environment, SettingTree.empty.withLayer layer⟩ := by
    simp only [Sources.read, chosen, layerRead, bind, Except.bind, pure, Except.pure]
  refine ⟨_, found, sources, treeRead, ?_⟩
  dsimp only at loaded
  split at loaded
  next => cases loaded
  next some =>
    cases loaded
    exact ⟨rfl, Nat.one_le_iff_ne_zero.2 fun zero => some (by rw [zero]; rfl)⟩

/-- The sources of settings are those that are given and the one file that is chosen. -/
theorem exists_of_read {files : Files} {environment : List (String × String)} {arguments : Arguments}
    {sources : Sources} (read : Sources.read files environment arguments = .ok sources) :
    ∃ file layer, Chosen files arguments.config file ∧ Settings.fileLayer file = .ok layer ∧
      sources = ⟨arguments, environment, SettingTree.empty.withLayer layer⟩ := by
  obtain ⟨file, chosen, read⟩ := SettingsError.bind_eq_ok read
  obtain ⟨layer, layerRead, ⟨⟩⟩ := SettingsError.bind_eq_ok read
  exact ⟨file, layer, chosen_of_chosenFile chosen, layerRead, rfl⟩

/-- The file does not depend on the environment. -/
theorem read_eq_ok {files : Files} {environment : List (String × String)} {arguments : Arguments}
    {sources : Sources} (read : Sources.read files environment arguments = .ok sources)
    (other : List (String × String)) :
    sources.arguments = arguments ∧ sources.environment = environment ∧
      Sources.read files other arguments = .ok { sources with environment := other } := by
  obtain ⟨file, chosen, read⟩ := SettingsError.bind_eq_ok read
  obtain ⟨layer, layerRead, ⟨⟩⟩ := SettingsError.bind_eq_ok read
  refine ⟨rfl, rfl, ?_⟩
  simp only [Sources.read, chosen, layerRead, bind, Except.bind, pure, Except.pure]

/-! ## Changes -/

end Sources

/-- The layers of settings, from the lowest to the highest. -/
inductive SettingLevel where
  | file
  | environment
  | arguments
  deriving DecidableEq, Repr

/-- Whether sources differ in one setting only, and there in one layer only.  The file may have the
setting in any form; it is the other settings that have to stay what they are. -/
inductive Change (key : SettingKey) : SettingLevel → Sources → Sources → Prop where
  | file {arguments : Arguments} {environment : List (String × String)} {old new : SettingTree}
    (groups : ∀ group, group ≠ key.group → new.field? group = old.field? group)
    (others : ∀ other : SettingKey, other ≠ key → other.group = key.group →
      other.part? new = other.part? old) :
    Change key .file ⟨arguments, environment, old⟩ ⟨arguments, environment, new⟩
  | environment {arguments : Arguments} {old new : List (String × String)} {file : SettingTree}
    (others : without key.path new = without key.path old) :
    Change key .environment ⟨arguments, old, file⟩ ⟨arguments, new, file⟩
  | arguments {old new : Arguments} {environment : List (String × String)} {file : SettingTree}
    (others : ∀ other : SettingKey, other ≠ key → other.given new = other.given old) :
    Change key .arguments ⟨old, environment, file⟩ ⟨new, environment, file⟩

/-- Whether a layer above another one says something about a setting. -/
def Sources.Overrules (sources : Sources) (key : SettingKey) : SettingLevel → Prop
  | .file => key.given sources.arguments ≠ none ∨ (key.part? sources.above).isSome
  | .environment => key.given sources.arguments ≠ none
  | .arguments => False

namespace Change

variable {key : SettingKey} {level : SettingLevel} {old new : Sources}

/-- What is put into a group under the name of a setting changes that setting. -/
theorem overPart (sources : Sources) (key : SettingKey) (part : SettingTree)
    (noList : (sources.file.field? key.group).any isList = false) :
    Change key .file sources
      { sources with file := part.overPart (pathOf key.path) sources.file } := by
  rw [SettingKey.pathOf_path]
  have group (name : String) := field?_overPart part sources.file key.group name [.field key.name]
  refine .file (fun name other => (group name).trans (if_neg other)) fun other different same => ?_
  have names : other.name ≠ key.name := fun names => different (SettingKey.ext same names)
  have here := group other.group
  rw [if_pos same] at here
  rw [SettingKey.part?_eq (by rw [here]; rfl), SettingKey.part?_eq (by rw [same]; exact noList), here,
    Option.bind_some, field?_overPart, if_neg names, same]
  cases sources.file.field? key.group <;> rfl

/-- Other groups stay as they are. -/
theorem field?_tree (change : Change key level old new) {group : String} (other : group ≠ key.group) :
    new.tree.field? group = old.tree.field? group := by
  have of (sources : Sources) :
      sources.tree.field? group =
        if SettingKey.ofGroup group sources.environment = [] then sources.file.field? group
        else some (((sources.file.field? group).getD absent).under
          (SettingKey.ofGroup group sources.environment)) := by
    rw [Sources.tree, withLayer_eq_under]
    exact field?_under (byName_paths _) _ _
  rw [of, of]
  cases change with
  | file groups others => rw [groups group other]
  | environment others =>
    rw [← SettingKey.ofGroup_without other, others, SettingKey.ofGroup_without other]
  | arguments others => rfl

theorem part?_above (change : Change key level old new) {other : SettingKey} (different : other ≠ key)
    (oldLayered : old.Layered other.group) (newLayered : new.Layered other.group) :
    other.part? new.above = other.part? old.above := by
  rw [Sources.part?_above oldLayered, Sources.part?_above newLayered]
  cases change with
  | file groups others => rfl
  | environment others =>
    rw [← SettingKey.said_without different, others, SettingKey.said_without different]
  | arguments others => rfl

theorem given (change : Change key level old new) {other : SettingKey} (different : other ≠ key) :
    other.given new.arguments = other.given old.arguments := by
  cases change with
  | file => rfl
  | environment => rfl
  | arguments others => exact others other different

theorem readIn_file (change : Change key level old new) {other : SettingKey} (different : other ≠ key)
    (same : other.group = key.group) : other.readIn new.file = other.readIn old.file := by
  cases change with
  | file groups others => rw [SettingKey.readIn, SettingKey.readIn, others other different same]
  | environment => rfl
  | arguments => rfl

/-- A setting is settled by other sources than the one that changes. -/
theorem decided_of_ne (change : Change key level old new) {other : SettingKey} (different : other ≠ key)
    (same : other.group = key.group) (oldLayered : old.Layered key.group)
    (newLayered : new.Layered key.group) : new.decided other = old.decided other := by
  rw [← same] at oldLayered newLayered
  exact Sources.decided_congr (change.given different)
    (fun _ => change.part?_above different oldLayered newLayered)
    fun _ _ => change.readIn_file different same

/-- A setting that a higher layer has does not change. -/
theorem decided_of_overrules (change : Change key level old new) (overrules : old.Overrules key level) :
    new.decided key = old.decided key := by
  cases change with
  | file groups others =>
    refine Sources.decided_congr rfl (fun _ => rfl) fun silent further => ?_
    rcases overrules with some | some
    · exact absurd silent some
    · simp [further] at some
  | environment others =>
    exact Sources.decided_congr rfl (fun silent => absurd silent overrules) fun silent =>
      absurd silent overrules
  | arguments others => exact overrules.elim

variable {before after : Settings}

/-- No setting but the one that changes is another one afterwards. -/
theorem get_of_ne (change : Change key level old new) (first : Settings.ofTree old.tree = .ok before)
    (second : Settings.ofTree new.tree = .ok after) {other : SettingKey} (different : other ≠ key)
    (layered : other.group = key.group → old.Layered key.group ∧ new.Layered key.group) :
    other.get (after.overridden new.arguments) = other.get (before.overridden old.arguments) := by
  by_cases same : other.group = key.group
  · obtain ⟨oldLayered, newLayered⟩ := layered same
    have decided := change.decided_of_ne different same oldLayered newLayered
    rw [Sources.decided_of_ofTree first (same ▸ oldLayered),
      Sources.decided_of_ofTree second (same ▸ newLayered)] at decided
    exact Except.ok.inj decided
  · have reading := SettingKey.readIn_of_ofTree second other
    rw [SettingKey.readIn, SettingKey.part?, change.field?_tree same] at reading
    have values := reading.symm.trans (SettingKey.readIn_of_ofTree first other)
    rw [SettingKey.get_overridden, SettingKey.get_overridden, change.given different,
      Except.ok.inj values]

/-- Nothing changes if a higher layer has the setting that changes. -/
theorem eq_of_overrules (change : Change key level old new) (overrules : old.Overrules key level)
    (first : Settings.ofTree old.tree = .ok before) (second : Settings.ofTree new.tree = .ok after)
    (oldLayered : old.Layered key.group) (newLayered : new.Layered key.group) :
    after.overridden new.arguments = before.overridden old.arguments := by
  refine SettingKey.settings_eq fun other => ?_
  by_cases different : other = key
  · subst different
    have decided := change.decided_of_overrules overrules
    rw [Sources.decided_of_ofTree first oldLayered, Sources.decided_of_ofTree second newLayered]
      at decided
    exact Except.ok.inj decided
  · exact change.get_of_ne first second different fun _ => ⟨oldLayered, newLayered⟩

end Change

/-! ## Loading -/

namespace Settings

/-- Settings that are loaded come from the arguments, the environment and the one file that is
chosen, in this order, each setting for itself; a change of one setting in one layer changes no other
setting, and none at all if a higher layer has the setting. -/
theorem load_precedence {files : Files} {environment : List (String × String)}
    {arguments : Arguments} {settings : Settings}
    (loaded : Settings.load files environment arguments = .ok settings) :
    ∃ sources, Sources.read files environment arguments = .ok sources ∧
      (∃ file layer, Chosen files arguments.config file ∧ fileLayer file = .ok layer ∧
        sources = ⟨arguments, environment, SettingTree.empty.withLayer layer⟩) ∧
      1 ≤ settings.assistant.maxAttempts ∧
      (∀ (key : SettingKey) (value : key.Value), key.given arguments = some value →
        key.get settings = value) ∧
      (∀ key : SettingKey, sources.Layered key.group →
        sources.decided key = .ok (key.get settings)) ∧
      ∀ (files' : Files) (environment' : List (String × String)) (arguments' : Arguments)
        (settings' : Settings) (sources' : Sources) (key : SettingKey) (level : SettingLevel),
        Settings.load files' environment' arguments' = .ok settings' →
        Sources.read files' environment' arguments' = .ok sources' →
        Change key level sources sources' →
        (∀ other : SettingKey, other ≠ key →
          (other.group = key.group → sources.Layered key.group ∧ sources'.Layered key.group) →
          other.get settings' = other.get settings) ∧
        (sources.Overrules key level → sources.Layered key.group → sources'.Layered key.group →
          settings' = settings) := by
  obtain ⟨sources, found, read, treeRead, rfl, attempts⟩ := Sources.exists_of_load loaded
  have stem := Sources.exists_of_read read
  have same : sources.arguments = arguments := by
    obtain ⟨_, _, _, _, rfl⟩ := stem
    rfl
  refine ⟨sources, read, stem, attempts, fun key value given => ?_,
    fun key layered => Sources.decided_of_ofTree treeRead layered, ?_⟩
  · rw [SettingKey.get_overridden, same, given, Option.getD_some]
  · intro files' environment' arguments' settings' sources' key level loaded' read' change
    obtain ⟨sources', found', readToo, treeRead', rfl, _⟩ := Sources.exists_of_load loaded'
    obtain rfl := Except.ok.inj (readToo.symm.trans read')
    exact ⟨fun other different layered => change.get_of_ne treeRead treeRead' different layered,
      fun overrules oldLayered newLayered =>
        change.eq_of_overrules overrules treeRead treeRead' oldLayered newLayered⟩

theorem eq_ok_of_toOption_eq {ε α : Type} {result : Except ε α} {value : α}
    (read : result.toOption = some value) : result = .ok value := by
  cases result with
  | error error => cases read
  | ok found => rw [Option.some.inj read]

/-- Arguments that name one file. -/
def namingFile : Arguments :=
  { Arguments.empty with config := some "settings.json" }

/-- Arguments with a port as well. -/
def portArguments : Arguments :=
  { namingFile with port := some 7000 }

/-- A file with the address of the service. -/
def addressFile : Files :=
  [("settings.json", "\x7b\"web\":\x7b\"host\":\"0.0.0.0\",\"port\":8080\x7d\x7d")]

/-- A file with the address of the service as a list. -/
def listFile : Files :=
  [("settings.json", "\x7b\"web\":[\"0.0.0.0\",8080]\x7d")]

/-- An environment with a port. -/
def portVariables (port : String) : List (String × String) :=
  [("NL_ANALYST__WEB__PORT", port)]

/-- A port in the arguments, another one in the environment and a third one in the file. -/
theorem load_precedence_address :
    ∃ settings sources,
      load addressFile (portVariables "9000") portArguments = .ok settings ∧
      Sources.read addressFile (portVariables "9000") portArguments = .ok sources ∧
      1 ≤ settings.assistant.maxAttempts ∧ settings.web.port = 7000 ∧
      sources.Layered "web" ∧ sources.decided .host = .ok "0.0.0.0" ∧
      load addressFile (portVariables "9001") portArguments = .ok settings := by
  have loaded : load addressFile (portVariables "9000") portArguments =
      .ok { default with web := ⟨"0.0.0.0", 7000⟩ } := eq_ok_of_toOption_eq (by decide +kernel)
  have again : (load addressFile (portVariables "9001") portArguments).toOption.isSome = true := by
    decide +kernel
  have layers (port : String) (some : port = "9000" ∨ port = "9001") :
      (Sources.read addressFile (portVariables port) portArguments).toOption.all
        (fun sources => sources.Layered "web") = true := by
    rcases some with rfl | rfl <;> decide +kernel
  obtain ⟨⟨_, _, file⟩, read, _, attempts, given, decided, changes⟩ := load_precedence loaded
  obtain ⟨rfl, rfl, readToo⟩ := Sources.read_eq_ok read (portVariables "9001")
  have layered : Sources.Layered ⟨portArguments, portVariables "9000", file⟩ "web" := by
    simpa [read, Except.toOption] using layers "9000" (.inl rfl)
  have layeredToo : Sources.Layered ⟨portArguments, portVariables "9001", file⟩ "web" := by
    simpa [readToo, Except.toOption] using layers "9001" (.inr rfl)
  have change : Change .port .environment ⟨portArguments, portVariables "9000", file⟩
      ⟨portArguments, portVariables "9001", file⟩ := .environment (by decide +kernel)
  obtain ⟨settings, loadedToo⟩ := Option.isSome_iff_exists.1 again
  replace loadedToo := eq_ok_of_toOption_eq loadedToo
  obtain ⟨_, unchanged⟩ := changes _ _ _ _ _ _ _ loadedToo readToo change
  obtain rfl := unchanged (Option.some_ne_none _) layered layeredToo
  exact ⟨_, _, loaded, read, attempts, given .port 7000 rfl, layered, decided .host layered,
    loadedToo⟩

/-- A file whose group is a list loses the whole group to one name in the environment. -/
theorem not_forall_decided :
    ¬ ∀ (files : Files) (environment : List (String × String)) (arguments : Arguments)
      (settings : Settings) (sources : Sources),
      load files environment arguments = .ok settings →
      Sources.read files environment arguments = .ok sources →
      ∀ key : SettingKey, sources.decided key = .ok (key.get settings) := by
  intro law
  have loaded : (load listFile (portVariables "9000") namingFile).toOption =
      some { default with web := ⟨"127.0.0.1", 9000⟩ } := by decide +kernel
  have first : (Sources.read listFile (portVariables "9000") namingFile).toOption.bind
      (fun sources => (sources.decided .host).toOption) = some "0.0.0.0" := by
    decide +kernel
  obtain ⟨sources, read, host⟩ := Option.bind_eq_some_iff.1 first
  have decided := law _ _ _ _ sources (eq_ok_of_toOption_eq loaded) (eq_ok_of_toOption_eq read) .host
  rw [decided] at host
  exact absurd host (by decide)

end Settings

end Querent
