import SiteBoot.Proofs.Toml.Grammar
import SiteBoot.Settings.Resolution
/-!
# Settings in layers

Each setting is that of the command line, or else that of the settings file, or else its default,
whatever is given for the others. Validation names every setting that is wrong.
-/

namespace SiteBoot

open Toml (Value)

/-- What a settings file gives. -/
structure GivenSettings where
  program : Option String
  args : Option (List String)
  workdir : Option String
  logFile : Option String
  lockFile : Option String
  profile : Option String
  overrideFile : Option String
  level : Option String
  format : Option LogFormat

/-- A group of a document has the given fields, and none of those without a value. -/
def HasGroup (document : List (String × Value)) (name : String)
    (fields : List (String × Option Value)) : Prop :=
  ∃ found, (document.lookup name = some (.table found) ∨
    document.lookup name = none ∧ found = []) ∧
    ∀ field ∈ fields, found.lookup field.1 = field.2

namespace GivenSettings

def invokeFields (given : GivenSettings) : List (String × Option Value) :=
  [("program", given.program.map .string),
    ("args", given.args.map fun args => .array (args.map .string)),
    ("workdir", given.workdir.map .string),
    ("log_file", given.logFile.map .string)]

def pathFields (given : GivenSettings) : List (String × Option Value) :=
  [("lock_file", given.lockFile.map .string),
    ("profile", given.profile.map .string),
    ("override_env", given.overrideFile.map .string)]

def loggingFields (given : GivenSettings) : List (String × Option Value) :=
  [("level", given.level.map .string),
    ("format", given.format.map fun format => .string format.name)]

/-- The settings that a document gives. -/
structure IsIn (given : GivenSettings) (document : List (String × Value)) : Prop where
  invoke : HasGroup document "invoke" given.invokeFields
  paths : HasGroup document "paths" given.pathFields
  logging : HasGroup document "logging" given.loggingFields

end GivenSettings

/-- A setting: that of the command line, else that of the file, else the default. -/
def layered {α : Type} (option file : Option α) (default : α) : α := (option.or file).getD default

/-- The settings of a command line and a file that gives some. -/
def GivenSettings.under (given : GivenSettings) (process : ProcessEnvironment)
    (options : CommandLine.Options) : Settings :=
  let home := ((process.get? "HOME").filter fun home => !home.isEmpty).getD "/root"
  let args := if options.args = [] then none else some options.args
  { tasks :=
      { program := layered options.program (given.program.map .ofString) "/usr/local/bin/invoke"
        args := layered args given.args []
        workdir := some (layered options.workdir (given.workdir.map .ofString) "/usr/src/geonode")
        logFile := layered options.logFile (given.logFile.map .ofString)
          "/usr/src/geonode/invoke.log" }
    paths :=
      { lockFile := layered options.lockFile (given.lockFile.map .ofString)
          "/mnt/volumes/statics/geonode_init.lock"
        profile := layered options.profile (given.profile.map .ofString) (home.join ".bashrc")
        overrideFile := layered options.overrideFile (given.overrideFile.map .ofString)
          (home.join ".override_env") }
    log :=
      { level := layered options.level given.level "info"
        format := layered options.format given.format .full } }

/-- The names of the settings that are wrong, in the order in which they are looked at. -/
def Settings.offending (settings : Settings) : List String :=
  let wrong : List (String × Bool) :=
    [("invoke.program", settings.tasks.program.isEmpty),
      ("invoke.log_file", settings.tasks.logFile.isEmpty),
      ("paths.lock_file", settings.paths.lockFile.isEmpty),
      ("paths.profile", settings.paths.profile.isEmpty),
      ("paths.override_env", settings.paths.overrideFile.isEmpty),
      ("invoke.workdir", settings.tasks.workdir.any RawText.isEmpty),
      ("logging.level",
        (LogFilter.Directive.listOfText settings.log.level.toList).toOption.isNone)]
  (wrong.filter Prod.snd).map Prod.fst

/-! ### The settings of a file -/

lemma texts?_map_string (items : List String) :
    SettingsFile.texts? (.array (items.map .string)) = some items := by
  rw [SettingsFile.texts?]
  induction items with
  | nil => rfl
  | cons item items ih =>
    rw [List.map_cons, List.mapM_cons, ih]
    rfl

lemma HasGroup.find? {document : List (String × Value)} {name : String}
    {fields : List (String × Option Value)} (h : HasGroup document name fields) :
    ∃ found, SettingsFile.Group.find? document name = some (.named found) ∧
      ∀ field ∈ fields, found.lookup field.1 = field.2 := by
  obtain ⟨found, hfound, hfields⟩ := h
  refine ⟨found, ?_, hfields⟩
  rw [SettingsFile.Group.find?]
  rcases hfound with htable | ⟨hmissing, rfl⟩
  · rw [htable]
    rfl
  · rw [hmissing]

lemma read?_named {α β : Type} {found : List (String × Value)} {name : String} (place : Nat)
    {value? : Option α} {write : α → Value} {read : Value → Option β} {meaning : α → β}
    (hfound : found.lookup name = value?.map write)
    (hread : ∀ value, read (write value) = some (meaning value)) :
    SettingsFile.Group.read? (.named found) name place read = some (value?.map meaning) := by
  rw [SettingsFile.Group.read?, SettingsFile.Group.get?, hfound]
  cases value? with
  | none => rfl
  | some value =>
    dsimp only [Option.map_some]
    rw [hread]
    rfl

namespace GivenSettings

def layer (given : GivenSettings) : SettingsLayer where
  program := given.program.map .ofString
  args := given.args
  workdir := given.workdir.map .ofString
  logFile := given.logFile.map .ofString
  lockFile := given.lockFile.map .ofString
  profile := given.profile.map .ofString
  overrideFile := given.overrideFile.map .ofString
  level := given.level
  format := given.format

lemma IsIn.layer? {given : GivenSettings} {document : List (String × Value)}
    (h : given.IsIn document) : SettingsFile.layer? document = some given.layer := by
  obtain ⟨tasks, htasks, hinvoke⟩ := h.invoke.find?
  obtain ⟨paths, hpaths, hpath⟩ := h.paths.find?
  obtain ⟨log, hlog, hlogging⟩ := h.logging.find?
  simp only [invokeFields, pathFields, loggingFields, List.forall_mem_cons]
    at hinvoke hpath hlogging
  obtain ⟨hprogram, hargs, hworkdir, hlogFile, -⟩ := hinvoke
  obtain ⟨hlockFile, hprofile, hoverrideFile, -⟩ := hpath
  obtain ⟨hlevel, hformat, -⟩ := hlogging
  have hreadPath : ∀ text, SettingsFile.path? (.string text) = some (.ofString text) :=
    fun text => rfl
  have hreadLevel : ∀ text, SettingsFile.text? (.string text) = some (id text) := fun text => rfl
  have hreadFormat : ∀ format : LogFormat,
      SettingsFile.format? (.string format.name) = some format := LogFormat.ofName?_name
  rw [SettingsFile.layer?, htasks, hpaths, hlog]
  simp only [Option.bind_eq_bind, Option.bind_some, read?_named 0 hprogram hreadPath,
    read?_named 1 hargs texts?_map_string, read?_named 2 hworkdir hreadPath,
    read?_named 3 hlogFile hreadPath, read?_named 0 hlockFile hreadPath,
    read?_named 1 hprofile hreadPath, read?_named 2 hoverrideFile hreadPath,
    read?_named 0 hlevel hreadLevel, read?_named 1 hformat hreadFormat]
  simp [layer]

lemma onto_onto_defaults (given : GivenSettings) (process : ProcessEnvironment)
    (options : CommandLine.Options) :
    options.layer.onto (given.layer.onto (Settings.defaults process)) =
      given.under process options := by
  have hlayered : ∀ {α : Type} (option file : Option α) (default : α),
      option.getD (file.getD default) = layered option file default := by
    intro α option file default
    cases option with
    | none => rfl
    | some value => rfl
  have hoptional : ∀ {α : Type} (option file : Option α) (default : α),
      option.or (file.or (some default)) = some (layered option file default) := by
    intro α option file default
    cases option with
    | some value => rfl
    | none => cases file with
      | none => rfl
      | some value => rfl
  have hhome : ((process.get? "HOME").filter fun home => !home.isEmpty).getD "/root" =
      Settings.home process := by
    rw [Settings.home]
    cases process.get? "HOME" with
    | none => rfl
    | some home => cases hempty : home.isEmpty <;> simp [Option.filter, hempty]
  rw [under, hhome]
  simp only [SettingsLayer.onto, CommandLine.Options.layer, layer, Settings.defaults,
    Settings.defaultTasks, Settings.defaultPaths, Settings.defaultLog, hlayered, hoptional,
    List.isEmpty_iff]

end GivenSettings

/-! ### Validation -/

lemma names_cons (name : String) (isWrong : Bool) (rest : List (String × Bool)) :
    (((name, isWrong) :: rest).filter Prod.snd).map Prod.fst =
      (if isWrong then [name] else []) ++ (rest.filter Prod.snd).map Prod.fst := by
  cases isWrong with
  | false => rfl
  | true => rfl

lemma SettingError.map_ofPath (name : SettingName) (path : RawText) :
    (SettingError.ofPath name path).map (fun error => error.name.display) =
      if path.isEmpty then [name.display] else [] := by
  rw [SettingError.ofPath]
  split
  · rfl
  · rfl

lemma Settings.map_faults (settings : Settings) :
    settings.faults.map (fun error => error.name.display) = settings.offending := by
  rw [Settings.faults, Settings.offending]
  simp only [List.map_append, SettingError.map_ofPath, names_cons, List.filter_nil, List.map_nil,
    List.append_nil, List.append_assoc]
  cases settings.tasks.workdir with
  | none =>
    cases LogFilter.Directive.listOfText settings.log.level.toList with
    | ok directives => rfl
    | error bad => rfl
  | some path =>
    dsimp only
    rw [SettingError.map_ofPath]
    cases LogFilter.Directive.listOfText settings.log.level.toList with
    | ok directives => rfl
    | error bad => rfl

lemma SettingError.fault_of_mem_ofPath {name : SettingName} {path : RawText}
    {error : SettingError} (h : error ∈ SettingError.ofPath name path) : error.fault = .empty := by
  rw [SettingError.ofPath] at h
  split at h
  · rw [List.mem_singleton.mp h]
  · contradiction

lemma Settings.fault_of_mem {settings : Settings} {error : SettingError}
    (h : error ∈ settings.faults) :
    error.fault = .empty ∨ ∃ bad, error = ⟨.level, .badDirective bad⟩ ∧
      LogFilter.Directive.listOfText settings.log.level.toList = .error bad := by
  rw [Settings.faults] at h
  simp only [List.mem_append] at h
  rcases h with (((((h | h) | h) | h) | h) | h) | h
  · exact .inl (SettingError.fault_of_mem_ofPath h)
  · exact .inl (SettingError.fault_of_mem_ofPath h)
  · exact .inl (SettingError.fault_of_mem_ofPath h)
  · exact .inl (SettingError.fault_of_mem_ofPath h)
  · exact .inl (SettingError.fault_of_mem_ofPath h)
  · left
    split at h
    · exact SettingError.fault_of_mem_ofPath h
    · contradiction
  · right
    split at h
    · contradiction
    · rename_i bad hbad
      exact ⟨bad, List.mem_singleton.mp h, hbad⟩

/-! ### Writing settings -/

def present (fields : List (String × Option Value)) : List (String × Value) :=
  fields.filterMap fun field => field.2.map fun value => (field.1, value)

lemma present_cons (name : String) (value? : Option Value)
    (fields : List (String × Option Value)) :
    present ((name, value?) :: fields) =
      (value?.map fun value => (name, value)).toList ++ present fields := by
  rw [present, List.filterMap_cons]
  cases value? with
  | none => rfl
  | some value => rfl

lemma sublist_present (fields : List (String × Option Value)) :
    ((present fields).map Prod.fst).Sublist (fields.map Prod.fst) := by
  induction fields with
  | nil => exact .slnil
  | cons field fields ih =>
    obtain ⟨name, value?⟩ := field
    rw [present_cons]
    cases value? with
    | none => exact ih.cons name
    | some value => exact ih.cons_cons name

lemma lookup_present {fields : List (String × Option Value)} (h : (fields.map Prod.fst).Nodup) :
    ∀ field ∈ fields, (present fields).lookup field.1 = field.2 := by
  induction fields with
  | nil => simp
  | cons first fields ih =>
    obtain ⟨name, value?⟩ := first
    rw [List.map_cons, List.nodup_cons] at h
    obtain ⟨hname, hmore⟩ := h
    rw [List.forall_mem_cons]
    constructor
    · rw [present_cons]
      cases value? with
      | some value => simp
      | none =>
        have habsent : name ∉ (present fields).map Prod.fst :=
          fun hmem => hname ((sublist_present fields).subset hmem)
        exact Toml.lookup_eq_none_of_not_mem habsent
    · intro field hfield
      have hne : field.1 ≠ name := by
        have hmem : field.1 ∈ fields.map Prod.fst := List.mem_map_of_mem hfield
        intro heq
        rw [heq] at hmem
        exact hname hmem
      rw [present_cons, List.lookup_append, ih hmore field hfield]
      cases value? with
      | none => rfl
      | some value =>
        have hnone : [(name, value)].lookup field.1 = none := by
          simpa using hne
        simp [hnone]

lemma forall_mem_present {P : String × Value → Prop} {fields : List (String × Option Value)}
    (h : ∀ field ∈ fields, ∀ value, field.2 = some value → P (field.1, value)) :
    ∀ field ∈ present fields, P field := by
  intro field hfield
  obtain ⟨⟨name, value?⟩, hmem, hvalue⟩ := List.mem_filterMap.mp hfield
  cases value? with
  | none => contradiction
  | some value =>
    obtain rfl := Option.some.inj hvalue
    exact h _ hmem value rfl

namespace GivenSettings

def tables (given : GivenSettings) : List (String × List (String × Value)) :=
  [("invoke", present given.invokeFields), ("paths", present given.pathFields),
    ("logging", present given.loggingFields)]

lemma isIn_tables (given : GivenSettings) : given.IsIn (Toml.document given.tables) := by
  have hinvoke : (given.invokeFields.map Prod.fst).Nodup := by simp [invokeFields]
  have hpaths : (given.pathFields.map Prod.fst).Nodup := by simp [pathFields]
  have hlogging : (given.loggingFields.map Prod.fst).Nodup := by simp [loggingFields]
  constructor
  · exact ⟨_, .inl rfl, lookup_present hinvoke⟩
  · exact ⟨_, .inl rfl, lookup_present hpaths⟩
  · exact ⟨_, .inl rfl, lookup_present hlogging⟩

def fieldNames : List String :=
  ["invoke", "paths", "logging", "program", "args", "workdir", "log_file", "lock_file", "profile",
    "override_env", "level", "format"]

lemma isBareKey_of_mem_fieldNames {name : String} (h : name ∈ fieldNames) :
    Toml.IsBareKey name.toList := by
  have hall : fieldNames.all (fun name =>
      name.toList ≠ [] && name.toList.all Toml.isBareKeyChar) = true := by cbv
  have hname := List.all_eq_true.mp hall name h
  rw [Bool.and_eq_true, decide_eq_true_eq, List.all_eq_true] at hname
  exact ⟨hname.1, hname.2⟩

lemma isWritable_of_map {α : Type} {name : String} (hname : name ∈ fieldNames)
    {value? : Option α} {write : α → Value} (hwrite : ∀ value, Toml.IsTextual (write value)) :
    ∀ value, value?.map write = some value → Toml.IsWritable (name, value) := by
  intro value hvalue
  obtain ⟨given, -, rfl⟩ := Option.map_eq_some_iff.mp hvalue
  exact ⟨isBareKey_of_mem_fieldNames hname, hwrite given⟩

lemma isWritable_tables (given : GivenSettings) :
    ∀ table ∈ given.tables, Toml.IsBareKey table.1.toList ∧
      ∀ field ∈ table.2, Toml.IsWritable field := by
  have hformat : ∀ format : LogFormat, Toml.IsTextual (.string format.name) :=
    fun format => .string format.name
  have hinvoke : ∀ field ∈ present given.invokeFields, Toml.IsWritable field := by
    apply forall_mem_present
    simp only [invokeFields, List.forall_mem_cons]
    exact ⟨isWritable_of_map (by simp [fieldNames]) .string,
      isWritable_of_map (by simp [fieldNames]) .array,
      isWritable_of_map (by simp [fieldNames]) .string,
      isWritable_of_map (by simp [fieldNames]) .string, by simp⟩
  have hpaths : ∀ field ∈ present given.pathFields, Toml.IsWritable field := by
    apply forall_mem_present
    simp only [pathFields, List.forall_mem_cons]
    exact ⟨isWritable_of_map (by simp [fieldNames]) .string,
      isWritable_of_map (by simp [fieldNames]) .string,
      isWritable_of_map (by simp [fieldNames]) .string, by simp⟩
  have hlogging : ∀ field ∈ present given.loggingFields, Toml.IsWritable field := by
    apply forall_mem_present
    simp only [loggingFields, List.forall_mem_cons]
    exact ⟨isWritable_of_map (by simp [fieldNames]) .string,
      isWritable_of_map (by simp [fieldNames]) hformat, by simp⟩
  simp only [tables, List.forall_mem_cons]
  exact ⟨⟨isBareKey_of_mem_fieldNames (by simp [fieldNames]), hinvoke⟩,
    ⟨isBareKey_of_mem_fieldNames (by simp [fieldNames]), hpaths⟩,
    ⟨isBareKey_of_mem_fieldNames (by simp [fieldNames]), hlogging⟩, by simp⟩

/-- Whatever settings there are, some text gives them. -/
lemma exists_isDocument (given : GivenSettings) :
    ∃ text, Toml.IsDocument text given.tables := by
  obtain ⟨text, htext⟩ := Toml.exists_tables given.isWritable_tables
  have hkeys : ∀ fields ∈ [given.invokeFields, given.pathFields, given.loggingFields],
      ((present fields).map Prod.fst).Nodup := by
    intro fields hfields
    refine (sublist_present fields).nodup ?_
    simp only [List.mem_cons, List.not_mem_nil, or_false] at hfields
    rcases hfields with rfl | rfl | rfl
    · simp [invokeFields]
    · simp [pathFields]
    · simp [loggingFields]
  refine ⟨String.ofList text, by simpa using htext, by simp [tables], ?_⟩
  simpa [tables] using hkeys

end GivenSettings

/-! ### Layers -/

/-- The settings of a command line with a file at the path, which gives some: each is layered by
itself, and what is wrong with them is named. -/
structure SettingsLayered (process : ProcessEnvironment) (files : FileTree)
    (options : CommandLine.Options) (path : RawText) (given : GivenSettings) : Prop where
  layers : Settings.ofOptions process files options = .ok (given.under process options)
  accepted : (given.under process options).offending = [] →
    Settings.resolve process files options = .ok (given.under process options)
  rejected : (given.under process options).offending ≠ [] →
    ∃ errors, Settings.resolve process files options = .error (.invalid errors) ∧
      errors.map (fun error => error.name.display) = (given.under process options).offending ∧
      ∀ error ∈ errors, error.fault = .empty ∨ ∃ bad, error = ⟨.level, .badDirective bad⟩ ∧
        LogFilter.Directive.listOfText (given.under process options).log.level.toList = .error bad
  alone : options = { CommandLine.Options.nothing with
      config := some path, command := options.command } →
    Settings.resolve process files options = Settings.ofFileValidated process files path

lemma GivenSettings.IsIn.settingsLayered {given : GivenSettings}
    {document : List (String × Value)} (h : given.IsIn document) {process : ProcessEnvironment}
    {files : FileTree} {options : CommandLine.Options} {path : RawText} {text : String}
    (hconfig : options.config = some path) (hread : files.readText path = .ok text)
    (hdocument : Toml.document? text = some document) :
    SettingsLayered process files options path given := by
  have hfile : Settings.ofFile process files path =
      .ok (given.layer.onto (Settings.defaults process)) := by
    have hlayer : SettingsLayer.ofFile files path = .ok given.layer := by
      rw [SettingsLayer.ofFile, hread]
      simp [hdocument, h.layer?]
    rw [Settings.ofFile, hlayer]
    rfl
  have hoptions : Settings.ofOptions process files options = .ok (given.under process options) := by
    rw [← given.onto_onto_defaults, Settings.ofOptions, hconfig]
    dsimp only
    rw [hfile]
    rfl
  have hresolve : Settings.resolve process files options =
      (given.under process options).validate := by
    rw [Settings.resolve, hoptions]
    rfl
  have hnames := (given.under process options).map_faults
  constructor
  · exact hoptions
  · intro hnone
    rw [hnone, List.map_eq_nil_iff] at hnames
    rw [hresolve, Settings.validate, hnames]
    rfl
  · intro hsome
    have hfaults : (given.under process options).faults ≠ [] := by
      intro hnone
      rw [hnone] at hnames
      exact hsome hnames.symm
    refine ⟨(given.under process options).faults, ?_, hnames, fun _ => Settings.fault_of_mem⟩
    rw [hresolve, Settings.validate, if_neg (by simpa using hfaults)]
  · intro halone
    rw [Settings.ofFileValidated, hfile, hresolve, ← given.onto_onto_defaults, halone]
    rfl

/-- Settings are layered one by one: for whatever text the grammar derives, and for any other that
is read as a document of these settings. -/
theorem settings_layered (process : ProcessEnvironment) (files : FileTree)
    (options : CommandLine.Options) (path : RawText) (hconfig : options.config = some path)
    (given : GivenSettings) :
    (∃ text tables, Toml.IsDocument text tables ∧ given.IsIn (Toml.document tables)) ∧
    (∀ text tables, files.readText path = .ok text → Toml.IsDocument text tables →
      given.IsIn (Toml.document tables) → SettingsLayered process files options path given) ∧
    (∀ text document, files.readText path = .ok text → Toml.document? text = some document →
      given.IsIn document → SettingsLayered process files options path given) := by
  refine ⟨?_, ?_, ?_⟩
  · obtain ⟨text, htext⟩ := given.exists_isDocument
    exact ⟨text, given.tables, htext, given.isIn_tables⟩
  · intro text tables hread htext hgiven
    exact hgiven.settingsLayered hconfig hread htext.document?
  · intro text document hread hdocument hgiven
    exact hgiven.settingsLayered hconfig hread hdocument

/-- A file that gives three settings. -/
def settingsText : String :=
  "[paths]\nprofile = \"/caf\\u00e9\" # any\n\n[invoke]\nargs = [\"-m\"]\nprogram = \"python\""

theorem settings_layered_settingsText :
    let files := FileTree.base.install "start.toml" (.file (.ofString settingsText) false)
    let options := { CommandLine.Options.nothing with
      config := some "start.toml", program := some "python3", level := some "debug" }
    Settings.resolve ⟨[]⟩ files options =
      .ok
        { tasks := ⟨"python3", ["-m"], some "/usr/src/geonode",
            "/usr/src/geonode/invoke.log"⟩
          paths := ⟨"/mnt/volumes/statics/geonode_init.lock", "/café",
            RawText.join "/root" ".override_env"⟩
          log := ⟨"debug", .full⟩ } := by
  intro files options
  let given : GivenSettings :=
    ⟨some "python", some ["-m"], none, none, none, some "/café", none, none, none⟩
  have hfile : ∀ content : RawText,
      (FileTree.base.install "start.toml" (.file content false)).read "start.toml" =
        .ok content := by
    intro content
    cbv
  have hread : files.readText "start.toml" = .ok settingsText :=
    FileTree.readText_of_read (hfile (.ofString settingsText))
  have hdocument : Toml.document? settingsText = some
      [("paths", .table [("profile", .string "/café")]),
        ("invoke", .table [("args", .array [.string "-m"]),
          ("program", .string "python")])] := by cbv
  have hgiven : given.IsIn
      [("paths", .table [("profile", .string "/café")]),
        ("invoke", .table [("args", .array [.string "-m"]),
          ("program", .string "python")])] := by
    constructor
    · exact ⟨_, .inl rfl, by simp [given, GivenSettings.invokeFields, List.lookup_cons]⟩
    · exact ⟨_, .inl rfl, by simp [given, GivenSettings.pathFields, List.lookup_cons]⟩
    · exact ⟨[], .inr ⟨rfl, rfl⟩, by simp [given, GivenSettings.loggingFields]⟩
  have hlayered := (settings_layered ⟨[]⟩ files options "start.toml" rfl given).2.2 settingsText _
    hread hdocument hgiven
  have hnone : (given.under ⟨[]⟩ options).offending = [] := by cbv
  exact hlayered.accepted hnone

end SiteBoot
