import Mathlib
import SoloScreen.Config.Load
import SoloScreen.Proofs.Acceptance
import SoloScreen.Proofs.Layers

/-!
# Which configuration is loaded

For each field of the configuration a value is chosen: that of its variable if there is one,
otherwise that of the file, otherwise the default (`Config.chosen`). A configuration that is loaded
says in each field what was chosen for it, in normal form.

* `Config.at?_merged`: the layers laid on each other have the chosen values in their fields.
* `Config.ofValue_eq_ok`: a value is decoded if it says something in each field.
* `Config.load_layered`: what is loaded, and when.
-/

namespace SoloScreen

namespace Settings

/-- Normal settings name no target twice, and none by the empty name. -/
theorem normalize_targets (settings : Settings) :
    settings.normalize.targets.Nodup ∧ "" ∉ settings.normalize.targets :=
  ⟨foldl_addTarget_nodup .nil, fun hmem => (mem_normalTargets.mp hmem).1 rfl⟩

/-- An interval that passes the check is in the permitted range already. -/
theorem clampedInterval_of_check {settings : Settings} (h : settings.normalize.check = .ok ()) :
    settings.normalize.clampedInterval = settings.normalize.pollInterval := by
  have hrange := (check_normalize_eq_ok_iff settings).mp h
  unfold IsRefused at hrange
  unfold clampedInterval minInterval maxInterval
  omega

end Settings

namespace Config

/-! ## Fields -/

/-- The text that a value is; a character is a text too. -/
inductive Value.IsText : Value → String → Prop
  /-- A text as such. -/
  | text (string : String) : IsText (.text string) string
  /-- A variable can be a character in single quotes, and the decoder takes it for a text. -/
  | character (c : Char) : IsText (.character c) (String.singleton c)

/-- A field of the configuration. -/
inductive Field where
  /-- How much is logged. -/
  | level
  /-- How it is written. -/
  | format
  /-- Of which parts of the program. -/
  | filter
  /-- The programs whose windows count. -/
  | targets
  /-- The time between two rounds. -/
  | interval
  /-- Whether windows are restored after an episode. -/
  | fullScreenExit
  /-- Whether they are restored when the settings are closed. -/
  | settingsClosed
  /-- Whether they are restored at the end of the program. -/
  | appExit
  deriving DecidableEq, Repr

namespace Field

/-- The name of the table that a field stands in. -/
def tableName : Field → String
  | level | format | filter => "logging"
  | _ => "monitor"

/-- The name of a field in its table. -/
def name : Field → String
  | level => "level"
  | format => "format"
  | filter => "filter"
  | targets => "target_processes"
  | interval => "poll_interval_ms"
  | fullScreenExit => "restore_on_full_screen_exit"
  | settingsClosed => "restore_on_settings_closed"
  | appExit => "restore_on_app_exit"

/-- The path to a field. -/
def path (field : Field) : List String := [field.tableName, field.name]

/-- The value of a field by default. -/
def default : Field → Value
  | level => .text "info"
  | format => .text "compact"
  | filter => .text "fullscreen_monitor=info"
  | targets => .list [.text "chrome", .text "firefox", .text "msedge"]
  | interval => .integer 500
  | _ => .boolean true

/-- A value has the type of a field and says what the field of a configuration is. -/
def Says : Field → Value → Config → Prop
  | level, value, config => value.IsText config.logging.level
  | format, value, config => value.IsText config.logging.format
  | filter, value, config => value.IsText config.logging.filter
  | targets, value, config => ∃ items, value = .list items ∧
      List.Forall₂ Value.IsText items config.monitor.targets
  | interval, value, config => value = .integer config.monitor.pollInterval
  | fullScreenExit, value, config => value = .boolean config.monitor.restoreOnFullScreenExit
  | settingsClosed, value, config => value = .boolean config.monitor.restoreOnSettingsClosed
  | appExit, value, config => value = .boolean config.monitor.restoreOnAppExit

/-- No field is a table. -/
theorem Says.not_isTable {field : Field} {value : Value} {config : Config}
    (h : field.Says value config) : ¬ value.IsTable := by
  rintro ⟨entries, rfl⟩
  cases field with
  | targets =>
    obtain ⟨items, hitems, -⟩ := h
    cases hitems
  | _ => cases h

/-- No default is a table either, so a value laid on one replaces it. -/
theorem default_not_isTable (field : Field) : ¬ field.default.IsTable := by
  rintro ⟨entries, h⟩
  cases field <;> cases h

/-- What is said of each field is said of one configuration. -/
theorem exists_says {value : Field → Value}
    (h : ∀ field, ∃ config, Says field (value field) config) :
    ∃ config, ∀ field, Says field (value field) config := by
  choose config hconfig using h
  refine ⟨{
    logging := {
      level := (config level).logging.level
      format := (config format).logging.format
      filter := (config filter).logging.filter }
    monitor := {
      targets := (config targets).monitor.targets
      pollInterval := (config interval).monitor.pollInterval
      restoreOnFullScreenExit := (config fullScreenExit).monitor.restoreOnFullScreenExit
      restoreOnSettingsClosed := (config settingsClosed).monitor.restoreOnSettingsClosed
      restoreOnAppExit := (config appExit).monitor.restoreOnAppExit } }, fun field => ?_⟩
  have hfield := hconfig field
  cases field <;> exact hfield

end Field

/-! ## Decoding -/

/-- The decoder reads a text where `IsText` says that there is one. -/
theorem Value.IsText.asText {value : Value} {string : String} (h : value.IsText string) :
    value.asText = .ok string := by
  cases h <;> rfl

/-- A list of texts, one item after the other. -/
theorem Value.textsOf_eq {items : List Value} {strings : List String}
    (h : List.Forall₂ Value.IsText items strings) : textsOf items = .ok strings := by
  induction h with
  | nil => rfl
  | cons hitem _ ih =>
    unfold textsOf
    rw [hitem.asText, ih]
    rfl

/-- A number that is not negative is found again. -/
theorem Value.asNatural_integer (n : Nat) : (Value.integer n).asNatural = .ok n := by
  simp [asNatural]

/-- What stands under a path of two keys stands in a table in a table. -/
theorem Value.exists_table_of_at? {value leaf : Value} {first second : String}
    (h : value.at? [first, second] = some leaf) :
    ∃ entries inner, value = .table entries ∧ Table.find? first entries = some (.table inner) := by
  cases value with
  | table entries =>
    obtain ⟨under, hunder, h⟩ := Option.bind_eq_some_iff.mp h
    cases under with
    | table inner => exact ⟨entries, inner, rfl, hunder⟩
    | _ => cases h
  | _ => cases h

/-- The field of a part is found in two steps, as the decoder finds it: first the part, then the
field. -/
theorem Value.at?_inner {entries inner : List (String × Value)} {first : String}
    (h : Table.find? first entries = some (.table inner)) (second : String) :
    (Value.table entries).at? [first, second] = Table.find? second inner := by
  unfold at?
  rw [h]
  exact Option.bind_fun_some _

section Decoding

variable {config : Config} {said : Field → Value}

/-- A field that is there and says something. All fields of a table are decoded in this way, each
with a decoder of its own. -/
theorem optional_eq_ok {α : Type} {decode : Value → Except DecodeError α} {a : α}
    {entries : List (String × Value)} {name : String} {value : Value}
    (hfound : Table.find? name entries = some value) (hdecode : decode value = .ok a) :
    optional decode (Table.find? name entries) = .ok (some a) := by
  unfold optional
  rw [hfound]
  dsimp only
  rw [hdecode]
  rfl

/-- The part about logging. Each field is looked up under its name and decoded by itself; then they
are put together. -/
theorem decodeLogging_eq_ok {entries : List (String × Value)}
    (hsaid : ∀ field : Field, field.tableName = "logging" →
      Table.find? field.name entries = some (said field))
    (htold : ∀ field : Field, field.Says (said field) config) :
    decodeLogging (.table entries) = .ok config.logging := by
  have hlevel := optional_eq_ok (hsaid .level rfl) (Value.IsText.asText (htold .level))
  have hformat := optional_eq_ok (hsaid .format rfl) (Value.IsText.asText (htold .format))
  have hfilter := optional_eq_ok (hsaid .filter rfl) (Value.IsText.asText (htold .filter))
  unfold Field.name at hlevel hformat hfilter
  unfold decodeLogging
  dsimp only
  rw [hlevel, hformat, hfilter]
  rfl

/-- The part about the monitor, in the same way. Its five fields have three types. -/
theorem decodeSettings_eq_ok {entries : List (String × Value)}
    (hsaid : ∀ field : Field, field.tableName = "monitor" →
      Table.find? field.name entries = some (said field))
    (htold : ∀ field : Field, field.Says (said field) config) :
    decodeSettings (.table entries) = .ok config.monitor := by
  obtain ⟨items, hitems, htexts⟩ := htold .targets
  have htargets := optional_eq_ok (hsaid .targets rfl)
    ((congrArg Value.asTexts hitems).trans (Value.textsOf_eq htexts))
  have hinterval := optional_eq_ok (hsaid .interval rfl)
    ((congrArg Value.asNatural (htold .interval)).trans (Value.asNatural_integer _))
  have hscreenExit := optional_eq_ok (hsaid .fullScreenExit rfl)
    (congrArg Value.asBoolean (htold .fullScreenExit))
  have hclosed := optional_eq_ok (hsaid .settingsClosed rfl)
    (congrArg Value.asBoolean (htold .settingsClosed))
  have hexit := optional_eq_ok (hsaid .appExit rfl) (congrArg Value.asBoolean (htold .appExit))
  unfold Field.name at htargets hinterval hscreenExit hclosed hexit
  unfold decodeSettings
  dsimp only
  rw [htargets, hinterval, hscreenExit, hclosed, hexit]
  rfl

/-- A value that says a configuration in each field is decoded to that configuration. -/
theorem ofValue_eq_ok {value : Value}
    (hsaid : ∀ field : Field, value.at? field.path = some (said field))
    (htold : ∀ field : Field, field.Says (said field) config) : ofValue value = .ok config := by
  obtain ⟨entries, logging, rfl, hlogging⟩ := Value.exists_table_of_at? (hsaid .level)
  obtain ⟨_, monitor, hsame, hmonitor⟩ := Value.exists_table_of_at? (hsaid .interval)
  obtain rfl := Value.table.inj hsame
  have hlog : optional decodeLogging (Table.find? "logging" entries) = .ok (some config.logging) :=
    optional_eq_ok hlogging (decodeLogging_eq_ok (fun field htable => by
      rw [← Value.at?_inner hlogging, ← hsaid field, Field.path, htable]
      rfl) htold)
  have hmon : optional decodeSettings (Table.find? "monitor" entries) = .ok (some config.monitor) :=
    optional_eq_ok hmonitor (decodeSettings_eq_ok (fun field htable => by
      rw [← Value.at?_inner hmonitor, ← hsaid field, Field.path, htable]
      rfl) htold)
  unfold ofValue
  dsimp only
  rw [hlog, hmon]
  rfl

end Decoding

/-! ## Layers -/

/-- Each variable that counts names a field, and no two of them the same one. -/
structure Environment.NamesFields (environment : Environment) : Prop where
  /-- Other paths could put a table or a value in the way of a field. -/
  fields : ∀ path ∈ environment.paths, ∃ field : Field, path = field.path
  /-- Two variables can have one path, since names are read in lower case. -/
  once : environment.paths.Nodup

/-- The value chosen for a field: that of its variable, otherwise that of the file, otherwise the
default. -/
def chosen (layer : Value) (environment : Environment) (field : Field) : Value :=
  ((environment.value? field.path).or (layer.at? field.path)).getD field.default

/-- The value of a field in the default configuration, which is the layer below all others. -/
theorem at?_default (field : Field) : (toValue {}).at? field.path = some field.default := by
  cases field <;> rfl

/-- The default configuration is a table of tables, each with its keys once. -/
theorem leads_default (field : Field) : (toValue {}).Leads field.path := by
  cases field <;>
    · refine Value.leads_cons_iff.mpr ⟨_, rfl, by decide, fun inner hinner => ?_⟩
      obtain rfl := Option.some.inj hinner
      exact Value.leads_cons_iff.mpr ⟨_, rfl, by decide, fun _ _ => trivial⟩

/-- The layer of a file is a table, and no table in it has a key twice. -/
theorem fileLayer_distinct {file : Option String} {layer : Value}
    (h : fileLayer file = .ok layer) : layer.Distinct ∧ layer.IsTable := by
  cases file with
  | none =>
    obtain rfl := Except.ok.inj h
    exact ⟨.table .nil (by simp), [], rfl⟩
  | some text =>
    unfold fileLayer at h
    dsimp only at h
    split at h
    · rename_i said hsaid
      obtain rfl := Except.ok.inj h
      exact Toml.read?_distinct hsaid
    · cases h

/-- The layers laid on each other have the chosen value in a field, unless that is a table. -/
theorem at?_merged {layer : Value} {environment : Environment}
    (hlayer : ∀ field : Field, layer.Leads field.path) (henvironment : environment.NamesFields)
    {field : Field} (hchosen : ¬ (chosen layer environment field).IsTable) :
    (merged layer environment.layer).at? field.path = some (chosen layer environment field) := by
  have hlength : ∀ other ∈ environment.paths, field.path.length = other.length := by
    intro other hother
    obtain ⟨named, rfl⟩ := henvironment.fields other hother
    rfl
  have hleads : environment.layer.Leads field.path :=
    Environment.layer_leads (List.cons_ne_nil _ _) fun other hother =>
      Nat.le_of_eq (hlength other hother)
  have hvariables : environment.layer.at? field.path = environment.value? field.path :=
    Environment.layer_at? (List.cons_ne_nil _ _) hlength henvironment.once
  -- no default is a table, so what the file has in its place replaces it
  have hfile : ((toValue {}).merge layer).at? field.path =
      some ((layer.at? field.path).getD field.default) := by
    rw [Value.at?_merge _ (leads_default field) (hlayer field), at?_default]
    rcases layer.at? field.path with _ | value
    · rfl
    · exact congrArg some (Value.merge_eq_above fun h => field.default_not_isTable h.1)
  unfold merged
  rw [Value.at?_merge _ (Value.leads_merge _ (leads_default field) (hlayer field)) hleads,
    hvariables, hfile]
  unfold chosen at hchosen ⊢
  rcases hset : environment.value? field.path with _ | value
  · rcases layer.at? field.path with _ | value <;> rfl
  · rw [hset] at hchosen
    exact congrArg some (Value.merge_eq_above fun h => hchosen h.2)

/-! ## Loading -/

/-- The check of a configuration ends with that of its settings, so they have passed it. -/
theorem check_monitor {config : Config} (h : config.check = .ok ()) :
    config.monitor.check = .ok () := by
  unfold check at h
  split at h
  · cases h
  · split at h
    · cases h
    · split at h
      · assumption
      · cases h

/-- Whatever is loaded was normalized and has passed the check, in this order. -/
theorem ofLayers_eq_ok {file environment : Value} {loaded : Config}
    (h : ofLayers file environment = .ok loaded) :
    ∃ config : Config, loaded = config.normalize ∧ config.normalize.check = .ok () := by
  unfold ofLayers at h
  split at h
  · cases h
  · split at h
    · exact ⟨_, (Except.ok.inj h).symm, by assumption⟩
    · cases h

/-- Let a file be a TOML document, or missing, in which the tables of the configuration are tables
if they are there at all, and let each variable that counts name a field, and no two of them the
same one. If in each field the chosen value has the type of the field, exactly one configuration
says what was chosen. It is loaded, in normal form, if that passes the check; otherwise the error of
the check is reported.

Whatever the file and the variables are, a configuration that is loaded has an interval in the
permitted range, no target twice, and no empty target. -/
theorem load_layered (file : Option String) (environment : Environment) :
    (∀ layer, fileLayer file = .ok layer →
      (∀ name ∈ ["logging", "monitor"], ∀ part, layer.at? [name] = some part → part.IsTable) →
      environment.NamesFields →
      (∀ field : Field, ∃ config, field.Says (chosen layer environment field) config) →
      ∃ config : Config,
        (∀ other, (∀ field : Field, field.Says (chosen layer environment field) other) ↔
          other = config) ∧
        load file environment = match config.normalize.check with
          | .ok () => .ok config.normalize
          | .error chain => .error (.invalid chain)) ∧
    ∀ config, load file environment = .ok config →
      config.monitor.clampedInterval = config.monitor.pollInterval ∧
        config.monitor.targets.Nodup ∧ "" ∉ config.monitor.targets := by
  constructor
  · intro layer hfile hparts henvironment htyped
    obtain ⟨hdistinct, htable⟩ := fileLayer_distinct hfile
    have hlayer : ∀ field : Field, layer.Leads field.path := fun field =>
      Value.leads_pair hdistinct htable (hparts field.tableName (by cases field <;> decide)) _
    -- whatever configuration was chosen is decoded, so there is only one
    have hdecoded : ∀ other, (∀ field : Field, field.Says (chosen layer environment field) other) →
        ofValue (merged layer environment.layer) = .ok other := fun other hother =>
      ofValue_eq_ok (fun field => at?_merged hlayer henvironment (hother field).not_isTable) hother
    obtain ⟨config, htold⟩ := Field.exists_says htyped
    refine ⟨config, fun other => ⟨fun hother => ?_, fun hsame => hsame ▸ htold⟩, ?_⟩
    · exact Except.ok.inj ((hdecoded other hother).symm.trans (hdecoded config htold))
    · rcases hcheck : config.normalize.check with chain | _ <;>
        simp only [load, hfile, ofLayers, hdecoded config htold, hcheck]
  · intro loaded hloaded
    unfold load at hloaded
    split at hloaded
    · cases hloaded
    · obtain ⟨config, rfl, hcheck⟩ := ofLayers_eq_ok hloaded
      exact ⟨Settings.clampedInterval_of_check (check_monitor hcheck),
        config.monitor.normalize_targets⟩

/-- The file has targets, and an interval that would be refused; variables set the interval and the
level, and a variable with another prefix does not count. -/
theorem load_layered_demo :
    let file := "[monitor]\ntarget_processes=[\"Game.exe\",\"game\"]\npoll_interval_ms=5"
    let environment : Environment := [("FSM_MONITOR__POLL_INTERVAL_MS", "250"),
      ("MONITOR__RESTORE_ON_APP_EXIT", "false"), ("fsm_logging.level", "warn")]
    let loaded : Config := {
      logging := { level := "warn" }, monitor := { targets := ["game"], pollInterval := 250 } }
    load (some file) environment = .ok loaded ∧
      loaded.monitor.clampedInterval = loaded.monitor.pollInterval := by
  intro file environment loaded
  let layer : Value := .table [("monitor", .table [
    ("target_processes", .list [.text "Game.exe", .text "game"]),
    ("poll_interval_ms", .integer 5)])]
  let config : Config := {
    logging := { level := "warn" }
    monitor := { targets := ["Game.exe", "game"], pollInterval := 250 } }
  have hfile : fileLayer (some file) = .ok layer := by cbv
  have hinterval : Environment.path? "FSM_MONITOR__POLL_INTERVAL_MS" =
      some ["monitor", "poll_interval_ms"] := by decide +kernel
  have hother : Environment.path? "MONITOR__RESTORE_ON_APP_EXIT" = none := by decide +kernel
  have hlevel : Environment.path? "fsm_logging.level" = some ["logging", "level"] := by
    decide +kernel
  have hpaths : environment.paths = [["monitor", "poll_interval_ms"], ["logging", "level"]] := by
    simp [environment, Environment.paths, hinterval, hother, hlevel]
  have henvironment : environment.NamesFields := by
    constructor
    · rw [hpaths, List.forall_mem_cons, List.forall_mem_singleton]
      exact ⟨⟨.interval, rfl⟩, .level, rfl⟩
    · rw [hpaths]
      decide
  have hnumber : Literal.read "250" = .integer 250 := by cbv
  have htext : Literal.read "warn" = .text "warn" := by cbv
  have htold : ∀ field : Field, field.Says (chosen layer environment field) config := by
    intro field
    simp only [chosen, environment, Environment.value?, List.findSome?_cons, hinterval, hother,
      hlevel, hnumber, htext]
    cases field with
    | level => exact .text "warn"
    | format => exact .text "compact"
    | filter => exact .text "fullscreen_monitor=info"
    | targets => exact ⟨_, rfl, .cons (.text "Game.exe") (.cons (.text "game") .nil)⟩
    | _ => rfl
  have hparts : ∀ name ∈ ["logging", "monitor"], ∀ part, layer.at? [name] = some part →
      part.IsTable := by
    intro name hname part hpart
    rcases List.mem_cons.mp hname with rfl | hname
    · simp [layer, Value.at?, Table.find?] at hpart
    · obtain rfl := List.mem_singleton.mp hname
      simp only [layer, Value.at?, Table.find?, if_true, Option.bind_some, Option.some.injEq]
        at hpart
      exact ⟨_, hpart.symm⟩
  obtain ⟨_, hsame, hload⟩ := (load_layered (some file) environment).1 layer hfile hparts
    henvironment fun field => ⟨config, htold field⟩
  obtain rfl := (hsame config).mp htold
  have hnormal : config.normalize = loaded := by decide +kernel
  have hcheck : loaded.check = .ok () := by decide +kernel
  rw [hnormal, hcheck] at hload
  exact ⟨hload, ((load_layered (some file) environment).2 loaded hload).1⟩

end Config

end SoloScreen
