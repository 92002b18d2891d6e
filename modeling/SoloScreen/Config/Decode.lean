import SoloScreen.Config.Basic
import SoloScreen.Config.Value

/-!
# Configurations as values

The value that a configuration is written as (`Config.toValue`), and the configuration that a value
says (`Config.ofValue`). Fields may stand in a table under their names, or in a list in a fixed
order. Fields of a table are looked at in the order of their names, and a field that is missing is
noticed last.
-/

namespace SoloScreen.Config

/-- Why a value says no configuration. -/
inductive DecodeError where
  /-- A value of another type stands where a field is wanted. -/
  | wrongType
  /-- A number is not in the range of its field. -/
  | wrongValue
  /-- A list has too few items for the fields. -/
  | tooShort
  /-- A table lacks a field. -/
  | missing
  deriving DecidableEq, Repr

namespace Value

/-- The text that a value says; a character is a text too. -/
def asText : Value → Except DecodeError String
  | .text string => .ok string
  | .character c => .ok (String.singleton c)
  | _ => .error .wrongType

/-- The natural number that a value says. -/
def asNatural : Value → Except DecodeError Nat
  | .integer n => if n < 0 then .error .wrongValue else .ok n.toNat
  | _ => .error .wrongType

/-- The truth value that a value says. -/
def asBoolean : Value → Except DecodeError Bool
  | .boolean b => .ok b
  | _ => .error .wrongType

/-- The texts that the items of a list say. -/
def textsOf : List Value → Except DecodeError (List String)
  | [] => .ok []
  | item :: rest => do
    let text ← item.asText
    let texts ← textsOf rest
    pure (text :: texts)

/-- The list of texts that a value says. -/
def asTexts : Value → Except DecodeError (List String)
  | .list items => textsOf items
  | _ => .error .wrongType

end Value

/-- What a field says, if it is there. -/
def optional {α : Type} (decode : Value → Except DecodeError α) :
    Option Value → Except DecodeError (Option α)
  | none => .ok none
  | some value => (decode value).map some

/-- What has to be there. -/
def required {α : Type} (error : DecodeError) : Option α → Except DecodeError α
  | none => .error error
  | some a => .ok a

/-- What an item of a list says; it has to be there. -/
def item {α : Type} (decode : Value → Except DecodeError α) (items : List Value) (index : Nat) :
    Except DecodeError α := do
  decode (← required .tooShort items[index]?)

/-! ## Logging -/

/-- The value of the logging configuration. -/
def loggingValue (logging : Logging) : Value :=
  .table [("level", .text logging.level), ("format", .text logging.format),
    ("filter", .text logging.filter)]

/-- The logging configuration that a value says. -/
def decodeLogging : Value → Except DecodeError Logging
  | .table entries => do
    let filter ← optional Value.asText (Table.find? "filter" entries)
    let format ← optional Value.asText (Table.find? "format" entries)
    let level ← optional Value.asText (Table.find? "level" entries)
    pure {
      level := ← required .missing level
      format := ← required .missing format
      filter := ← required .missing filter }
  | .list items => do
    pure {
      level := ← item Value.asText items 0
      format := ← item Value.asText items 1
      filter := ← item Value.asText items 2 }
  | _ => .error .wrongType

/-! ## Settings -/

/-- The value of settings. -/
def settingsValue (settings : Settings) : Value :=
  .table [("target_processes", .list (settings.targets.map .text)),
    ("poll_interval_ms", .integer settings.pollInterval),
    ("restore_on_full_screen_exit", .boolean settings.restoreOnFullScreenExit),
    ("restore_on_settings_closed", .boolean settings.restoreOnSettingsClosed),
    ("restore_on_app_exit", .boolean settings.restoreOnAppExit)]

/-- The settings that a value says. Targets that are missing are none. -/
def decodeSettings : Value → Except DecodeError Settings
  | .table entries => do
    let interval ← optional Value.asNatural (Table.find? "poll_interval_ms" entries)
    let appExit ← optional Value.asBoolean (Table.find? "restore_on_app_exit" entries)
    let screenExit ← optional Value.asBoolean (Table.find? "restore_on_full_screen_exit" entries)
    let closed ← optional Value.asBoolean (Table.find? "restore_on_settings_closed" entries)
    let targets ← optional Value.asTexts (Table.find? "target_processes" entries)
    pure {
      targets := targets.getD []
      pollInterval := ← required .missing interval
      restoreOnFullScreenExit := ← required .missing screenExit
      restoreOnSettingsClosed := ← required .missing closed
      restoreOnAppExit := ← required .missing appExit }
  | .list items => do
    pure {
      targets := (← optional Value.asTexts items[0]?).getD []
      pollInterval := ← item Value.asNatural items 1
      restoreOnFullScreenExit := ← item Value.asBoolean items 2
      restoreOnSettingsClosed := ← item Value.asBoolean items 3
      restoreOnAppExit := ← item Value.asBoolean items 4 }
  | _ => .error .wrongType

/-! ## The whole configuration -/

/-- The value of a configuration. -/
def toValue (config : Config) : Value :=
  .table [("logging", loggingValue config.logging), ("monitor", settingsValue config.monitor)]

/-- The configuration that a value says. -/
def ofValue : Value → Except DecodeError Config
  | .table entries => do
    let logging ← optional decodeLogging (Table.find? "logging" entries)
    let monitor ← optional decodeSettings (Table.find? "monitor" entries)
    pure {
      logging := ← required .missing logging
      monitor := ← required .missing monitor }
  | _ => .error .wrongType

end SoloScreen.Config
