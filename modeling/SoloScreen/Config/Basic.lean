import SoloScreen.Settings

/-!
# Configurations

The configuration of the program: how it logs, and the settings of the monitoring service.
-/

namespace SoloScreen

/-- How the program logs. -/
structure Logging where
  level : String := "info"
  format : String := "compact"
  /-- What is logged beside the level. -/
  filter : String := "fullscreen_monitor=info"
  deriving DecidableEq, Repr

/-- The configuration of the program. -/
structure Config where
  logging : Logging := {}
  monitor : Settings := {}
  deriving DecidableEq, Repr

namespace Config

/-- The levels of logging. -/
def levels : List String := ["trace", "debug", "info", "warn", "error"]

/-- The formats of logging. -/
def formats : List String := ["compact", "full"]

/-- The configuration with the target names in normal form. -/
def normalize (config : Config) : Config := { config with monitor := config.monitor.normalize }

/-- A configuration passes, or the first thing wrong with it is the error: the level comes before
the format, and the format before the settings. -/
def check (config : Config) : Except ErrorChain Unit :=
  if ¬ config.logging.level ∈ levels then
    .error ⟨"Неверный уровень логирования: " ++ config.logging.level, []⟩
  else if ¬ config.logging.format ∈ formats then
    .error ⟨"Неверный формат логирования: " ++ config.logging.format, []⟩
  else match config.monitor.check with
    | .ok () => .ok ()
    | .error failure => .error ⟨"Неверные настройки мониторинга", [failure.message]⟩

end Config

end SoloScreen
