import SoloScreen.Config.Decode
import SoloScreen.Config.Environment
import SoloScreen.Config.Toml.Document

/-!
# Loading the configuration

A configuration is put together from three layers: the defaults, a TOML file if there is one, and
environment variables. Each is laid on the one before (`Config.merged`); what results is decoded,
brought into normal form, and checked (`Config.load`).
-/

namespace SoloScreen.Config

/-- Why no configuration could be loaded. -/
inductive LoadError where
  /-- The file is not a TOML document. -/
  | notToml
  /-- The layers together do not say a configuration. -/
  | decode (error : DecodeError)
  /-- The configuration is not usable. -/
  | invalid (chain : ErrorChain)
  deriving DecidableEq, Repr

/-- The value of the file; without a file there is nothing in it. -/
def fileLayer : (file : Option String) → Except LoadError Value
  | none => .ok (.table [])
  | some text =>
    match Toml.read? text with
    | some value => .ok value
    | none => .error .notToml

/-- The three layers laid on each other. -/
def merged (file environment : Value) : Value :=
  ((toValue {}).merge file).merge environment

/-- The configuration that the layers say, in normal form and checked. -/
def ofLayers (file environment : Value) : Except LoadError Config :=
  match ofValue (merged file environment) with
  | .error error => .error (.decode error)
  | .ok config =>
    match config.normalize.check with
    | .ok () => .ok config.normalize
    | .error chain => .error (.invalid chain)

/-- The configuration from the text of a file, if there is one, and environment variables. -/
def load (file : Option String) (environment : Environment) : Except LoadError Config :=
  match fileLayer file with
  | .error error => .error error
  | .ok layer => ofLayers layer (Environment.layer environment)

end SoloScreen.Config
