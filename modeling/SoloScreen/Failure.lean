import SoloScreen.Handle

/-!
# Failures

What can go wrong, by cause, with the text and the stable code of each cause.
-/

namespace SoloScreen

/-- What went wrong, from the outermost description inwards. -/
structure ErrorChain where
  /-- The outermost description. -/
  top : String
  /-- What lies behind it. -/
  causes : List String
  deriving DecidableEq, Repr

/-- The whole chain on one line. -/
def ErrorChain.display (chain : ErrorChain) : String :=
  ": ".intercalate (chain.top :: chain.causes)

/-- A failed operation. -/
inductive Failure where
  /-- The configuration is not usable. -/
  | config (chain : ErrorChain)
  /-- The settings are not acceptable. -/
  | settings (reason : String)
  /-- The monitoring went wrong. -/
  | monitoring (reason : String)
  /-- There is no such window. -/
  | windowNotFound (window : WindowHandle)
  /-- The window system refused. -/
  | platform (reason : String)
  /-- Something that should not happen. -/
  | internal (reason : String)
  deriving DecidableEq, Repr

/-- What is reported for a failure; of a configuration error only the outermost description. -/
def Failure.message : Failure → String
  | .config chain => "Ошибка конфигурации: " ++ chain.top
  | .settings reason => "Недопустимые настройки: " ++ reason
  | .monitoring reason => "Ошибка мониторинга: " ++ reason
  | .windowNotFound window => "Окно не найдено: " ++ window.display
  | .platform reason => "Ошибка платформы: " ++ reason
  | .internal reason => "Внутренняя ошибка: " ++ reason

/-- The code of a failure, which stays the same when texts change. -/
def Failure.code : Failure → String
  | .config _ => "SETTINGS_ERROR"
  | .settings _ => "SETTINGS_ERROR"
  | .monitoring _ => "MONITORING_ERROR"
  | .windowNotFound _ => "WINDOW_OPERATION_ERROR"
  | .platform _ => "PLATFORM_ERROR"
  | .internal _ => "GENERAL_ERROR"

end SoloScreen
