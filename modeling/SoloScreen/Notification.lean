/-!
# Notifications

What the monitoring service tells the outside world.
-/

namespace SoloScreen

/-- A notification of the monitoring service. -/
inductive Notification where
  /-- The monitoring was started or stopped. -/
  | monitoringChanged (monitoring : Bool)
  /-- Some windows were minimized. -/
  | windowsMinimized (count : Nat)
  /-- Some windows were brought back. -/
  | windowsRestored (count : Nat)
  /-- Something went wrong. -/
  | errorOccurred (text : String)
  deriving DecidableEq, Repr

/-- A notification as text. -/
def Notification.display : Notification → String
  | .monitoringChanged true => "мониторинг запущен"
  | .monitoringChanged false => "мониторинг остановлен"
  | .windowsMinimized count => "свернуто окон: " ++ toString count
  | .windowsRestored count => "восстановлено окон: " ++ toString count
  | .errorOccurred text => "ошибка: " ++ text

end SoloScreen
