import SoloScreen.Faults
import SoloScreen.Pump
import SoloScreen.Scenario
import SoloScreen.Service

/-!
# Simulations

Everything together on an emulated desktop: a minimizer of its own, a detector of its own, a
service, a pump on the service's notifications, scenarios, and a clock that only
`Simulation.advance` moves. Detector and service share one snapshot cache.

After every command all that is due runs (`Simulation.settle`): first the timers, in the order they
were armed, then the pump. So no command overtakes a tick that is due, and the polling loops get
their orders in a settled state; what would happen to an order that is given before a loop has run
is left open (see `Detector.setInterval`). Time passes millisecond by millisecond, so it does not
matter into which pieces a wait is cut.

Time is virtual. The timers follow a clock that counts milliseconds, and the age of a snapshot is
read from a counter of the emulated desktop, which each reading moves by a nanosecond. The two are
independent: to let time pass makes no snapshot older, so a cache either makes a new pass at every
query (`Simulation.alwaysStale`) or keeps the first one (`Simulation.neverStale`). Only the program
lets both follow the real time.
-/

namespace SoloScreen

/-- A simulation. -/
structure Simulation where
  /-- The desktop with its fault rules, the snapshot cache, and the clock. -/
  work : Workspace FaultyDesktop
  /-- The windows opened by command, the first one first. -/
  opened : List WindowHandle := []
  /-- The minimizer of its own. -/
  minimizer : Minimizer := {}
  /-- The detector of its own, if there is one. -/
  detector : Option Detector := none
  /-- The events of the detector's polling loop that have not been read. -/
  recorded : List DetectorEvent := []
  /-- The service, if there is one. -/
  service : Option Service := none
  /-- The channel of a service that is gone. -/
  orphaned : Option (Channel Notification) := none
  /-- The position of the receiver that subscribed when the last service was created. -/
  receiver : Nat := 0
  /-- The pump that was started last. -/
  pump : Option Pump := none
  /-- A snapshot that was kept. -/
  held : Option WindowSnapshot := none
  /-- The scenarios that were started. -/
  scenarios : List Scenario := []

namespace Simulation

variable {α : Type}

/-- With this staleness every query makes a new pass over the desktop. -/
def alwaysStale : Nat := 0

/-- With this staleness only the first query makes a pass; it is an hour, and a reading of the
emulated clock takes a nanosecond. -/
def neverStale : Nat := 3600 * 1000000000

/-- A simulation of a desktop. The desktop is enumerated once, to know the windows it begins
with. -/
def of (desktop : Desktop) (staleness : Nat) : Simulation where
  work := { system := { desktop := (desktop.answer .enumerate).2 }, cache := { staleness } }
  opened := (desktop.windows.map Prod.fst).reverse

/-! ## Parts of a simulation -/

/-- An action on the desktop, past the fault rules. -/
def onDesktop (act : Action Desktop α) : Action Simulation α :=
  act.within (·.work.system.desktop) fun desktop sim =>
    { sim with work := { sim.work with system := { sim.work.system with desktop } } }

/-- A change of the desktop. -/
def changeDesktop (f : Desktop → Desktop) : Action Simulation Unit := onDesktop (modify f)

/-- A change of the fault rules. -/
def changeFaults (f : FaultyDesktop → FaultyDesktop) : Action Simulation Unit :=
  modify fun sim => { sim with work := { sim.work with system := f sim.work.system } }

/-- An action on the workspace. -/
def onWorkspace (act : Action (Workspace FaultyDesktop) α) : Action Simulation α :=
  act.within (·.work) fun work sim => { sim with work }

/-- An action of the minimizer. -/
def onMinimizer (act : Action (Minimizer × Workspace FaultyDesktop) α) : Action Simulation α :=
  act.within (fun sim => (sim.minimizer, sim.work)) fun p sim =>
    { sim with minimizer := p.1, work := p.2 }

/-- An action of the detector, if there is one. -/
def onDetector (act : Action (Detector × Workspace FaultyDesktop) α) :
    Action Simulation (Option α) := do
  match (← get).detector with
  | none => pure none
  | some detector =>
    some <$> act.within (fun sim => (detector, sim.work)) fun p sim =>
      { sim with detector := some p.1, work := p.2 }

/-- An action of the service, if there is one. -/
def onService (act : Action (Service × Workspace FaultyDesktop) α) :
    Action Simulation (Option α) := do
  match (← get).service with
  | none => pure none
  | some service =>
    some <$> act.within (fun sim => (service, sim.work)) fun p sim =>
      { sim with service := some p.1, work := p.2 }

/-! ## Windows and snapshots -/

/-- Open a window. -/
def openWindow (window : DesktopWindow) : Action Simulation WindowHandle := do
  let handle ← onDesktop (modifyGet (Desktop.openWindow window))
  modify fun sim => { sim with opened := sim.opened ++ [handle] }
  pure handle

/-- The current snapshot, which is kept. -/
def holdSnapshot : Action Simulation WindowSnapshot := do
  let snapshot ← onWorkspace Workspace.snapshot
  modify fun sim => { sim with held := some snapshot }
  pure snapshot

/-! ## The detector -/

/-- Put a new detector in the place of an old one; unread events are dropped. -/
def newDetector (targets : List String) (interval : Nat) : Action Simulation Unit :=
  modify fun sim => { sim with detector := some (.watching targets interval), recorded := [] }

/-- Drop the detector and its polling loop. -/
def dropDetector : Action Simulation Unit := modify fun sim => { sim with detector := none }

/-- The unread events of the polling loop. -/
def takeRecorded : Action Simulation (List DetectorEvent) :=
  modifyGet fun sim => (sim.recorded, { sim with recorded := [] })

/-! ## The service -/

/-- Drop the service with its polling loop. Its channel is closed, and a pump on it comes to its
end. -/
def dropService : Action Simulation Unit :=
  modify fun sim =>
    match sim.service with
    | none => sim
    | some service =>
      let channel := service.channel.close
      { sim with service := none, orphaned := some channel, pump := sim.pump.map (·.run channel) }

/-- Put a new service in the place of an old one and subscribe a receiver. -/
def newService (settings : Settings) : Action Simulation Unit := do
  dropService
  let service := Service.withSettings settings
  modify fun sim =>
    { sim with service := some service, receiver := service.channel.subscribe }

/-- The channel of the service, or of the last one that is gone. -/
def channel? (sim : Simulation) : Option (Channel Notification) :=
  match sim.service with
  | some service => some service.channel
  | none => sim.orphaned

/-- Drain the receiver. -/
def receive : Action Simulation (List (Received Notification)) :=
  modifyGet fun sim =>
    match sim.channel? with
    | none => ([], sim)
    | some channel =>
      let (received, receiver) := channel.drain sim.receiver
      (received, { sim with receiver })

/-- Start a pump on the notifications of the service from now on, if there is a service. -/
def startPump (sink : Sink) : Action Simulation (Option Unit) := do
  match (← get).service with
  | none => pure none
  | some service =>
    modify fun sim =>
      { sim with pump := some { sink, position := service.channel.subscribe } }
    pure (some ())

/-- What the pump delivered since the last question, and whether it has finished. -/
def takeDelivered : Action Simulation (Option (List Notification × Bool)) :=
  modifyGet fun sim =>
    (sim.pump.map fun pump => (pump.delivered, pump.finished),
      { sim with pump := sim.pump.map fun pump => { pump with delivered := [] } })

/-! ## Scenarios -/

/-- Start a scenario. -/
def startScenario : Action Simulation Unit := do
  changeDesktop Scenario.install
  let timer ← onWorkspace (Workspace.arm 0)
  modify fun sim => { sim with scenarios := sim.scenarios ++ [{ timer }] }

/-- Let one of the scenarios open or close its game. -/
def playScenario (index : Nat) : Action Simulation Unit := do
  match (← get).scenarios[index]? with
  | none => pure ()
  | some scenario =>
    let game ← onDesktop (modifyGet (Scenario.toggle scenario.game))
    let timer ← onWorkspace (Workspace.arm Scenario.period)
    modify fun sim => { sim with scenarios := sim.scenarios.set index { game, timer } }

/-! ## Time -/

/-- Something that a timer starts. -/
inductive Task where
  /-- A tick of the detector. -/
  | detector
  /-- A tick of the service's detector. -/
  | service
  /-- A change in a scenario. -/
  | scenario (index : Nat)
  deriving DecidableEq, Repr

/-- All timers with what they start. -/
def timers (sim : Simulation) : List (Timer × Task) :=
  (sim.detector.bind (·.loop)).toList.map (·, .detector) ++
    ((sim.service.bind (·.detector)).bind (·.loop)).toList.map (·, .service) ++
    sim.scenarios.mapIdx fun index scenario => (scenario.timer, .scenario index)

/-- Put a timer into a list in the order of arming. -/
def insertTimer (entry : Timer × Task) : List (Timer × Task) → List (Timer × Task)
  | [] => [entry]
  | other :: rest =>
    if entry.1.order < other.1.order then entry :: other :: rest
    else other :: insertTimer entry rest

/-- What is due, in the order in which it was armed. -/
def due (sim : Simulation) : List Task :=
  ((sim.timers.filter (·.1.isDue sim.work.clock)).foldr insertTimer []).map Prod.snd

/-- A tick of the detector: its events are recorded, and the loop goes on unless the tick
overflowed. -/
def pollDetector : Action Simulation Unit := do
  match ← (onDetector Detector.tick).outcome with
  | .ok events =>
    modify fun sim => { sim with recorded := sim.recorded ++ events.getD [] }
    let _ ← onDetector (Detector.proceed (.ok ()))
  | .error overflow =>
    let _ ← onDetector (Detector.proceed (.error overflow))

/-- Do what a timer starts. -/
def perform : Task → Action Simulation Unit
  | .detector => pollDetector
  | .service => do
    let _ ← onService Service.poll
  | .scenario index => playScenario index

/-- Let the pump receive what there is. -/
def runPump (sim : Simulation) : Simulation :=
  match sim.service with
  | none => sim
  | some service => { sim with pump := sim.pump.map (·.run service.channel) }

/-- Do all that is due. -/
def settle : Action Simulation Unit := do
  Action.each perform (← get).due
  modify runPump

/-- Let a millisecond pass, and do what is due then. -/
def waitOnce : Action Simulation Unit := do
  modify fun sim => { sim with work := { sim.work with clock := sim.work.clock.tick } }
  settle

/-- Do what is due, and then let time pass. -/
def advance (milliseconds : Nat) : Action Simulation Unit := do
  settle
  Action.times milliseconds waitOnce

/-! ## The demonstration -/

/-- The simulation that stands in for a window system. No other window system is available, so it
does not matter whether it was asked for. -/
def backend (_dryRun : Bool) : Simulation :=
  (startScenario.exec (of .demo 2000000000)).2

/-- What is to be seen on a desktop. -/
structure View where
  /-- All windows of the desktop, or none if they cannot be enumerated. -/
  handles : List WindowHandle
  /-- The window in the foreground. -/
  foreground : Option WindowHandle
  /-- The names of the processes that own windows. -/
  processes : List String
  /-- The records of the snapshot. -/
  windows : List WindowRecord

/-- Look at the desktop through a new cache. -/
def view : Action Simulation View := onWorkspace do
  Workspace.clearCache
  let handles ← Native.enumerate.run
  let foreground ← Native.foreground
  let processes ← Workspace.processNames
  let windows ← Workspace.windows
  pure { handles := handles.toOption.getD [], foreground, processes, windows }

end Simulation

end SoloScreen
