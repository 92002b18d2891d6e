import SoloScreen.ProcessName
import SoloScreen.Table
import SoloScreen.Window

/-!
# Snapshots of the desktop

A snapshot is the list of all ordinary windows, found in one pass over the desktop. The cache keeps
the last complete snapshot, the time of that pass, and the names of the processes that own windows
of the snapshot. What a pass does is in `SoloScreen.Workspace`; this module holds the data.
-/

namespace SoloScreen

/-- The ordinary windows of one pass, in Z-order. -/
structure WindowSnapshot where
  /-- The number of passes completed, this one included. -/
  generation : Nat := 0
  /-- The clock at the pass. -/
  capturedAt : Option Nat := none
  /-- The windows, the uppermost first. -/
  windows : List WindowRecord := []
  deriving DecidableEq, Repr

/-- The record of a window. -/
def WindowSnapshot.find? (snapshot : WindowSnapshot) (window : WindowHandle) :
    Option WindowRecord :=
  snapshot.windows.find? (·.handle = window)

/-- A cache of the last snapshot. -/
structure SnapshotCache where
  /-- A snapshot older than this is not used any more. -/
  staleness : Nat
  /-- The last complete snapshot. -/
  snapshot : WindowSnapshot := {}
  /-- The clock at the last completed pass. -/
  lastRefresh : Option Nat := none
  /-- Names of processes that have been asked for. -/
  processNames : Table ProcessId String := []
  deriving DecidableEq, Repr

namespace SnapshotCache

/-- Forget everything. -/
def clear (cache : SnapshotCache) : SnapshotCache := { staleness := cache.staleness }

/-- Remember the name of a process. -/
def remember (process : ProcessId) (name : String) (cache : SnapshotCache) : SnapshotCache :=
  { cache with processNames := cache.processNames.insert process name }

/-- Take over the windows of a completed pass; only names of their processes are kept. -/
def install (capturedAt : Nat) (windows : List WindowRecord) (cache : SnapshotCache) :
    SnapshotCache :=
  { cache with
    snapshot :=
      { generation := cache.snapshot.generation + 1, capturedAt := some capturedAt, windows }
    lastRefresh := some capturedAt
    processNames := cache.processNames.restrict fun process => windows.any (·.process = process) }

/-- A name that is remembered is found under its process; it overrides an earlier one. -/
theorem find?_remember (process other : ProcessId) (name : String) (cache : SnapshotCache) :
    (cache.remember process name).processNames.find? other =
      if process = other then some name else cache.processNames.find? other :=
  Table.find?_insert process other name cache.processNames

/-- A name that is known after a pass was known before it was taken over. -/
theorem find?_of_install {capturedAt : Nat} {windows : List WindowRecord} {cache : SnapshotCache}
    {process : ProcessId} {name : String}
    (h : (cache.install capturedAt windows).processNames.find? process = some name) :
    cache.processNames.find? process = some name := by
  unfold install at h
  rw [Table.find?_restrict] at h
  split at h
  · exact h
  · cases h

end SnapshotCache

/-! ## Sorted names -/

/-- Put a name into a sorted list, unless it is there. -/
def insertName (name : String) : List String → List String
  | [] => [name]
  | other :: rest =>
    if name < other then name :: other :: rest
    else if name = other then other :: rest
    else other :: insertName name rest

/-- The process names of a snapshot, sorted and each once. -/
def WindowSnapshot.processNames (snapshot : WindowSnapshot) : List String :=
  snapshot.windows.foldr (fun record names => insertName record.processName names) []

end SoloScreen
