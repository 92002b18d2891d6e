import Mathlib.Data.List.DropRight
import SoloScreen.Proofs.DesktopEvents
import SoloScreen.Proofs.Journal
import SoloScreen.Proofs.Run

/-!
# Generations of the snapshot cache

A `Logged` window system writes down what it is asked, calls and readings of its clock in one list.
This list tells when a pass over the desktop was begun and whether the windows were listed, and the
cache agrees with it.

* `Workspace.refresh_course`, `Workspace.snapshot_course`: how a pass and a query that may make one
  go, finished or cut short, with what was asked meanwhile.
* `Workspace.Operation.effect`: an operation either completes a pass, or it leaves the snapshot and
  the time of the last pass alone.
* `Workspace.Operation.enumerates_iff`: which queries make a pass.
* `Workspace.generations_counted`: in every run of operations on the cache the generation counts the
  passes completed since the cache was last cleared.

An operation has a beginning, in which it may make a pass, and a rest, in which it asks for monitors
and names at most (`Workspace.Operation.opening`). Whether a pass was completed is read off the log
of the beginning and off whether it was cut short, and not off the cache, so that the count of the
passes is one thing and the generation another.

The journal of `Journaled` does not do here: it has the calls but not the readings of the clock, and
whether a snapshot is too old depends on these.
-/

namespace SoloScreen

open SoloScreen.Action

/-! ## The log -/

/-- Something that a window system is asked for. -/
inductive Inquiry where
  /-- A call, with its answer. -/
  | call (exchange : Exchange)
  /-- A reading of the clock. -/
  | clock (reading : Except Overflow Nat)

namespace Inquiry

/-- The windows are asked for. -/
def isEnumeration : Inquiry → Bool
  | .call ⟨.enumerate, _⟩ => true
  | _ => false

/-- The windows are asked for and listed. -/
def lists : Inquiry → Bool
  | .call ⟨.enumerate, .ok (.ok _)⟩ => true
  | _ => false

/-- The reading of the clock with which a pass begins: the one after the windows were listed. -/
def passTime : List Inquiry → Option Nat
  | .call ⟨.enumerate, .ok (.ok _)⟩ :: .clock (.ok now) :: _ => some now
  | _ :: rest => passTime rest
  | [] => none

/-- Where the windows are listed and then not asked for again, they are listed whenever they are
asked for. -/
theorem lists_of_mem {handles : List WindowHandle} {more : List Inquiry}
    (hmore : ∀ inquiry ∈ more, inquiry.isEnumeration = false) {inquiry : Inquiry}
    (hmem : inquiry ∈ .call ⟨.enumerate, .ok (.ok handles)⟩ :: more)
    (henumeration : inquiry.isEnumeration = true) : inquiry.lists = true := by
  rcases List.mem_cons.mp hmem with rfl | hmem
  · rfl
  · rw [hmore inquiry hmem] at henumeration
    cases henumeration

end Inquiry

/-- A window system with a log of what it was asked. -/
structure Logged (σ : Type) where
  system : σ
  /-- The inquiries, the first one first. -/
  log : List Inquiry := []

variable {σ ε : Type}

instance [WindowSystem σ] : WindowSystem (Logged σ) where
  call call := ⟨fun logged =>
    let (answer, system) := (WindowSystem.call call).exec logged.system
    (answer, { system, log := logged.log ++ [.call ⟨call, answer⟩] })⟩
  readClock := ⟨fun logged =>
    let (reading, system) := WindowSystem.readClock.exec logged.system
    (reading, { system, log := logged.log ++ [.clock reading] })⟩

/-- An event outside reaches the logged system. -/
def Logged.apply (apply : ε → σ → σ) (event : ε) (logged : Logged σ) : Logged σ :=
  { logged with system := apply event logged.system }

namespace Workspace

/-- What was asked through a workspace. -/
def log (work : Workspace (Logged σ)) : List Inquiry := work.system.log

/-- What was asked between two states. -/
def asked (work work' : Workspace (Logged σ)) : List Inquiry := work'.log.drop work.log.length

/-- It is enough to name what was added to the log. -/
theorem asked_eq {work work' : Workspace (Logged σ)} {more : List Inquiry}
    (h : work'.log = work.log ++ more) : asked work work' = more := by
  unfold asked
  rw [h, List.drop_left]

/-- One thing was asked. -/
structure Asks (inquiry : Inquiry) (work work' : Workspace (Logged σ)) : Prop where
  /-- It was written down. -/
  log : work'.log = work.log ++ [inquiry]
  /-- The cache is as it was. -/
  cache : work'.cache = work.cache

/-- The windows were not asked for, and the cache has learned names at most. -/
structure Keeps (work work' : Workspace (Logged σ)) : Prop where
  /-- None of what was asked is an enumeration. -/
  log : ∃ more, work'.log = work.log ++ more ∧ ∀ inquiry ∈ more, inquiry.isEnumeration = false
  /-- The snapshot is the same. -/
  snapshot : work'.cache.snapshot = work.cache.snapshot
  /-- The time of the last pass is the same. -/
  lastRefresh : work'.cache.lastRefresh = work.cache.lastRefresh
  /-- A snapshot may be as old as before. -/
  staleness : work'.cache.staleness = work.cache.staleness

/-- Two stretches that keep the snapshot make one. -/
theorem Keeps.isPath : IsPath (Keeps (σ := σ)) where
  refl work := ⟨⟨[], by simp, by simp⟩, rfl, rfl, rfl⟩
  trans := by
    intro work work' work'' h h'
    obtain ⟨more, hlog, hmore⟩ := h.log
    obtain ⟨more', hlog', hmore'⟩ := h'.log
    refine ⟨⟨more ++ more', by rw [hlog', hlog, List.append_assoc], ?_⟩,
      h'.snapshot.trans h.snapshot, h'.lastRefresh.trans h.lastRefresh,
      h'.staleness.trans h.staleness⟩
    intro inquiry hmem
    rcases List.mem_append.mp hmem with hmem | hmem
    · exact hmore inquiry hmem
    · exact hmore' inquiry hmem

/-- To ask for anything but the windows keeps it. -/
theorem Asks.keeps {inquiry : Inquiry} {work work' : Workspace (Logged σ)}
    (h : Asks inquiry work work') (hinquiry : inquiry.isEnumeration = false) :
    Keeps work work' where
  log := ⟨[inquiry], h.log, by simpa using hinquiry⟩
  snapshot := by rw [h.cache]
  lastRefresh := by rw [h.cache]
  staleness := by rw [h.cache]

/-! ## Passes and queries -/

/-- How a pass goes, and whether it `ended` without being cut short. -/
inductive Refreshed (work : Workspace (Logged σ)) (ended : Bool) (work' : Workspace (Logged σ)) :
    Prop
  /-- The windows were not listed. -/
  | unlisted (answer : Except Overflow (Except Failure (List WindowHandle))) :
    (∀ handles, answer ≠ .ok (.ok handles)) → Asks (.call ⟨.enumerate, answer⟩) work work' →
      Refreshed work ended work'
  /-- The pass was cut short. -/
  | aborted (handles : List WindowHandle) (listed : Workspace (Logged σ)) : ended = false →
    Asks (.call ⟨.enumerate, .ok (.ok handles)⟩) work listed → Keeps listed work' →
      Refreshed work ended work'
  /-- The pass was completed. -/
  | completed (handles : List WindowHandle) (now : Nat) (windows : List WindowRecord)
    (listed timed passed : Workspace (Logged σ)) : ended = true →
      Asks (.call ⟨.enumerate, .ok (.ok handles)⟩) work listed →
        Asks (.clock (.ok now)) listed timed → Keeps timed passed →
          (∀ record ∈ windows, record.capturedAt = now) →
            work' = { passed with cache := passed.cache.install now windows } →
              Refreshed work ended work'

/-- How a query of the snapshot goes, and whether it `ended` without being cut short. -/
inductive Queried (work : Workspace (Logged σ)) (ended : Bool) (work' : Workspace (Logged σ)) : Prop
  /-- There was no pass so far. -/
  | first : work.cache.lastRefresh = none → Refreshed work ended work' → Queried work ended work'
  /-- The last pass is recent. -/
  | recent (refreshed now : Nat) : work.cache.lastRefresh = some refreshed →
    ¬ work.cache.staleness < now - refreshed → Asks (.clock (.ok now)) work work' →
      Queried work ended work'
  /-- The last pass is too long ago. -/
  | stale (refreshed now : Nat) (timed : Workspace (Logged σ)) :
    work.cache.lastRefresh = some refreshed → work.cache.staleness < now - refreshed →
      Asks (.clock (.ok now)) work timed → Refreshed timed ended work' → Queried work ended work'
  /-- The clock could not be read. -/
  | untimed (refreshed : Nat) (e : Overflow) : work.cache.lastRefresh = some refreshed →
    Asks (.clock (.error e)) work work' → Queried work ended work'

/-! ## What a pass leaves -/

/-- What becomes of the snapshot where a pass is completed at some time, or none. -/
structure Effect (time : Option Nat) (work work' : Workspace (Logged σ)) : Prop where
  /-- Without a completed pass there is the old snapshot, with its time. -/
  kept : time = none →
    work'.cache.snapshot = work.cache.snapshot ∧ work'.cache.lastRefresh = work.cache.lastRefresh
  /-- With one there is a new snapshot, of the next generation and taken at that time throughout. -/
  renewed : ∀ now, time = some now →
    work'.cache.snapshot.generation = work.cache.snapshot.generation + 1 ∧
      work'.cache.snapshot.capturedAt = some now ∧ work'.cache.lastRefresh = some now ∧
        ∀ record ∈ work'.cache.snapshot.windows, record.capturedAt = now
  /-- A snapshot may be as old as before. -/
  staleness : work'.cache.staleness = work.cache.staleness

/-- What is asked after the pass does not matter. -/
theorem Effect.then_keeps {time : Option Nat} {work work' work'' : Workspace (Logged σ)}
    (h : Effect time work work') (h' : Keeps work' work'') : Effect time work work'' where
  kept := by
    rw [h'.snapshot, h'.lastRefresh]
    exact h.kept
  renewed := by
    rw [h'.snapshot, h'.lastRefresh]
    exact h.renewed
  staleness := h'.staleness.trans h.staleness

/-- What can be told from a `segment` of the log. -/
structure Told (ended : Bool) (segment : List Inquiry) (work work' : Workspace (Logged σ)) :
    Prop where
  /-- What was asked is the segment. -/
  log : work'.log = work.log ++ segment
  /-- If it was not cut short, then a pass was completed just if the segment has a time for it. -/
  effect : Effect (if ended then Inquiry.passTime segment else none) work work'
  /-- If the windows were asked for and not listed, then the cache has not even learned a name. -/
  unlisted : ∀ inquiry ∈ segment, inquiry.isEnumeration = true → inquiry.lists = false →
    work'.cache = work.cache

/-- Where the cache is as it was, no pass was completed. -/
theorem Effect.of_cache {work work' : Workspace (Logged σ)} (h : work'.cache = work.cache) :
    Effect none work work' where
  kept _ := by rw [h]; exact ⟨rfl, rfl⟩
  renewed _ hnow := by cases hnow
  staleness := by rw [h]

/-- Nothing was asked, and nothing changed. -/
theorem Told.idle (ended : Bool) (work : Workspace (Logged σ)) : Told ended [] work work where
  log := (List.append_nil work.log).symm
  effect := by
    cases ended <;> exact .of_cache rfl
  unlisted := by simp

/-- The clock was read, and nothing else. -/
theorem Asks.told {reading : Except Overflow Nat} {work work' : Workspace (Logged σ)}
    (h : Asks (.clock reading) work work') (ended : Bool) :
    Told ended [.clock reading] work work' where
  log := h.log
  effect := by
    cases ended <;> exact .of_cache h.cache
  unlisted _ _ _ _ := h.cache

/-- A reading of the clock before does not matter. -/
theorem Asks.then_told {reading : Except Overflow Nat} {work timed work' : Workspace (Logged σ)}
    (h : Asks (.clock reading) work timed) {ended : Bool} {segment : List Inquiry}
    (h' : Told ended segment timed work') : Told ended (.clock reading :: segment) work work' where
  log := by
    rw [h'.log, h.log, List.append_assoc]
    rfl
  effect := by
    have heffect := h'.effect
    refine ⟨fun hnone => ?_, fun now hnow => ?_, ?_⟩
    · rw [← h.cache]
      exact heffect.kept hnone
    · rw [← h.cache]
      exact heffect.renewed now hnow
    · rw [heffect.staleness, h.cache]
  unlisted inquiry hmem henumeration hunlisted := by
    rw [← h.cache]
    rcases List.mem_cons.mp hmem with rfl | hmem
    · cases henumeration
    · exact h'.unlisted inquiry hmem henumeration hunlisted

/-- A pass asks for the windows once, at its beginning. Its three courses differ in whether they
were listed and in whether the pass came to its end, and in each of them the log tells which it
was. -/
theorem Refreshed.told {work work' : Workspace (Logged σ)} {ended : Bool}
    (h : Refreshed work ended work') :
    ∃ answer more, Told ended (.call ⟨.enumerate, answer⟩ :: more) work work' := by
  cases h with
  | unlisted answer hanswer hasks =>
    refine ⟨answer, [], hasks.log, ?_, fun _ _ _ _ => hasks.cache⟩
    have hnone : Inquiry.passTime [.call ⟨.enumerate, answer⟩] = none := by
      rcases answer with e | failure | handles <;> rfl
    rw [hnone, ite_self]
    exact .of_cache hasks.cache
  | aborted handles listed hended hasks hkeeps =>
    obtain ⟨more, hlog, hmore⟩ := hkeeps.log
    refine ⟨.ok (.ok handles), more, ?_, ?_, fun inquiry hmem henumeration hunlisted => ?_⟩
    · rw [hlog, hasks.log, List.append_assoc]
      rfl
    · rw [hended]
      exact (Effect.of_cache hasks.cache).then_keeps hkeeps
    · rw [Inquiry.lists_of_mem hmore hmem henumeration] at hunlisted
      cases hunlisted
  | completed handles now windows listed timed passed hended hlisted htimed hkeeps hwindows hwork =>
    obtain ⟨more, hlog, hmore⟩ := hkeeps.log
    refine ⟨.ok (.ok handles), .clock (.ok now) :: more, ?_, ?_,
      fun inquiry hmem henumeration hunlisted => ?_⟩
    · rw [hwork]
      show passed.log = _
      rw [hlog, htimed.log, hlisted.log]
      simp
    · have hgeneration : passed.cache.snapshot.generation = work.cache.snapshot.generation := by
        rw [hkeeps.snapshot, htimed.cache, hlisted.cache]
      have hstaleness : passed.cache.staleness = work.cache.staleness := by
        rw [hkeeps.staleness, htimed.cache, hlisted.cache]
      rw [hended, hwork]
      refine ⟨fun hnone => (by cases hnone), fun time htime => ?_, hstaleness⟩
      obtain rfl : now = time := Option.some.inj htime
      exact ⟨congrArg (· + 1) hgeneration, rfl, rfl, hwindows⟩
    · have hlater : ∀ inquiry ∈ Inquiry.clock (.ok now) :: more, inquiry.isEnumeration = false :=
        List.forall_mem_cons.mpr ⟨rfl, hmore⟩
      rw [Inquiry.lists_of_mem hlater hmem henumeration] at hunlisted
      cases hunlisted

/-- The cache agrees with the times of the passes completed. -/
structure Counts (staleness : Nat) (times : List Nat) (work : Workspace (Logged σ)) : Prop where
  /-- The generation is their number. -/
  generation : work.cache.snapshot.generation = times.length
  /-- The time of the last refresh is the last of them. -/
  lastRefresh : work.cache.lastRefresh = times.getLast?
  /-- It is the time of the snapshot too. -/
  capturedAt : work.cache.snapshot.capturedAt = times.getLast?
  /-- All records are of the last pass. -/
  whole : ∀ record ∈ work.cache.snapshot.windows, times.getLast? = some record.capturedAt
  /-- A snapshot may be as old as at the start. -/
  staleness : work.cache.staleness = staleness

/-- A completed pass adds its time, and no pass adds nothing. -/
theorem Counts.effect {staleness : Nat} {times : List Nat} {time : Option Nat}
    {work work' : Workspace (Logged σ)} (h : Counts staleness times work)
    (h' : Effect time work work') : Counts staleness (times ++ time.toList) work' := by
  have hstaleness := h'.staleness.trans h.staleness
  rcases time with _ | now
  · obtain ⟨hsnapshot, hlast⟩ := h'.kept rfl
    rw [Option.toList_none, List.append_nil]
    constructor
    case generation => rw [hsnapshot, h.generation]
    case lastRefresh => rw [hlast, h.lastRefresh]
    case capturedAt => rw [hsnapshot, h.capturedAt]
    case whole => rw [hsnapshot]; exact h.whole
    case staleness => exact hstaleness
  · obtain ⟨hgeneration, hcaptured, hlast, hwindows⟩ := h'.renewed now rfl
    have htimes : (times ++ (some now).toList).getLast? = some now := by simp
    constructor
    case generation => rw [hgeneration, h.generation]; simp
    case lastRefresh => rw [hlast, htimes]
    case capturedAt => rw [hcaptured, htimes]
    case whole =>
      intro record hmem
      rw [htimes, hwindows record hmem]
    case staleness => exact hstaleness

/-- A pass is due when the snapshot was never made, or is too old by the clock that is read
first. -/
def Due (segment : List Inquiry) (work : Workspace (Logged σ)) : Prop :=
  work.cache.lastRefresh = none ∨ ∃ refreshed now, work.cache.lastRefresh = some refreshed ∧
    segment.head? = some (.clock (.ok now)) ∧ work.cache.staleness < now - refreshed

/-- A query asks for the windows exactly when a pass is due. This is a matter of four courses; in
those without a pass the clock alone was read, and it did not show that one is due. -/
theorem Queried.told {work work' : Workspace (Logged σ)} {ended : Bool}
    (h : Queried work ended work') :
    ∃ segment, Told ended segment work work' ∧ segment ≠ [] ∧
      ((∃ inquiry ∈ segment, inquiry.isEnumeration = true) ↔ Due segment work) := by
  cases h with
  | first hlast hrefreshed =>
    obtain ⟨answer, more, htold⟩ := hrefreshed.told
    exact ⟨_, htold, by simp, iff_of_true ⟨_, List.mem_cons_self, rfl⟩ (.inl hlast)⟩
  | recent refreshed now hlast hrecent hasks =>
    refine ⟨_, hasks.told ended, by simp, iff_of_false (by simp [Inquiry.isEnumeration]) ?_⟩
    rintro (hnone | ⟨refreshed', now', hlast', hhead, hdue⟩)
    · rw [hlast] at hnone
      cases hnone
    · obtain rfl := Option.some.inj (hlast.symm.trans hlast')
      cases hhead
      exact hrecent hdue
  | stale refreshed now timed hlast hstale hasks hrefreshed =>
    obtain ⟨answer, more, htold⟩ := hrefreshed.told
    refine ⟨_, hasks.then_told htold, by simp,
      iff_of_true ⟨_, List.mem_cons_of_mem _ List.mem_cons_self, rfl⟩ ?_⟩
    exact .inr ⟨refreshed, now, hlast, rfl, hstale⟩
  | untimed refreshed e hlast hasks =>
    refine ⟨_, hasks.told ended, by simp, iff_of_false (by simp [Inquiry.isEnumeration]) ?_⟩
    rintro (hnone | ⟨refreshed', now', hlast', hhead, hdue⟩)
    · rw [hlast] at hnone
      cases hnone
    · cases hhead

/-! ## What the cache asks -/

variable [WindowSystem σ]

/-- A call is written down, also if it is cut short. -/
theorem call_asks (call : NativeCall) (work : Workspace (Logged σ)) :
    (WindowSystem.call call : Action (Workspace (Logged σ)) _).Ensures work
      (fun answer => Asks (.call ⟨call, .ok answer⟩) work)
      fun work' => ∃ e, Asks (.call ⟨call, .error e⟩) work work' := by
  have hexec : (WindowSystem.call call : Action (Workspace (Logged σ)) _).exec work =
      (((WindowSystem.call call).exec work.system.system).1, { work with system :=
        { system := ((WindowSystem.call call).exec work.system.system).2
          log := work.log ++
            [.call ⟨call, ((WindowSystem.call call).exec work.system.system).1⟩] } }) := rfl
  rcases hanswer : ((WindowSystem.call call).exec work.system.system).1 with e | answer
  · rw [hanswer] at hexec
    rw [ensures_of_error hexec]
    exact ⟨e, rfl, rfl⟩
  · rw [hanswer] at hexec
    rw [ensures_of_ok hexec]
    exact ⟨rfl, rfl⟩

/-- So is a reading of the clock. -/
theorem readClock_asks (work : Workspace (Logged σ)) :
    (WindowSystem.readClock : Action (Workspace (Logged σ)) Nat).Ensures work
      (fun now => Asks (.clock (.ok now)) work)
      fun work' => ∃ e, Asks (.clock (.error e)) work work' := by
  have hexec : (WindowSystem.readClock : Action (Workspace (Logged σ)) Nat).exec work =
      ((WindowSystem.readClock.exec work.system.system).1, { work with system :=
        { system := (WindowSystem.readClock.exec work.system.system).2
          log := work.log ++ [.clock (WindowSystem.readClock.exec work.system.system).1] } }) := rfl
  rcases hreading : (WindowSystem.readClock.exec work.system.system).1 with e | now
  · rw [hreading] at hexec
    rw [ensures_of_error hexec]
    exact ⟨e, rfl, rfl⟩
  · rw [hreading] at hexec
    rw [ensures_of_ok hexec]
    exact ⟨rfl, rfl⟩

/-- A call that is no enumeration keeps the snapshot. -/
theorem call_keeps {call : NativeCall} (hcall : call ≠ .enumerate) :
    Follows Keeps (WindowSystem.call call : Action (Workspace (Logged σ)) _) := by
  intro work
  have hnone : ∀ answer, (Inquiry.call ⟨call, answer⟩).isEnumeration = false := by
    intro answer
    unfold Inquiry.isEnumeration
    split
    · rename_i heq
      cases heq
      exact absurd rfl hcall
    · rfl
  exact (call_asks call work).mono (fun _ _ h => h.keeps (hnone _))
    fun _ ⟨_, h⟩ => h.keeps (hnone _)

/-- Asking for a name keeps it, with the cache at most a name richer. -/
theorem processName?_keeps (process : ProcessId) :
    Follows Keeps (processName? process : Action (Workspace (Logged σ)) _) :=
  processName?_conforms Keeps.isPath.toSelf (fun _ => call_keeps nofun)
    (fun _ _ _ work => ⟨⟨[], (List.append_nil work.log).symm, by simp⟩, rfl, rfl, rfl⟩) process

/-- So does inspecting a window. -/
theorem record?_keeps (capturedAt : Nat) (window : WindowHandle) :
    Follows Keeps (record? capturedAt window : Action (Workspace (Logged σ)) _) :=
  record?_conforms Keeps.isPath.toSelf
    (fun call hinspects => call_keeps (by rintro rfl; cases hinspects)) processName?_keeps
    capturedAt window

/-- How a pass goes: listed or not, cut short or completed. -/
theorem refresh_course (work : Workspace (Logged σ)) :
    (refresh : Action (Workspace (Logged σ)) Unit).Ensures work
      (fun _ => Refreshed work true) (Refreshed work false) := by
  unfold refresh
  rw [ensures_bind]
  refine (call_asks .enumerate work).mono (fun answer listed hlisted => ?_)
    fun _ ⟨e, h⟩ => .unlisted (.error e) (by simp) h
  rcases answer with failure | handles
  · exact .unlisted (.ok (.error failure)) (by simp) hlisted
  dsimp only
  rw [ensures_bind]
  refine (readClock_asks listed).mono (fun now timed htimed => ?_)
    fun _ ⟨e, h⟩ => .aborted handles listed rfl hlisted (h.keeps rfl)
  rw [ensures_bind]
  have hcollect : Follows Keeps (Action.collect (record? now) handles :
      Action (Workspace (Logged σ)) _) :=
    Conforms.collect Keeps.isPath.toSelf handles (record?_keeps now)
  refine ((collect_ordinary now handles timed).and (hcollect timed)).mono
    (fun windows passed h => ?_) fun _ h => .aborted handles listed rfl hlisted
      (Keeps.isPath.trans (htimed.keeps rfl) h.2)
  rw [modifyCache, ensures_modify]
  exact .completed handles now windows listed timed passed rfl hlisted htimed h.2
    (fun record hmem => (h.1 record hmem).capturedAt) rfl

/-- How a query of the snapshot goes: with a look at the clock if there was a pass, and with a pass
if it is due. -/
theorem snapshot_course (work : Workspace (Logged σ)) :
    (snapshot : Action (Workspace (Logged σ)) WindowSnapshot).Ensures work
      (fun _ => Queried work true) (Queried work false) := by
  unfold snapshot isStale
  rw [ensures_bind, ensures_bind, ensures_get]
  rcases hlast : work.cache.lastRefresh with _ | refreshed
  · dsimp only
    rw [ensures_pure, if_pos rfl, ensures_bind]
    exact (refresh_course work).mono (fun _ _ h => .first hlast h) fun _ h => .first hlast h
  dsimp only
  rw [ensures_bind]
  refine (readClock_asks work).mono (fun now timed htimed => ?_)
    fun _ ⟨e, h⟩ => .untimed refreshed e hlast h
  rw [ensures_bind, ensures_get, ensures_pure, htimed.cache]
  by_cases hstale : work.cache.staleness < now - refreshed
  · rw [if_pos (decide_eq_true hstale), ensures_bind]
    exact (refresh_course timed).mono
      (fun _ _ h => .stale refreshed now timed hlast hstale htimed h)
      fun _ h => .stale refreshed now timed hlast hstale htimed h
  · rw [if_neg (by simpa using hstale)]
    exact .recent refreshed now hlast hstale htimed

/-! ## Operations -/

/-- What can be asked of the cache. -/
inductive Operation where
  /-- The snapshot itself. -/
  | snapshot
  /-- All its windows. -/
  | windows
  /-- Those on a monitor. -/
  | windowsOn (monitor : MonitorHandle) (exclude : Option WindowHandle)
  /-- Those of a program. -/
  | windowsOf (name : String)
  /-- The uppermost one that fills its monitor for a target. -/
  | findFullScreen (targets : List String)
  /-- The name of the process that owns a window. -/
  | ownerName (window : WindowHandle)
  /-- The names of all processes that own windows. -/
  | processNames
  /-- A pass, due or not. -/
  | refresh
  /-- To forget everything. -/
  | clear
  deriving DecidableEq, Repr

namespace Operation

/-- Perform an operation; its answer does not matter here. -/
def act {τ : Type} [WindowSystem τ] : Operation → Action (Workspace τ) Unit
  | .snapshot => do let _ ← Workspace.snapshot
  | .windows => do let _ ← Workspace.windows
  | .windowsOn monitor exclude => do let _ ← Workspace.windowsOn monitor exclude
  | .windowsOf name => do let _ ← Workspace.windowsOf name
  | .findFullScreen targets => do let _ ← Workspace.findFullScreen targets
  | .ownerName window => do let _ ← Workspace.ownerName? window
  | .processNames => do let _ ← Workspace.processNames
  | .refresh => Workspace.refresh
  | .clear => clearCache

/-- The operation is a query that reads the snapshot. -/
def reads : Operation → Bool
  | .windowsOf name => ProcessName.normalize name ≠ ""
  | .findFullScreen targets => !targets.isEmpty
  | .refresh => false
  | .clear => false
  | _ => true

/-- The beginning of an operation, in which it may make a pass. -/
def opening {τ : Type} [WindowSystem τ] (op : Operation) : Action (Workspace τ) Unit :=
  if op.reads then do let _ ← Workspace.snapshot
  else if op = .refresh then Workspace.refresh
  else pure ()

/-- The time of the pass that an operation completes. -/
def completedAt (op : Operation) (work : Workspace (Logged σ)) : Option Nat :=
  if (op.opening.exec work).1.isOk then Inquiry.passTime (asked work (op.opening.exec work).2)
  else none

/-- The windows are asked for while an operation is performed. -/
def Enumerates (op : Operation) (work : Workspace (Logged σ)) : Prop :=
  ∃ inquiry ∈ asked work (op.act.exec work).2, inquiry.isEnumeration = true

/-- How the beginning of an operation that reads the snapshot goes. -/
theorem opening_queried {op : Operation} (hop : op.reads = true) (work : Workspace (Logged σ)) :
    Queried work (op.opening.exec work).1.isOk (op.opening.exec work).2 := by
  have hqueried := (snapshot_course work).isOk
  have hmap : ∀ answer : Except Overflow WindowSnapshot,
      (answer.map fun _ => ()).isOk = answer.isOk := by
    intro answer
    cases answer <;> rfl
  rw [opening, if_pos hop, exec_forget, hmap]
  exact hqueried

/-- All that an operation can do to the snapshot can be told from the log of its beginning. -/
theorem opening_told (op : Operation) (work : Workspace (Logged σ)) :
    ∃ segment, Told (op.opening.exec work).1.isOk segment work (op.opening.exec work).2 := by
  rcases hreads : op.reads
  · rw [opening, hreads, if_neg (by simp)]
    split
    · obtain ⟨answer, more, htold⟩ := (refresh_course work).isOk.told
      exact ⟨_, htold⟩
    · exact ⟨[], .idle true work⟩
  · obtain ⟨segment, htold, -⟩ := (opening_queried hreads work).told
    exact ⟨segment, htold⟩

section follows

variable {R : Workspace (Logged σ) → Workspace (Logged σ) → Prop} (hR : IsPath R)
  (hmonitor : ∀ monitor, Follows R (WindowSystem.call (.monitorInfo monitor) :
    Action (Workspace (Logged σ)) _))
  (hprocess : ∀ window, Follows R (WindowSystem.call (.process window) :
    Action (Workspace (Logged σ)) _))
  (hname : ∀ process, Follows R (processName? process : Action (Workspace (Logged σ)) _))
include hR hmonitor hprocess hname

/-- After reading the snapshot a query makes no pass; it asks for monitors and names at most. -/
theorem act_follows_of_reads {op : Operation} (hop : op.reads = true)
    (work : Workspace (Logged σ)) :
    R (Workspace.snapshot.exec work).2 (op.act.exec work).2 := by
  have hpure : ∀ {α : Type} (a : α), Follows R (pure a : Action (Workspace (Logged σ)) α) :=
    fun a => .pure hR a
  have hwindows : R (Workspace.snapshot.exec work).2 (Workspace.windows.exec work).2 :=
    Follows.exec_bind hR Workspace.snapshot (fun snapshot => hpure snapshot.windows) work
  unfold act
  cases op with
  | snapshot =>
    rw [exec_forget]
    exact hR.refl _
  | windows =>
    rw [exec_forget]
    exact hwindows
  | windowsOn monitor exclude =>
    rw [exec_forget]
    exact hR.trans hwindows (Follows.exec_bind hR Workspace.windows (fun _ => hpure _) work)
  | windowsOf name =>
    have hnonempty : ¬ ProcessName.normalize name = "" := by simpa [reads] using hop
    rw [exec_forget, Workspace.windowsOf, if_neg hnonempty]
    exact hR.trans hwindows (Follows.exec_bind hR Workspace.windows (fun _ => hpure _) work)
  | findFullScreen targets =>
    have htargets : ¬ targets.isEmpty = true := by simpa [reads] using hop
    rw [exec_forget, Workspace.findFullScreen, if_neg htargets]
    exact hR.trans hwindows (Follows.exec_bind hR Workspace.windows (fun records =>
      firstFullScreen_conforms hR.toSelf hmonitor _ [] records) work)
  | ownerName window =>
    rw [exec_forget]
    refine Follows.exec_bind hR Workspace.snapshot (fun snapshot => ?_) work
    split
    · exact hpure _
    refine .bind hR (hprocess window) fun process => ?_
    split
    · exact hname _
    · exact hpure _
  | processNames =>
    rw [exec_forget]
    exact Follows.exec_bind hR Workspace.snapshot (fun _ => hpure _) work
  | refresh => cases hop
  | clear => cases hop

/-- After its beginning an operation asks for monitors and names at most. -/
theorem act_follows {op : Operation} (hop : op ≠ .clear) (work : Workspace (Logged σ)) :
    R (op.opening.exec work).2 (op.act.exec work).2 := by
  rcases hreads : op.reads
  · -- a query that does not read, or a pass by itself
    have hsame : op.opening.exec work = op.act.exec work := by
      cases op with
      | windowsOf name =>
        have hempty : ProcessName.normalize name = "" := by simpa [reads] using hreads
        rw [opening, hreads, act, exec_forget, Workspace.windowsOf, if_pos hempty]
        rfl
      | findFullScreen targets =>
        have htargets : targets.isEmpty = true := by simpa [reads] using hreads
        rw [opening, hreads, act, exec_forget, Workspace.findFullScreen, if_pos htargets]
        rfl
      | refresh => rfl
      | clear => exact absurd rfl hop
      | _ => cases hreads
    rw [hsame]
    exact hR.refl _
  · rw [opening, if_pos hreads, exec_forget]
    exact act_follows_of_reads hR hmonitor hprocess hname hreads work

end follows

/-- After its beginning an operation makes no pass. -/
theorem act_keeps {op : Operation} (hop : op ≠ .clear) (work : Workspace (Logged σ)) :
    Keeps (op.opening.exec work).2 (op.act.exec work).2 :=
  act_follows Keeps.isPath (fun _ => call_keeps nofun) (fun _ => call_keeps nofun)
    processName?_keeps hop work

/-- An operation completes a pass, or it leaves the snapshot alone. -/
theorem effect {op : Operation} (hop : op ≠ .clear) (work : Workspace (Logged σ)) :
    Effect (op.completedAt work) work (op.act.exec work).2 := by
  obtain ⟨segment, htold⟩ := op.opening_told work
  have heffect := htold.effect
  rw [← asked_eq htold.log] at heffect
  exact heffect.then_keeps (op.act_keeps hop work)

/-- A query of the snapshot asks for the windows exactly when a pass is due. -/
theorem enumerates_iff {op : Operation} (hop : op.reads = true) (work : Workspace (Logged σ)) :
    op.Enumerates work ↔ Due (asked work (op.act.exec work).2) work := by
  have hclear : op ≠ .clear := by
    rintro rfl
    cases hop
  obtain ⟨segment, htold, hsegment, hdue⟩ := (opening_queried hop work).told
  obtain ⟨more, hlog, hmore⟩ := (act_keeps hclear work).log
  have hasked : asked work (op.act.exec work).2 = segment ++ more :=
    asked_eq (by rw [hlog, htold.log, List.append_assoc])
  have hhead : (segment ++ more).head? = segment.head? := by
    rw [List.head?_append, Option.or_of_isSome (by simpa using hsegment)]
  unfold Enumerates Due
  rw [hasked, hhead]
  refine Iff.trans ?_ hdue
  constructor
  · rintro ⟨inquiry, hmem, henumeration⟩
    rcases List.mem_append.mp hmem with hmem | hmem
    · exact ⟨inquiry, hmem, henumeration⟩
    · rw [hmore inquiry hmem] at henumeration
      cases henumeration
  · rintro ⟨inquiry, hmem, henumeration⟩
    exact ⟨inquiry, List.mem_append_left more hmem, henumeration⟩

end Operation

/-! ## Runs -/

/-- Something that happens to a cache: an operation, or an event outside. -/
inductive Input (ε : Type) where
  /-- The cache is asked for something. -/
  | operation (op : Operation)
  /-- Something happens to the window system. -/
  | outside (event : ε)
  deriving DecidableEq, Repr

/-- The state after an input. -/
def step (apply : ε → σ → σ) (work : Workspace (Logged σ)) : Input ε → Workspace (Logged σ)
  | .operation op => (op.act.exec work).2
  | .outside event => outside (Logged.apply apply) event work

/-- The state after a list of inputs. -/
def run (apply : ε → σ → σ) (inputs : List (Input ε)) (work : Workspace (Logged σ)) :
    Workspace (Logged σ) := inputs.foldl (step apply) work

/-- The operations of a run with the states in which they begin. -/
def performed (apply : ε → σ → σ) :
    List (Input ε) → Workspace (Logged σ) → List (Operation × Workspace (Logged σ))
  | [], _ => []
  | .operation op :: rest, work =>
    (op, work) :: performed apply rest (step apply work (.operation op))
  | .outside event :: rest, work => performed apply rest (step apply work (.outside event))

/-- The times of the passes completed since the cache was last cleared. -/
def passes (apply : ε → σ → σ) (inputs : List (Input ε)) (work : Workspace (Logged σ)) : List Nat :=
  ((performed apply inputs work).rtakeWhile (·.1 ≠ .clear)).filterMap fun x => x.1.completedAt x.2

/-- The last input of a run is a step after the others. -/
theorem run_concat (apply : ε → σ → σ) (inputs : List (Input ε)) (input : Input ε)
    (work : Workspace (Logged σ)) :
    run apply (inputs ++ [input]) work = step apply (run apply inputs work) input := by
  simp [run]

/-- The operations of the first part, and then those of the second. -/
theorem performed_append (apply : ε → σ → σ) (before after : List (Input ε))
    (work : Workspace (Logged σ)) :
    performed apply (before ++ after) work =
      performed apply before work ++ performed apply after (run apply before work) := by
  induction before generalizing work with
  | nil => rfl
  | cons input rest ih => cases input <;> simp [performed, ih, run]

/-- What happens outside completes no pass. -/
theorem passes_outside (apply : ε → σ → σ) (inputs : List (Input ε)) (event : ε)
    (work : Workspace (Logged σ)) :
    passes apply (inputs ++ [.outside event]) work = passes apply inputs work := by
  simp [passes, performed_append, performed]

/-- To clear the cache forgets the passes. -/
theorem passes_clear (apply : ε → σ → σ) (inputs : List (Input ε)) (work : Workspace (Logged σ)) :
    passes apply (inputs ++ [.operation .clear]) work = [] := by
  unfold passes
  rw [performed_append, performed, performed, List.rtakeWhile_concat_neg _ _ _ (by simp)]
  rfl

/-- One more operation adds the pass that it completes, if it completes one. -/
theorem passes_operation (apply : ε → σ → σ) (inputs : List (Input ε)) {op : Operation}
    (hop : op ≠ .clear) (work : Workspace (Logged σ)) :
    passes apply (inputs ++ [.operation op]) work =
      passes apply inputs work ++ (op.completedAt (run apply inputs work)).toList := by
  unfold passes
  rw [performed_append, performed, performed, List.rtakeWhile_concat_pos _ _ _ (by simpa using hop),
    List.filterMap_append]
  rcases hcompleted : op.completedAt (run apply inputs work) with _ | now <;> simp [hcompleted]

/-- In every state of a run the cache agrees with the passes. By induction from the end of the run,
with one case for each kind of last input. -/
theorem run_counts (staleness : Nat) (system : σ) (apply : ε → σ → σ) (inputs : List (Input ε)) :
    Counts staleness (passes apply inputs (.unseen staleness { system }))
      (run apply inputs (.unseen staleness { system })) := by
  induction inputs using List.reverseRecOn with
  | nil => exact ⟨rfl, rfl, rfl, by simp [run, unseen], rfl⟩
  | append_singleton inputs input ih =>
    rw [run_concat]
    cases input with
    | outside event =>
      rw [passes_outside]
      exact ⟨ih.generation, ih.lastRefresh, ih.capturedAt, ih.whole, ih.staleness⟩
    | operation op =>
      by_cases hop : op = .clear
      · rw [hop, passes_clear]
        exact ⟨rfl, rfl, rfl, fun record hmem => (by cases hmem), ih.staleness⟩
      · rw [passes_operation apply inputs hop]
        exact ih.effect (op.effect hop _)

/-- Generations are whole and counted. In every run the generation is the number of passes completed
since the cache was last cleared, and the time of the last refresh is that of the last of them. An
operation that completes no pass leaves the snapshot and this time alone, and if the windows could
not be listed, then the whole cache. A query of the snapshot makes a pass exactly when none was
completed so far or the last one is longer ago than permitted. -/
theorem generations_counted (staleness : Nat) (system : σ) (apply : ε → σ → σ)
    (inputs : List (Input ε)) :
    let times := passes apply inputs (.unseen staleness { system })
    let work := run apply inputs (.unseen staleness { system })
    Counts staleness times work ∧
      (∀ op : Operation, op ≠ .clear → op.completedAt work = none →
        (op.act.exec work).2.cache.snapshot = work.cache.snapshot ∧
          (op.act.exec work).2.cache.lastRefresh = work.cache.lastRefresh) ∧
      (∀ op : Operation, (∃ inquiry ∈ asked work (op.opening.exec work).2,
        inquiry.isEnumeration = true ∧ inquiry.lists = false) →
          (op.opening.exec work).2.cache = work.cache) ∧
      ∀ op : Operation, op.reads = true → (op.Enumerates work ↔
        times = [] ∨ ∃ last now, times.getLast? = some last ∧
          (asked work (op.act.exec work).2).head? = some (.clock (.ok now)) ∧
            staleness < now - last) := by
  intro times work
  have hcounts : Counts staleness times work := run_counts staleness system apply inputs
  refine ⟨hcounts, fun op hop hnone => (op.effect hop work).kept hnone, ?_, fun op hop => ?_⟩
  · rintro op ⟨inquiry, hmem, henumeration, hunlisted⟩
    obtain ⟨segment, htold⟩ := op.opening_told work
    rw [asked_eq htold.log] at hmem
    exact htold.unlisted inquiry hmem henumeration hunlisted
  · rw [Operation.enumerates_iff hop, Due, hcounts.lastRefresh, hcounts.staleness,
      List.getLast?_eq_none_iff]

/-- Of four passes the second finds nothing listed and the third is cut short by a window far from
the monitor. The query at the end makes none. -/
theorem generations_counted_demo :
    let far := { DesktopWindow.titled 1 "Far away" with
      bounds := ⟨-2000000000, 0, -1999999000, 500⟩ }
    let screen : Rect := ⟨2000000000, 0, 2000001920, 1080⟩
    let inputs : List (Input Desktop.Event) :=
      [.outside (.addMonitor ⟨screen, screen⟩), .outside (.addProcess 1 "notepad.exe"),
        .operation .snapshot, .outside (.wait 10), .outside (.failEnumeration true),
        .operation .windows, .outside (.failEnumeration false), .outside (.openWindow far),
        .operation .refresh, .outside (.closeWindow ⟨0x1000⟩), .operation .processNames,
        .operation .windows]
    let start := Workspace.unseen 5 { system := ({} : Desktop) }
    let work := run Desktop.Event.apply inputs start
    passes Desktop.Event.apply inputs start = [0, 14] ∧ work.cache.snapshot.generation = 2 ∧
      work.cache.lastRefresh = some 14 := by
  intro far screen inputs start work
  have hpasses : passes Desktop.Event.apply inputs start = [0, 14] := by decide +kernel
  have hcounts : Counts 5 (passes Desktop.Event.apply inputs start) work :=
    (generations_counted 5 ({} : Desktop) Desktop.Event.apply inputs).1
  rw [hpasses] at hcounts
  exact ⟨hpasses, hcounts.generation, hcounts.lastRefresh⟩

end Workspace

end SoloScreen
