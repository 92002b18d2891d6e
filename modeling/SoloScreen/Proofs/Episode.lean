import SoloScreen.Proofs.Ownership
import SoloScreen.Proofs.Veil

/-!
# Episodes are undone exactly

An episode begins with `minimizeOnMonitor`, goes on with any number of calls of `minimizeBeside`,
and ends with `restore`. However the desktop misbehaves and however old the snapshots are, the
desktop is then as it was at the beginning (`Minimizer.episode_reversible`).

The invariant is `Desktop.Veiled`: the list holds the windows that are minimized compared to the
beginning, each once, and the desktop remembers how each of them was shown. It is kept by every
request, since a window that yields was not minimized and so is not on the list
(`Minimizer.hide_veiled`, `Minimizer.hideAgain_veiled`). Nothing is assumed of the snapshot: which
windows are asked does not matter.
-/

namespace SoloScreen

open SoloScreen.Action

namespace Minimizer

open Desktop

variable {base : Desktop} {p : Minimizer × Workspace Desktop}

/-! ## Requests -/

/-- Hiding a window keeps the invariant: it comes onto the list if it yields. -/
theorem hide_veiled (window : WindowHandle) (h : Veiled base p.1.hidden p.2.system) :
    (hide window).Ensures p (fun _ q => Veiled base q.1.hidden q.2.system) fun _ => False := by
  rw [ensures_of_ok (hide_exec window p)]
  have hasked := h.asked window
  rcases hyields : p.2.system.yields window <;> simpa [hyields] using hasked

/-- A window that is minimized again was not on the list, so the list grows with each hit. -/
theorem hideAgain_veiled (spared : Option ProcessId) (record : WindowRecord)
    (h : Veiled base p.1.hidden p.2.system) :
    (hideAgain spared record).Ensures p (fun hit q => Veiled base q.1.hidden q.2.system ∧
      q.1.hidden.length = p.1.hidden.length + hit.toNat) fun _ => False := by
  have hexec := hideAgain_exec spared record p
  split at hexec
  · rw [ensures_of_ok hexec]
    exact ⟨h, rfl⟩
  rw [ensures_of_ok hexec]
  have hasked := h.asked record.handle
  rcases hyields : p.2.system.yields record.handle
  · simpa [hyields] using hasked
  · have hnew : record.handle ∉ p.1.hidden := ((h.yields_iff record.handle).mp hyields).2
    simpa [hyields, hnew] using hasked

/-! ## Operations -/

/-- The beginning of an episode: what is minimized is on the list, and the answer is its length. -/
theorem minimizeOnMonitor_veiled (monitor : MonitorHandle) (exclude : Option WindowHandle)
    (p : Minimizer × Workspace Desktop) :
    (minimizeOnMonitor monitor exclude).run.Ensures p
      (fun answer q => ∀ n, answer = .ok n →
        Veiled p.2.system q.1.hidden q.2.system ∧ q.1.hidden.length = n) fun _ => True := by
  rw [ensures_minimizeOnMonitor]
  split
  · simp
  refine (Workspace.queriesConform_alike.windowsOn monitor exclude p.2).mono
    (fun records work halike => ?_) fun _ _ => trivial
  have hstart : Veiled p.2.system [] work.system := (Veiled.refl p.2.system).alike halike
  refine (Ensures.each (I := fun _ q => Veiled p.2.system q.1.hidden q.2.system)
    (fun record _ q _ hq => hide_veiled record.handle hq) hstart).mono (fun _ q hq n hn => ?_)
    fun _ => False.elim
  exact ⟨hq, Except.ok.inj hn⟩

/-- An episode goes on: the list grows by the answer. It stays as it is if there is none. -/
theorem minimizeBeside_veiled (target : WindowHandle) (monitor : MonitorHandle)
    (h : Veiled base p.1.hidden p.2.system) :
    (minimizeBeside target monitor).run.Ensures p
      (fun answer q => Veiled base q.1.hidden q.2.system ∧
        q.1.hidden.length = p.1.hidden.length + answer.toOption.getD 0)
      fun q => Veiled base q.1.hidden q.2.system ∧ q.1.hidden = p.1.hidden := by
  rw [ensures_minimizeBeside]
  split
  · exact ⟨h, rfl⟩
  refine (Workspace.queriesConform_alike.windowsOn monitor (some target) p.2).mono
    (fun records work halike => ?_) fun _ halike => ⟨h.alike halike, rfl⟩
  refine (Ensures.count (n := 0) (I := fun k _ q => Veiled base q.1.hidden q.2.system ∧
    q.1.hidden.length = p.1.hidden.length + k) (fun k record _ q _ hq => ?_)
    ⟨h.alike halike, rfl⟩).mono (fun n q hq => ?_) fun _ => False.elim
  · refine (hideAgain_veiled _ record hq.1).mono (fun hit r hr => ⟨hr.1, ?_⟩) fun _ => id
    rw [hr.2, hq.2, Nat.add_assoc]
  · rw [Nat.zero_add] at hq
    exact hq

/-! ## What happens during an episode -/

/-- The input may come during an episode: windows that came back are minimized, the cache makes a
pass or is cleared, or time passes. -/
def Input.continues : Input Desktop.Event → Bool
  | .operation (.minimizeBeside _ _) => true
  | .refresh => true
  | .clearCache => true
  | .outside (.wait _) => true
  | _ => false

/-- How many windows an input minimizes beside a window: its answer, if it has one. -/
def Input.gain (input : Input Desktop.Event) (p : Minimizer × Workspace Desktop) : Nat :=
  match input with
  | .operation (.minimizeBeside target monitor) =>
    match ((minimizeBeside target monitor).run.exec p).1 with
    | .ok (.ok n) => n
    | _ => 0
  | _ => 0

/-- How many windows are minimized beside a window during a list of inputs. -/
def gains : List (Input Desktop.Event) → Minimizer × Workspace Desktop → Nat
  | [], _ => 0
  | input :: rest, p => input.gain p + gains rest (step Desktop.Event.apply p input)

/-- An input that may come during an episode keeps the invariant, and the list grows by what it
gains. -/
theorem step_veiled {input : Input Desktop.Event} (hinput : input.continues = true)
    (h : Veiled base p.1.hidden p.2.system) :
    Veiled base (step Desktop.Event.apply p input).1.hidden
        (step Desktop.Event.apply p input).2.system ∧
      (step Desktop.Event.apply p input).1.hidden.length = p.1.hidden.length + input.gain p := by
  cases input with
  | operation operation =>
    cases operation with
    | minimizeBeside target monitor =>
      have hbeside := minimizeBeside_veiled target monitor h
      simp only [step, Operation.act, exec_forget, Input.gain]
      rcases hexec : (minimizeBeside target monitor).run.exec p with ⟨e | answer, q⟩
      · rw [ensures_of_error hexec] at hbeside
        exact ⟨hbeside.1, by rw [hbeside.2]; rfl⟩
      · rw [ensures_of_ok hexec] at hbeside
        rcases answer with failure | n <;> exact hbeside
    | minimizeOnMonitor | restore | forget => simp [Input.continues] at hinput
  | refresh => exact ⟨h.alike (Workspace.queriesConform_alike.refresh.exec_snd p.2), rfl⟩
  | clearCache => exact ⟨h, rfl⟩
  | outside event =>
    cases event with
    | wait time => exact ⟨h.alike (.of_counters _ _ _ _ _), rfl⟩
    | _ => simp [Input.continues] at hinput

/-- So does a run of them. -/
theorem run_veiled {inputs : List (Input Desktop.Event)}
    (hinputs : ∀ input ∈ inputs, input.continues = true)
    (h : Veiled base p.1.hidden p.2.system) :
    Veiled base (run Desktop.Event.apply inputs p).1.hidden
        (run Desktop.Event.apply inputs p).2.system ∧
      (run Desktop.Event.apply inputs p).1.hidden.length =
        p.1.hidden.length + gains inputs p := by
  induction inputs generalizing p with
  | nil => exact ⟨h, rfl⟩
  | cons input rest ih =>
    obtain ⟨hfirst, hgain⟩ := step_veiled (hinputs input List.mem_cons_self) h
    obtain ⟨hveiled, hlength⟩ :=
      ih (fun other hmem => hinputs other (List.mem_cons_of_mem input hmem)) hfirst
    refine ⟨hveiled, ?_⟩
    show (run Desktop.Event.apply rest (step Desktop.Event.apply p input)).1.hidden.length = _
    rw [hlength, hgain, gains, Nat.add_assoc]

/-! ## Whole episodes -/

/-- Minimizing and restoring are inverse to each other. On every desktop, misbehaving ones included,
and with every cache: if minimizing the windows of a monitor answers `n`, and after that windows
that came back are minimized any number of times, then a restore answers `n` plus the sum of their
answers, each window is as it was at the beginning, and the list is empty. -/
theorem episode_reversible (monitor : MonitorHandle) (exclude : Option WindowHandle)
    (p : Minimizer × Workspace Desktop) (n : Nat) (inputs : List (Input Desktop.Event))
    (hbegins : ((minimizeOnMonitor monitor exclude).run.exec p).1 = .ok (.ok n))
    (hinputs : ∀ input ∈ inputs, input.continues = true) :
    let q := ((minimizeOnMonitor monitor exclude).run.exec p).2
    let r := run Desktop.Event.apply inputs q
    (restore.exec r).1 = .ok (n + gains inputs q) ∧
      (∀ window, (restore.exec r).2.2.system.find? window = p.2.system.find? window) ∧
        (restore.exec r).2.1.hidden = [] := by
  intro q r
  have hq : Veiled p.2.system q.1.hidden q.2.system ∧ q.1.hidden.length = n :=
    (ensures_of_ok (Prod.ext hbegins rfl)).mp (minimizeOnMonitor_veiled monitor exclude p) n rfl
  obtain ⟨hveiled, hlength⟩ := run_veiled hinputs hq.1
  obtain ⟨total, last, hexec, htotal, hempty, hback, -⟩ := (restore_veiled hveiled).exists_exec
  rw [hexec, htotal, hlength, hq.2]
  exact ⟨rfl, fun window => by simpa using hback.find? window, hempty⟩

/-- The desktop still remembers a window as maximized that is shown as usual by now. It is
minimized, time passes, and then the other window is minimized beside it, while a monitor that does
not exist makes a call fail. -/
theorem episode_reversible_demo :
    let desktop := (((Desktop.demo.setShowState ⟨0x1010⟩ .maximized).requestState ⟨0x1010⟩
      .minimize).2).setShowState ⟨0x1010⟩ .normal
    let inputs : List (Input Desktop.Event) :=
      [.outside (.wait 5), .operation (.minimizeBeside ⟨0x1010⟩ ⟨0x99⟩),
        .operation (.minimizeBeside ⟨0x1010⟩ ⟨0x10⟩), .refresh]
    ∃ r, r = run Desktop.Event.apply inputs ((minimizeOnMonitor ⟨0x10⟩ (some ⟨0x1020⟩)).run.exec
        ({}, Workspace.unseen 1000 desktop)).2 ∧
      r.1.hidden = [⟨0x1010⟩, ⟨0x1020⟩] ∧ (restore.exec r).1 = .ok 2 ∧
        (restore.exec r).2.2.system.find? ⟨0x1010⟩ = desktop.find? ⟨0x1010⟩ := by
  intro desktop inputs
  have hgains : gains inputs ((minimizeOnMonitor ⟨0x10⟩ (some ⟨0x1020⟩)).run.exec
    ({}, Workspace.unseen 1000 desktop)).2 = 1 := by decide +kernel
  obtain ⟨hanswer, hback, -⟩ := episode_reversible ⟨0x10⟩ (some ⟨0x1020⟩)
    ({}, Workspace.unseen 1000 desktop) 1 inputs (by decide +kernel) (by decide)
  rw [hgains] at hanswer
  exact ⟨_, rfl, by decide +kernel, hanswer, hback ⟨0x1010⟩⟩

end Minimizer

end SoloScreen
