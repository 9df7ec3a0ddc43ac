import Screensaver.Proofs.Files
import Screensaver.Saver

/-! Before a backend runs.

Three things have to be in order for a run: the settings, the backend they name, and the log if there
is one. They are looked at one after the other, and each stage leaves the files as it has found them,
but for the last, which makes the file of the log. `Admits` says that all of them are in order and
`Denies` what the first is that is not; one of the two always holds. As the stage that changes files
comes last, a run that is denied has changed nothing (`Denies.prepare`).

`run_launches` says what follows. Either the backend runs, exactly once, and its error is the run's
error, or no backend runs and the run has changed nothing. A run that is admitted has changed at most
the file of its log, and there it has only added something at the end. To count the runs of backends,
each is made to note when it runs and what it is given. -/
namespace Screensaver

namespace Saver
variable {ε ρ : Type}

/-! ### The stages -/

section Stages
variable {reading : Settings.Reading ε} {registry : Registry ρ} {home : Option FileTree} {o : Options}
  {t u : FileTree} {s : Settings}

theorem readSettings_ok (h : settings reading ⟨t, home⟩ o = .ok (s, none)) :
    readSettings reading home o t = .ok s t := by
  unfold readSettings
  rw [bind_ok (get_ok t), h]
  rfl

theorem readSettings_fault {f : Fault} (h : settings reading ⟨t, home⟩ o = .error f) :
    readSettings reading home o t = .error (.fault f) t := by
  unfold readSettings
  rw [bind_ok (get_ok t), h]
  rfl

theorem readSettings_error {e : SaverError ε} (h : settings reading ⟨t, home⟩ o = .ok (s, some e)) :
    readSettings reading home o t = .error e t := by
  unfold readSettings
  rw [bind_ok (get_ok t), h]
  rfl

theorem lookUp_ok {name : ByteText} {b : Backend ρ} (h : registry.find? name = some b) (t : FileTree) :
    (lookUp registry name : EStateM (SaverError ε) FileTree (Backend ρ)) t = .ok b t := by
  unfold lookUp Registry.get
  rw [h]
  rfl

theorem lookUp_error {name : ByteText} (h : registry.find? name = none) (t : FileTree) :
    (lookUp registry name : EStateM (SaverError ε) FileTree (Backend ρ)) t =
      .error (.unknownBackend ⟨name⟩) t := by
  unfold lookUp Registry.get
  rw [h]
  rfl

/-! The log is opened last. What refuses to be opened has not been changed. -/

variable {path : String} {log : OpenLog}

theorem openLog_opens (h : path = "" ∨ ∃ p, t.locateToWrite path = .ok p) :
    ∃ log u, openLog path t = .ok log u := by
  unfold openLog
  split
  · exact ⟨_, _, rfl⟩
  · next hpath =>
    obtain ⟨p, hp⟩ := h.resolve_left hpath
    have hopen := FileTree.openToAppend_eq path t
    rw [hp] at hopen
    exact ⟨_, _, bind_ok hopen⟩

theorem openLog_refused (hpath : path ≠ "") {p : FileProblem} (h : t.locateToWrite path = .error p) :
    openLog path t = .error ⟨"open", path, p⟩ t := by
  have hopen : FileTree.openToAppend path t = .error ⟨"open", path, p⟩ t := by
    rw [FileTree.openToAppend_eq, h]
  rw [openLog, if_neg hpath]
  exact bind_error hopen

theorem openLog_ok (h : openLog path t = .ok log u) :
    path = "" ∧ log.place = none ∧ u = t ∨
      path ≠ "" ∧ ∃ p, log.place = some p ∧ t.locateToWrite path = .ok p ∧ FileTree.Grown p t u := by
  unfold openLog at h
  split at h
  · next hpath =>
    cases h
    exact .inl ⟨hpath, rfl, rfl⟩
  · next hpath =>
    obtain ⟨p, v, hopen, hlog⟩ := bind_eq_ok h
    cases hlog
    obtain ⟨hp, hgrown⟩ := FileTree.openToAppend_grown hopen
    exact .inr ⟨hpath, p, rfl, hp, hgrown⟩

/-- Writing to a log adds to its file, and changes nothing if there is none. -/
theorem OpenLog.write_none (h : log.place = none) (f : Log.Format) (es : List Log.Entry) :
    log.write f es t = t := by
  rw [write, h]

theorem OpenLog.write_grown {p : List String} (hp : log.place = some p) (h : FileTree.Grown p t u)
    (f : Log.Format) (es : List Log.Entry) : FileTree.Grown p t (log.write f es u) := by
  rw [write, hp]
  exact h.append _

end Stages

/-! ### What a run needs -/

/-- Where the options want the log, which is nowhere if this is empty. -/
def logPath (o : Options) : String :=
  o.logFile.getD ""

section Needs
variable (reading : Settings.Reading ε) (registry : Registry ρ) (place : Settings.Place) (o : Options)

/-- Settings and backend of a run for which everything is in order. -/
structure Admits (s : Settings) (b : Backend ρ) : Prop where
  settings : Saver.settings reading place o = .ok (s, none)
  backend : registry.find? s.backend = some b
  log : logPath o = "" ∨ ∃ p, place.work.locateToWrite (logPath o) = .ok p

/-- The first thing that is not in order. -/
inductive Denies : SaverError ε → Prop where
  | fault {f : Fault} : settings reading place o = .error f → Denies (.fault f)
  | settings {s : Settings} {e : SaverError ε} : settings reading place o = .ok (s, some e) → Denies e
  | backend {s : Settings} : Saver.settings reading place o = .ok (s, none) →
      (∀ b ∈ registry.backends, b.name ≠ s.backend) → Denies (.unknownBackend ⟨s.backend⟩)
  | log {s : Settings} {b : Backend ρ} {p : FileProblem} :
      Saver.settings reading place o = .ok (s, none) → registry.find? s.backend = some b →
      logPath o ≠ "" → place.work.locateToWrite (logPath o) = .error p →
      Denies (.log ⟨"open", logPath o, p⟩)

theorem admits_or_denies :
    (∃ s b, Admits reading registry place o s b) ∨ ∃ e, Denies reading registry place o e := by
  rcases hs : settings reading place o with f | ⟨s, _ | e⟩
  · exact .inr ⟨_, .fault hs⟩
  · cases hb : registry.find? s.backend with
    | none =>
      refine .inr ⟨_, .backend hs fun b hmem heq => ?_⟩
      exact List.find?_eq_none.mp hb b hmem (decide_eq_true heq)
    | some b =>
      by_cases hpath : logPath o = ""
      · exact .inl ⟨s, b, hs, hb, .inl hpath⟩
      · cases hp : place.work.locateToWrite (logPath o) with
        | error p => exact .inr ⟨_, .log hs hb hpath hp⟩
        | ok p => exact .inl ⟨s, b, hs, hb, .inr ⟨p, hp⟩⟩
  · exact .inr ⟨_, .settings hs⟩

end Needs

variable {reading : Settings.Reading ε} {registry : Registry ρ} {place : Settings.Place} {o : Options}
  {s : Settings} {b : Backend ρ} {e : SaverError ε}

theorem Admits.prepare (h : Admits reading registry place o s b) :
    ∃ log files, openLog (logPath o) place.work = .ok log files ∧
      Saver.prepare reading registry place.home o place.work = .ok ⟨s, b, log⟩ files := by
  obtain ⟨log, files, hlog⟩ := openLog_opens h.log
  refine ⟨log, files, hlog, ?_⟩
  rw [Saver.prepare, bind_ok (readSettings_ok h.settings), bind_ok (lookUp_ok h.backend _)]
  exact bind_ok (adaptExcept_ok hlog)

/-- A stage that fails has changed nothing, and neither have those before it. -/
theorem Denies.prepare (h : Denies reading registry place o e) :
    Saver.prepare reading registry place.home o place.work = .error e place.work := by
  unfold Saver.prepare
  cases h with
  | fault hs => exact bind_error (readSettings_fault hs)
  | settings hs => exact bind_error (readSettings_error hs)
  | backend hs hnone =>
    have hb : registry.find? _ = none :=
      List.find?_eq_none.mpr fun b hmem heq => hnone b hmem (of_decide_eq_true heq)
    rw [bind_ok (readSettings_ok hs)]
    exact bind_error (lookUp_error hb _)
  | log hs hb hpath hp =>
    rw [bind_ok (readSettings_ok hs), bind_ok (lookUp_ok hb _)]
    exact bind_error (adaptExcept_error (openLog_refused hpath hp))

/-! ### Noting runs -/

/-- The runs of backends, in order: which one, and what it was given. -/
abbrev Calls := List (ByteText × RunSettings)

/-- The backend, which notes each of its runs. -/
def noting (b : Backend Runner) : Backend (RunSettings → StateM Calls RunOutcome) where
  name := b.name
  description := b.description
  runner given := do
    modify (· ++ [(b.name, given)])
    return b.runner given

/-- A run of the screensaver, with the runs of backends that were noted meanwhile. -/
def noted (reading : Settings.Reading ε) (registry : Registry Runner) (place : Settings.Place)
    (stamp : String) (o : Options) : Report ε × Calls :=
  Id.run ((runIn reading ⟨registry.backends.map noting⟩ place stamp o).run [])

variable {runners : Registry Runner} {backend : Backend Runner}

theorem find?_noting (runners : Registry Runner) (name : ByteText) :
    Registry.find? ⟨runners.backends.map noting⟩ name = (runners.find? name).map noting :=
  List.find?_map

theorem Admits.noting (h : Admits reading runners place o s backend) :
    Admits reading ⟨runners.backends.map noting⟩ place o s (noting backend) :=
  ⟨h.settings, by rw [find?_noting, h.backend]; rfl, h.log⟩

theorem Denies.noting (h : Denies reading runners place o e) :
    Denies reading ⟨runners.backends.map noting⟩ place o e := by
  cases h with
  | fault hs => exact .fault hs
  | settings hs => exact .settings hs
  | backend hs hnone =>
    refine .backend hs fun b hmem => ?_
    obtain ⟨c, hc, rfl⟩ := List.mem_map.mp hmem
    exact hnone c hc
  | log hs hb hpath hopen =>
    exact .log hs (by rw [find?_noting, hb]; rfl) hpath hopen

/-- What comes of a run whose backend has run. -/
def Ready.report (r : Ready ρ) (format : Log.Format) (files : FileTree) (out : RunOutcome) : Report ε where
  files := r.log.write format (out.entries ++ [r.endEntry out.result])
    (r.log.write format [r.startEntry] files)
  ran := some (r.backend.name, r.settings.runSettings)
  error := match out.result with
    | .ok _ => none
    | .error e => some (.run e)

theorem Admits.run (h : Admits reading runners place o s backend) (stamp : String) :
    ∃ log files, openLog (logPath o) place.work = .ok log files ∧
      Saver.run reading runners place stamp o =
        Ready.report ⟨s, backend, log⟩ (logFormat (s.level reading.level?) stamp) files
          (backend.runner s.runSettings) := by
  obtain ⟨log, files, hlog, hready⟩ := h.prepare
  refine ⟨log, files, hlog, ?_⟩
  simp only [Saver.run, runIn, hready]
  rfl

/-- A run that is admitted runs its backend once. -/
theorem Admits.noted (h : Admits reading runners place o s backend) (stamp : String) :
    Saver.noted reading runners place stamp o =
      (Saver.run reading runners place stamp o, [(backend.name, s.runSettings)]) := by
  obtain ⟨log, files, hlog, hready⟩ := h.prepare
  obtain ⟨log', files', hlog', hready'⟩ := h.noting.prepare
  obtain ⟨rfl, rfl⟩ := EStateM.Result.ok.inj (hlog.symm.trans hlog')
  simp only [Saver.noted, Saver.run, runIn, hready, hready']
  rfl

/-- A run that is denied runs no backend. -/
theorem Denies.noted (h : Denies reading runners place o e) (stamp : String) :
    Saver.noted reading runners place stamp o = (⟨place.work, none, some e⟩, []) := by
  simp only [Saver.noted, runIn, h.noting.prepare]
  rfl

theorem Denies.run (h : Denies reading runners place o e) (stamp : String) :
    Saver.run reading runners place stamp o = ⟨place.work, none, some e⟩ := by
  simp only [Saver.run, runIn, h.prepare]
  rfl

/-- A run that is admitted has changed at most the file of its log. -/
theorem Admits.files (h : Admits reading runners place o s backend) (stamp : String) :
    (Saver.run reading runners place stamp o).files = place.work ∨
      ∃ path p, o.logFile = some path ∧ path ≠ "" ∧ place.work.locateToWrite path = .ok p ∧
        FileTree.Grown p place.work (Saver.run reading runners place stamp o).files := by
  obtain ⟨log, files, hlog, hrun⟩ := h.run stamp
  rw [hrun]
  rcases openLog_ok hlog with ⟨-, hnone, rfl⟩ | ⟨hpath, p, hsome, hp, hgrown⟩
  · refine .inl ?_
    simp only [Ready.report, OpenLog.write_none hnone]
  · cases hfile : o.logFile with
    | none => exact absurd (by rw [logPath, hfile]; rfl) hpath
    | some path =>
      rw [logPath, hfile] at hpath hp
      refine .inr ⟨path, p, rfl, hpath, hp, ?_⟩
      exact OpenLog.write_grown hsome (OpenLog.write_grown hsome hgrown _ _) _ _

/-- **A backend runs only if everything is in order.** If it is, the backend runs once and no other
does, and the run fails just if the backend does. If it is not, no backend runs, the error is about the
first thing that is not in order, and the files are as they were. The error about a backend that is
not registered says where to find those that are. In every case at most the file of the log has
changed, and starts with what it held before. -/
theorem run_launches (reading : Settings.Reading ε) (registry : Registry Runner)
    (place : Settings.Place) (stamp : String) (o : Options) :
    (noted reading registry place stamp o).1 = run reading registry place stamp o ∧
    ((∃ s b, Admits reading registry place o s b) ∨ ∃ e, Denies reading registry place o e) ∧
    (∀ s b, Admits reading registry place o s b →
      (noted reading registry place stamp o).2 = [(b.name, s.runSettings)] ∧
      (run reading registry place stamp o).error =
        match (b.runner s.runSettings).result with
        | .ok _ => none
        | .error e => some (.run e)) ∧
    (∀ e, Denies reading registry place o e →
      (noted reading registry place stamp o).2 = [] ∧
      (run reading registry place stamp o).error = some e ∧
      (run reading registry place stamp o).files = place.work) ∧
    (∀ (describe : ε → String) (u : UnknownBackend), (SaverError.unknownBackend u).message describe =
      u.message ++ " (run 'randscreen backends' to see available backends)") ∧
    ((run reading registry place stamp o).files = place.work ∨
      ∃ path p, o.logFile = some path ∧ path ≠ "" ∧ place.work.locateToWrite path = .ok p ∧
        FileTree.Grown p place.work (run reading registry place stamp o).files) := by
  have hcases := admits_or_denies reading registry place o
  refine ⟨?_, hcases, fun s b h => ⟨?_, ?_⟩, fun e h => ⟨?_, ?_, ?_⟩, fun _ _ => rfl, ?_⟩
  · rcases hcases with ⟨s, b, h⟩ | ⟨e, h⟩
    · rw [h.noted]
    · rw [h.noted, h.run]
  · rw [h.noted]
  · obtain ⟨log, files, -, hrun⟩ := h.run stamp
    rw [hrun]
    rfl
  · rw [h.noted]
  · rw [h.run]
  · rw [h.run]
  · rcases hcases with ⟨s, b, h⟩ | ⟨e, h⟩
    · exact h.files stamp
    · exact .inl (by rw [h.run])

end Saver

end Screensaver
