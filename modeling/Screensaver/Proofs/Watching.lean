import Screensaver.Proofs.Coupling
import Screensaver.Proofs.Painting

/-! A loop on a terminal that is watched.

Every terminal can be watched: each call is passed on to it and written down. A loop does the same on a
watched terminal as without the watcher (`history_bare`), whatever is done with it and whatever happens
to the terminal in between, so the calls written down are the calls it makes.

Whatever is done with a loop, it paints now and then and is otherwise quiet (`history_progress`).
`history_ranged` says what it writes: glyphs of the range that its settings stand for, and no others. -/
namespace Screensaver

/-! ### Uses of a loop -/

/-- What is done with a loop, or happens to its terminal in between. -/
inductive Use (τ : Type) where
  | start
  | paint
  | poll (cancelled : Bool)
  | stop (reason : StopReason)
  /-- One turn of a run. -/
  | turn (around : Surroundings τ)
  /-- A run that ends within so many turns. -/
  | run (around : Surroundings τ) (limit : Nat)
  /-- The terminal changes on its own. -/
  | meanwhile (change : τ → τ)

namespace Use
variable {τ : Type} [Terminal τ]

/-- The loop after a use, also if that has failed. A run that does not end in time leaves no loop to
go on with. -/
def perform : Use τ → Loop τ → Option (Loop τ)
  | .start, l => some l.start
  | .paint, l => some (leftBehind (Loop.paint l))
  | .poll cancelled, l => some (l.poll cancelled).2
  | .stop reason, l => some (l.stop reason)
  | .turn around, l => some (leftBehind (Loop.turn around l))
  | .run around limit, l => (l.run around limit).map leftBehind
  | .meanwhile change, l => some { l with terminal := change l.terminal }

/-- The loop after uses in order. -/
def history : List (Use τ) → Loop τ → Option (Loop τ)
  | [], l => some l
  | u :: rest, l => (u.perform l).bind (history rest)

end Use

/-! ### Watched terminals -/

/-- A terminal with the calls that were made on it, in order. -/
structure Watched (τ : Type) where
  terminal : τ
  calls : List Call

namespace Watched
variable {τ α : Type}

/-- Writes a call down. -/
def note (c : Call) (w : Watched τ) : Watched τ :=
  { w with calls := w.calls ++ [c] }

/-- Does something to the terminal. -/
def change (f : τ → τ) (w : Watched τ) : Watched τ :=
  { w with terminal := f w.terminal }

/-- Does something to the terminal that may fail. -/
def attempt (x : EStateM Fault τ α) : EStateM Fault (Watched τ) α := fun w =>
  match x w.terminal with
  | .ok a t => .ok a { w with terminal := t }
  | .error e t => .error e { w with terminal := t }

theorem attempt_ok {x : EStateM Fault τ α} {w : Watched τ} {a : α} {t : τ}
    (h : x w.terminal = .ok a t) : attempt x w = .ok a { w with terminal := t } := by
  simp only [attempt, h]

theorem attempt_error {x : EStateM Fault τ α} {w : Watched τ} {e : Fault} {t : τ}
    (h : x w.terminal = .error e t) : attempt x w = .error e { w with terminal := t } := by
  simp only [attempt, h]

theorem attempt_calls (x : EStateM Fault τ α) (w : Watched τ) :
    (leftBehind (attempt x w)).calls = w.calls := by
  unfold attempt
  cases x w.terminal <;> rfl

instance [Terminal τ] : Terminal (Watched τ) where
  foreground w := Terminal.foreground w.terminal
  background w := Terminal.background w.terminal
  viewport w := Terminal.viewport w.terminal
  setForeground c w := (w.note (.setForeground c)).change (Terminal.setForeground c)
  setBackground c w := (w.note (.setBackground c)).change (Terminal.setBackground c)
  setCursor col row w := (w.note (.setCursor col row)).change (Terminal.setCursor col row)
  write g w := attempt (Terminal.write g) (w.note (.write g))
  clear w := (w.note .clear).change Terminal.clear
  keyPending w := ((Terminal.keyPending w.terminal).1, w.change fun t => (Terminal.keyPending t).2)
  retitle title w := (w.note (.retitle title)).change (Terminal.retitle title)

end Watched

/-- The same surroundings, with pauses that are written down. -/
def Surroundings.watched {τ : Type} (around : Surroundings τ) : Surroundings (Watched τ) where
  pause ns w := Watched.attempt (around.pause ns) (w.note (.pause ns))
  cancelled w := around.cancelled w.terminal

/-- The same use of a loop on the watched terminal. What happens on its own is no call. -/
def Use.watched {τ : Type} : Use τ → Use (Watched τ)
  | .start => .start
  | .paint => .paint
  | .poll cancelled => .poll cancelled
  | .stop reason => .stop reason
  | .turn around => .turn around.watched
  | .run around limit => .run around.watched limit
  | .meanwhile f => .meanwhile (Watched.change f)

namespace Loop
variable {τ α β : Type}

/-- The loop on its terminal, which is watched from now on. -/
def watch (l : Loop τ) : Loop (Watched τ) :=
  l.onto ⟨l.terminal, []⟩

/-- The loop without the watcher. -/
def bare (l : Loop (Watched τ)) : Loop τ :=
  l.onto l.terminal.terminal

theorem bare_watch (l : Loop τ) : l.watch.bare = l :=
  rfl

/-- What came of a step, without the watcher. -/
def bareResult : EStateM.Result Fault (Loop (Watched τ)) α → EStateM.Result Fault (Loop τ) α
  | .ok a l => .ok a l.bare
  | .error e l => .error e l.bare

theorem leftBehind_bareResult (r : EStateM.Result Fault (Loop (Watched τ)) α) :
    leftBehind (bareResult r) = (leftBehind r).bare := by
  cases r <;> rfl

/-! ### Watching changes nothing -/

/-- A step with the watcher does what a step without does. -/
def Mirrors (x : EStateM Fault (Loop (Watched τ)) α) (y : EStateM Fault (Loop τ) α) : Prop :=
  ∀ l, bareResult (x l) = y l.bare

namespace Mirrors
variable {x : EStateM Fault (Loop (Watched τ)) α} {y : EStateM Fault (Loop τ) α}

theorem bind {f : α → EStateM Fault (Loop (Watched τ)) β} {g : α → EStateM Fault (Loop τ) β}
    (h : Mirrors x y) (hfg : ∀ a, Mirrors (f a) (g a)) : Mirrors (x >>= f) (y >>= g) := by
  intro l
  have hl := h l
  cases hx : x l with
  | ok a m =>
    rw [hx] at hl
    rw [bind_ok hx, bind_ok hl.symm]
    exact hfg a m
  | error e m =>
    rw [hx] at hl
    rw [bind_error hx, bind_error hl.symm]
    rfl

theorem pure (a : α) : Mirrors (pure a : EStateM Fault (Loop (Watched τ)) α) (pure a) :=
  fun _ => rfl

theorem get_bind {f : Loop (Watched τ) → EStateM Fault (Loop (Watched τ)) β}
    {g : Loop τ → EStateM Fault (Loop τ) β} (hfg : ∀ m, Mirrors (f m) (g m.bare)) :
    Mirrors (get >>= f) (get >>= g) :=
  fun l => hfg l l

theorem modify {f : Loop (Watched τ) → Loop (Watched τ)} {g : Loop τ → Loop τ}
    (h : ∀ l, (f l).bare = g l.bare) :
    Mirrors (modify f : EStateM Fault (Loop (Watched τ)) Unit) (modify g) :=
  fun l => congrArg (EStateM.Result.ok ()) (h l)

theorem ite {x' : EStateM Fault (Loop (Watched τ)) α} {y' : EStateM Fault (Loop τ) α} {c : Prop}
    [Decidable c] (h : Mirrors x y) (h' : Mirrors x' y') :
    Mirrors (if c then x else x') (if c then y else y') := by
  split
  · exact h
  · exact h'

end Mirrors

theorem pick_mirrors (draw : EStateM Fault Picker α) :
    Mirrors (pick draw : EStateM Fault (Loop (Watched τ)) α) (pick draw) := by
  intro l
  cases hd : draw l.picker with
  | ok v p =>
    rw [pick_ok hd]
    exact (pick_ok (l := l.bare) hd).symm
  | error e p =>
    have hbare : draw l.bare.picker = .error e p := hd
    simp only [pick, hd, hbare]
    rfl

theorem pause_mirrors (around : Surroundings τ) : Mirrors (pause around.watched) (pause around) := by
  intro l
  cases hp : around.pause l.interval l.terminal.terminal with
  | ok v t =>
    have hbare : around.pause l.bare.interval l.bare.terminal = .ok v t := hp
    have hwatched : around.watched.pause l.interval l.terminal = _ := Watched.attempt_ok hp
    simp only [pause, hwatched, hbare]
    rfl
  | error e t =>
    have hbare : around.pause l.bare.interval l.bare.terminal = .error e t := hp
    have hwatched : around.watched.pause l.interval l.terminal = _ := Watched.attempt_error hp
    simp only [pause, hwatched, hbare]
    rfl

variable [Terminal τ]

theorem bare_start (l : Loop (Watched τ)) : l.start.bare = l.bare.start := by
  by_cases h : l.phase = .idle
  · have hbare : l.bare.phase = .idle := h
    rw [start, if_pos h, start, if_pos hbare]
    by_cases htitle : l.config.title = ""
    · have hbaretitle : l.bare.config.title = "" := htitle
      simp only [if_pos htitle, if_pos hbaretitle]
      rfl
    · have hbaretitle : l.bare.config.title ≠ "" := htitle
      simp only [if_neg htitle, if_neg hbaretitle]
      rfl
  · have hbare : l.bare.phase ≠ .idle := h
    rw [start, if_neg h, start, if_neg hbare]

theorem bare_stop (reason : StopReason) (l : Loop (Watched τ)) :
    (l.stop reason).bare = l.bare.stop reason := by
  by_cases h : l.phase = .running
  · have hbare : l.bare.phase = .running := h
    rw [stop, if_pos h, stop, if_pos hbare]
    rfl
  · rw [stop_not_running reason l h, stop_not_running reason l.bare h]

/-- The loop after it has looked for a key press. -/
def asked {τ : Type} [Terminal τ] (l : Loop τ) : Loop τ :=
  { l with terminal := (Terminal.keyPending l.terminal).2 }

theorem poll_asked {τ : Type} [Terminal τ] {l : Loop τ} (h : l.phase = .running) (cancelled : Bool) :
    l.poll cancelled = match l.asked.due (Terminal.keyPending l.terminal).1 cancelled with
      | some reason => (false, l.asked.stop reason)
      | none => (true, l.asked) := by
  rw [poll, if_pos h]
  rfl

theorem bare_poll (cancelled : Bool) (l : Loop (Watched τ)) :
    l.bare.poll cancelled = ((l.poll cancelled).1, (l.poll cancelled).2.bare) := by
  by_cases h : l.phase = .running
  · have hbare : l.bare.phase = .running := h
    have hdue : l.bare.asked.due (Terminal.keyPending l.bare.terminal).1 cancelled =
      l.asked.due (Terminal.keyPending l.terminal).1 cancelled := rfl
    rw [poll_asked hbare, poll_asked h, hdue]
    cases l.asked.due (Terminal.keyPending l.terminal).1 cancelled with
    | some reason => exact congrArg (Prod.mk false) (bare_stop reason l.asked).symm
    | none => rfl
  · have hbare : l.bare.phase ≠ .running := h
    rw [poll, if_neg hbare, poll, if_neg h]

theorem write_mirrors (g : Int32) :
    Mirrors (write g : EStateM Fault (Loop (Watched τ)) Unit) (write g) := by
  intro l
  cases hw : Terminal.write g l.terminal.terminal with
  | ok v t =>
    have hwatched : Terminal.write g l.terminal = _ := Watched.attempt_ok hw
    rw [write_ok hwatched]
    exact (write_ok (l := l.bare) hw).symm
  | error e t =>
    have hwatched : Terminal.write g l.terminal = _ := Watched.attempt_error hw
    rw [write_error hwatched]
    exact (write_error (l := l.bare) hw).symm

theorem paint_mirrors : Mirrors (paint : EStateM Fault (Loop (Watched τ)) Bool) paint := by
  -- The two conditions are about the phase and the viewport, which the watcher passes on.
  refine .get_bind fun m => .ite (.pure _) ?_
  refine .bind (pick_mirrors _) fun fg => .bind (pick_mirrors _) fun bg => ?_
  refine .get_bind fun m => .ite (.pure _) ?_
  refine .bind (pick_mirrors _) fun place => ?_
  refine .bind (.modify fun _ => rfl) fun _ => .bind (pick_mirrors _) fun g => ?_
  exact .bind (write_mirrors g) fun _ => .bind (.modify fun _ => rfl) fun _ => .pure _

theorem turn_mirrors (around : Surroundings τ) : Mirrors (turn around.watched) (turn around) := by
  refine .bind paint_mirrors fun _ => .bind (pause_mirrors around) fun _ l => ?_
  have hpoll := bare_poll (around.cancelled l.terminal.terminal) l
  show EStateM.Result.ok _ _ = EStateM.Result.ok _ _
  exact congrArg (fun r => EStateM.Result.ok r.1 r.2) hpoll.symm

theorem bare_turns (around : Surroundings τ) (n : Nat) (l : Loop (Watched τ)) :
    turns around n l.bare = (turns around.watched n l).map bareResult := by
  induction n generalizing l with
  | zero => rfl
  | succ n ih =>
    have hturn := turn_mirrors around l
    rw [turns, turns, ← hturn]
    cases turn around.watched l with
    | ok b m =>
      cases b with
      | true => exact ih m
      | false => rfl
    | error e m => rfl

theorem bare_run (around : Surroundings τ) (limit : Nat) (l : Loop (Watched τ)) :
    l.bare.run around limit = (l.run around.watched limit).map bareResult := by
  rw [run, run, ← bare_start, bare_turns, Option.map_map, Option.map_map]
  congr 1
  funext r
  cases r with
  | ok reason m => exact congrArg (EStateM.Result.ok reason) (bare_stop .aborted m).symm
  | error e m => exact congrArg (EStateM.Result.error e) (bare_stop .aborted m).symm

end Loop

namespace Use
variable {τ : Type} [Terminal τ]

theorem perform_bare (u : Use τ) (l : Loop (Watched τ)) :
    u.perform l.bare = (u.watched.perform l).map Loop.bare := by
  cases u with
  | start => exact congrArg some (Loop.bare_start l).symm
  | paint =>
    refine congrArg some ?_
    rw [← Loop.leftBehind_bareResult, Loop.paint_mirrors l]
  | poll cancelled => exact congrArg (fun r => some r.2) (Loop.bare_poll cancelled l)
  | stop reason => exact congrArg some (Loop.bare_stop reason l).symm
  | turn around =>
    refine congrArg some ?_
    rw [← Loop.leftBehind_bareResult, Loop.turn_mirrors around l]
  | run around limit =>
    show (l.bare.run around limit).map leftBehind =
      ((l.run around.watched limit).map leftBehind).map Loop.bare
    rw [Loop.bare_run, Option.map_map, Option.map_map]
    congr 1
    funext r
    exact Loop.leftBehind_bareResult r
  | meanwhile f => rfl

/-- The calls that uses make on the terminal of a loop. -/
def calls (uses : List (Use τ)) (l : Loop τ) : List Call :=
  ((history (uses.map watched) l.watch).map fun m => m.terminal.calls).getD []

theorem mem_calls {uses : List (Use τ)} {l : Loop τ} {c : Call} (h : c ∈ calls uses l) :
    ∃ m, history (uses.map watched) l.watch = some m ∧ c ∈ m.terminal.calls := by
  unfold calls at h
  cases hm : history (uses.map watched) l.watch with
  | none => rw [hm] at h; cases h
  | some m => rw [hm] at h; exact ⟨m, rfl, h⟩

/-- **A watcher changes nothing.** A history without it is the history with it, but for what was
written down. -/
theorem history_bare (uses : List (Use τ)) (l : Loop (Watched τ)) :
    history uses l.bare = (history (uses.map watched) l).map Loop.bare := by
  induction uses generalizing l with
  | nil => rfl
  | cons u rest ih =>
    rw [List.map_cons, history, history, perform_bare]
    cases u.watched.perform l with
    | none => rfl
    | some m => exact ih m

end Use

/-! ### Progress -/

namespace Use
variable {τ : Type} [Terminal τ]

/-- The viewports that the paints of a use look at. -/
def looks : Use τ → Loop τ → List Rect
  | .paint, l => l.look
  | .turn _, l => l.look
  | .run around limit, l => Loop.looksOfTurns around limit l.start
  | _, _ => []

/-- The viewports that the paints of a history look at. -/
def historyLooks : List (Use τ) → Loop τ → List Rect
  | [], _ => []
  | u :: rest, l => u.looks l ++ match u.perform l with
    | some m => historyLooks rest m
    | none => []

end Use

namespace Loop
variable {τ : Type}

/-- The loop has not painted from `l` to `m`: its settings and its picker are the same, and no glyph was
written. -/
structure Quiet (l m : Loop (Watched τ)) : Prop where
  config : m.config = l.config
  picker : m.picker = l.picker
  calls : ∃ calls, m.terminal.calls = l.terminal.calls ++ calls ∧ ∀ g, Call.write g ∉ calls

namespace Quiet
variable {l m k : Loop (Watched τ)}

theorem of_no_calls (hconfig : m.config = l.config) (hpicker : m.picker = l.picker)
    (hcalls : m.terminal.calls = l.terminal.calls) : Quiet l m :=
  ⟨hconfig, hpicker, [], by rw [hcalls, List.append_nil], by simp⟩

theorem refl (l : Loop (Watched τ)) : Quiet l l :=
  .of_no_calls rfl rfl rfl

theorem trans (h : Quiet l m) (h' : Quiet m k) : Quiet l k := by
  obtain ⟨calls, hcalls, hwrite⟩ := h.calls
  obtain ⟨calls', hcalls', hwrite'⟩ := h'.calls
  refine ⟨h'.config.trans h.config, h'.picker.trans h.picker, calls ++ calls', ?_, fun g hg => ?_⟩
  · rw [hcalls', hcalls, List.append_assoc]
  · rcases List.mem_append.mp hg with hg | hg
    · exact hwrite g hg
    · exact hwrite' g hg

end Quiet

theorem pause_quiet (around : Surroundings τ) (l : Loop (Watched τ)) :
    Quiet l (leftBehind (pause around.watched l)) := by
  have hcalls := Watched.attempt_calls (around.pause l.interval) (l.terminal.note (.pause l.interval))
  have hleft : leftBehind (pause around.watched l) = { l with
      terminal := leftBehind (Watched.attempt (around.pause l.interval)
        (l.terminal.note (.pause l.interval))) } := by
    simp only [pause, Surroundings.watched]
    split <;> next hp => rw [hp]; rfl
  rw [hleft]
  exact ⟨rfl, rfl, [.pause l.interval], hcalls, by simp⟩

variable [Terminal τ]

theorem start_quiet (l : Loop (Watched τ)) : Quiet l l.start := by
  by_cases hidle : l.phase = .idle
  · rw [start, if_pos hidle]
    by_cases htitle : l.config.title = ""
    · simp only [if_pos htitle]
      exact .of_no_calls rfl rfl rfl
    · simp only [if_neg htitle]
      exact ⟨rfl, rfl, [.retitle l.config.title], rfl, by simp⟩
  · rw [start, if_neg hidle]
    exact .refl l

theorem stop_quiet (reason : StopReason) (l : Loop (Watched τ)) : Quiet l (l.stop reason) := by
  by_cases hrun : l.phase = .running
  · refine ⟨(stop_frame reason l).1, (stop_frame reason l).2.1,
      [.setForeground l.savedFg, .setBackground l.savedBg, .clear], ?_, by simp⟩
    rw [stop, if_pos hrun]
    show ((l.terminal.calls ++ [_]) ++ [_]) ++ [_] = _
    simp
  · rw [stop_not_running reason l hrun]
    exact .refl l

theorem poll_quiet (cancelled : Bool) (l : Loop (Watched τ)) : Quiet l (l.poll cancelled).2 := by
  have hasked : Quiet l l.asked := .of_no_calls rfl rfl rfl
  by_cases hrun : l.phase = .running
  · rw [poll_asked hrun]
    cases l.asked.due (Terminal.keyPending l.terminal).1 cancelled with
    | some reason => exact hasked.trans (stop_quiet reason l.asked)
    | none => exact hasked
  · rw [poll, if_neg hrun]
    exact .refl l

/-- What can become of a loop: it paints, and between two paints it is quiet. With it come the viewports
that the paints look at. -/
inductive Progress : List Rect → Loop (Watched τ) → Loop (Watched τ) → Prop where
  | quiet {l m : Loop (Watched τ)} : Quiet l m → Progress [] l m
  | paint (l : Loop (Watched τ)) : Progress l.look l (leftBehind (Loop.paint l))
  | trans {looks looks' : List Rect} {l m k : Loop (Watched τ)} :
      Progress looks l m → Progress looks' m k → Progress (looks ++ looks') l k

theorem Progress.then_quiet {looks : List Rect} {l m k : Loop (Watched τ)} (h : Progress looks l m)
    (h' : Quiet m k) : Progress looks l k := by
  rw [← List.append_nil looks]
  exact h.trans (.quiet h')

theorem turn_progress (around : Surroundings τ) (l : Loop (Watched τ)) :
    Progress l.look l (leftBehind (turn around.watched l)) := by
  have hpaint := Progress.paint l
  rw [turn_eq]
  refine leftBehind_bind (fun _ m hm => ?_) (fun _ m hm => ?_)
  · rw [hm] at hpaint
    have hpause : Progress l.look l (leftBehind (pause around.watched m)) :=
      hpaint.then_quiet (pause_quiet around m)
    refine leftBehind_bind (fun _ k hk => ?_) (fun _ k hk => ?_)
    · rw [hk] at hpause
      exact hpause.then_quiet (poll_quiet _ k)
    · rw [hk] at hpause
      exact hpause
  · rw [hm] at hpaint
    exact hpaint

theorem turns_progress (around : Surroundings τ) (n : Nat) {l : Loop (Watched τ)}
    {r : EStateM.Result Fault (Loop (Watched τ)) StopReason}
    (hr : turns around.watched n l = some r) :
    Progress (looksOfTurns around.watched n l) l (leftBehind r) := by
  induction n generalizing l with
  | zero => cases hr
  | succ n ih =>
    have hturn := turn_progress around l
    rw [turns] at hr
    rw [looksOfTurns]
    cases hm : turn around.watched l with
    | ok b m =>
      rw [hm] at hturn hr
      cases b with
      | true => exact hturn.trans (ih hr)
      | false =>
        cases hr
        exact hturn.trans (.quiet (.refl m))
    | error e m =>
      rw [hm] at hturn hr
      cases hr
      exact hturn.trans (.quiet (.refl m))

theorem run_progress (around : Surroundings τ) (limit : Nat) {l : Loop (Watched τ)}
    {r : EStateM.Result Fault (Loop (Watched τ)) StopReason}
    (hr : l.run around.watched limit = some r) :
    Progress (looksOfTurns around.watched limit l.start) l (leftBehind r) := by
  obtain ⟨r', hturns, rfl⟩ := Option.map_eq_some_iff.mp hr
  have hstarted := (Progress.quiet (start_quiet l)).trans (turns_progress around limit hturns)
  have hlast := hstarted.then_quiet (stop_quiet .aborted _)
  cases r' <;> exact hlast

end Loop

namespace Use
variable {τ : Type} [Terminal τ]

theorem perform_progress (u : Use τ) {l m : Loop (Watched τ)} (hm : u.watched.perform l = some m) :
    Loop.Progress (u.watched.looks l) l m := by
  cases u with
  | start => cases hm; exact .quiet l.start_quiet
  | paint => cases hm; exact .paint l
  | poll cancelled => cases hm; exact .quiet (l.poll_quiet cancelled)
  | stop reason => cases hm; exact .quiet (l.stop_quiet reason)
  | turn around => cases hm; exact l.turn_progress around
  | run around limit =>
    obtain ⟨r, hr, rfl⟩ := Option.map_eq_some_iff.mp hm
    exact Loop.run_progress around limit hr
  | meanwhile f => cases hm; exact .quiet (.of_no_calls rfl rfl rfl)

theorem history_progress {uses : List (Use τ)} {l m : Loop (Watched τ)}
    (hm : history (uses.map watched) l = some m) :
    Loop.Progress (historyLooks (uses.map watched) l) l m := by
  induction uses generalizing l with
  | nil => cases hm; exact .quiet (.refl _)
  | cons u rest ih =>
    obtain ⟨k, hk, hrest⟩ := Option.bind_eq_some_iff.mp hm
    rw [List.map_cons, historyLooks, hk]
    exact (u.perform_progress hk).trans (ih hrest)

end Use

namespace Loop
variable {τ : Type}

/-! ### What is written -/

/-- The calls of a stroke, as the watcher writes them down. -/
theorem write_aimed_calls [Terminal τ] (s : Stroke) (w : Watched τ) :
    (leftBehind (Terminal.write s.glyph (aimed s w))).calls = w.calls ++ s.calls := by
  refine (Watched.attempt_calls (Terminal.write s.glyph) _).trans ?_
  show (((w.calls ++ [_]) ++ [_]) ++ [_]) ++ [_] = _
  simp [Stroke.calls]

/-- All the glyphs written so far are of the range that the settings stand for, and those written
next will be. -/
structure Ranged (config : RunSettings) (l : Loop (Watched τ)) : Prop where
  settings : l.config = config
  range : (l.picker.glyphMin, l.picker.glyphMax) = Picker.glyphRange config.glyphMin config.glyphMax
  written : ∀ g, Call.write g ∈ l.terminal.calls →
    (Picker.glyphRange config.glyphMin config.glyphMax).1 ≤ g ∧
      g ≤ (Picker.glyphRange config.glyphMin config.glyphMax).2

namespace Ranged
variable {config : RunSettings} {l m : Loop (Watched τ)}

theorem new (clock : Int64) (t : τ) (config : RunSettings) :
    Ranged (effective clock config) (Loop.new clock t config).watch :=
  ⟨rfl, rfl, fun _ hg => absurd hg List.not_mem_nil⟩

/-- Calls have been added that write nothing, or a glyph of the range. -/
theorem of_calls (h : Ranged config l) (hconfig : m.config = l.config)
    (hrange : Picker.SameRange l.picker m.picker) (calls : List Call)
    (hcalls : m.terminal.calls = l.terminal.calls ++ calls)
    (hwritten : ∀ g, .write g ∈ calls → l.picker.glyphMin ≤ g ∧ g ≤ l.picker.glyphMax) :
    Ranged config m := by
  refine ⟨hconfig.trans h.settings, ?_, fun g hg => ?_⟩
  · rw [← h.range, hrange.1, hrange.2]
  · rw [hcalls] at hg
    rcases List.mem_append.mp hg with hg | hg
    · exact h.written g hg
    · rw [← h.range]
      exact hwritten g hg

theorem quiet (h : Ranged config l) (hq : Quiet l m) : Ranged config m := by
  obtain ⟨calls, hcalls, hwrite⟩ := hq.calls
  refine h.of_calls hq.config ?_ calls hcalls fun g hg => absurd hg (hwrite g)
  rw [hq.picker]
  exact .refl _

variable [Terminal τ]

/-- A paint writes at most one glyph, which its picker has drawn. -/
theorem paint (h : Ranged config l) : Ranged config (leftBehind (Loop.paint l)) := by
  by_cases hrun : l.phase = .running
  · cases harea : (Terminal.viewport l.terminal).isEmpty with
    | true =>
      obtain ⟨fg, bg, p, hc, -, hrange⟩ := Picker.colors_ok l.picker
      rw [paint_empty l hrun harea hc]
      exact h.of_calls rfl hrange [] (List.append_nil _).symm (by simp)
    | false =>
      obtain ⟨s, p, hs, hfits, hrange⟩ :=
        Picker.stroke_ok _ harea l.picker (Picker.Printable.of_range h.range)
      have hcalls := write_aimed_calls s l.terminal
      have hwritten : ∀ g, Call.write g ∈ s.calls → l.picker.glyphMin ≤ g ∧ g ≤ l.picker.glyphMax := by
        intro g hg
        obtain rfl : g = s.glyph := by simpa [Stroke.calls] using hg
        exact ⟨hfits.low, hfits.high⟩
      -- A write that fails has been written down all the same.
      rw [paint_stroke l hrun harea hs]
      cases hw : Terminal.write s.glyph (aimed s l.terminal) with
      | ok v t => rw [hw] at hcalls; exact h.of_calls rfl hrange s.calls hcalls hwritten
      | error e t => rw [hw] at hcalls; exact h.of_calls rfl hrange s.calls hcalls hwritten
  · rw [paint_not_running l hrun]
    exact h

theorem progress (h : Ranged config l) {looks : List Rect} (hp : Progress looks l m) :
    Ranged config m := by
  induction hp with
  | quiet hq => exact h.quiet hq
  | paint l => exact h.paint
  | trans _ _ ih ih' => exact ih' (ih h)

end Ranged

/-- **A loop writes glyphs of its range.** Whatever is done with a loop, it keeps the settings and the
range of glyphs it was made with, and every glyph it writes is of this range. -/
theorem history_ranged [Terminal τ] (clock : Int64) (t : τ) (config : RunSettings)
    (uses : List (Use τ)) :
    (∀ l, Use.history uses (Loop.new clock t config) = some l →
      l.config = effective clock config ∧
        (l.picker.glyphMin, l.picker.glyphMax) =
          Picker.glyphRange config.glyphMin config.glyphMax) ∧
    ∀ g, Call.write g ∈ Use.calls uses (Loop.new clock t config) →
      (Picker.glyphRange config.glyphMin config.glyphMax).1 ≤ g ∧
        g ≤ (Picker.glyphRange config.glyphMin config.glyphMax).2 := by
  have hnew := Ranged.new clock t config
  constructor
  · intro l hl
    rw [← bare_watch (Loop.new clock t config), Use.history_bare] at hl
    obtain ⟨m, hm, rfl⟩ := Option.map_eq_some_iff.mp hl
    have hranged := hnew.progress (Use.history_progress hm)
    exact ⟨hranged.settings, hranged.range⟩
  · intro g hg
    obtain ⟨m, hm, hg⟩ := Use.mem_calls hg
    exact (hnew.progress (Use.history_progress hm)).written g hg

end Loop

end Screensaver
