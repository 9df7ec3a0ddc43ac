import Mathlib.Logic.Relation
import Screensaver.Proofs.Painting

/-! Histories of a loop, and the calls they make.

A loop can be started, painted with, polled, stopped and run, in any order and as often as one likes,
and between two of these actions anything may happen to the stage it plays on. `history_grammar` says
what can come of it. The phase only ever goes from idle to running and from running to stopped. And
the calls that change the terminal read as a sentence: the title, if there is one to set; then stroke
after stroke, each fitting the viewport its paint has looked at; then, once the loop has stopped, the
captured colours and a clearing, and nothing after that. -/
namespace Screensaver

/-! ### Actions -/

/-- What is done with a loop on a stage, or happens to the stage in between. -/
inductive Action where
  | start
  | paint
  | poll
  | stop (reason : StopReason)
  /-- A run that ends within so many turns. -/
  | run (limit : Nat)
  /-- Something happens outside of all calls; a fault is nobody's there. -/
  | happen (h : Happening)
  /-- The terminal's colours are changed directly. -/
  | recolor (fg bg : Color)
deriving DecidableEq

namespace Action

/-- The loop after an action, also if the action has failed. A run that does not end in time leaves
no loop to go on with. -/
def perform : Action → Loop Stage → Option (Loop Stage)
  | .start, l => some l.start
  | .paint, l => some (leftBehind (Loop.paint l))
  | .poll, l => some (l.poll l.terminal.cancelled).2
  | .stop reason, l => some (l.stop reason)
  | .run limit, l => (l.run Stage.surroundings limit).map leftBehind
  | .happen h, l => some { l with terminal := leftBehind (Stage.happen h l.terminal) }
  | .recolor fg bg, l =>
    some { l with terminal := { l.terminal with buffer := { l.terminal.buffer with fg, bg } } }

/-- Whether an action begins by starting the loop. -/
def starts : Action → Bool
  | .start | .run _ => true
  | _ => false

theorem starts_iff {a : Action} : a.starts = true ↔ a = .start ∨ ∃ limit, a = .run limit := by
  cases a <;> simp [starts]

/-- The viewports that the paints of an action look at. -/
def looks : Action → Loop Stage → List Rect
  | .paint, l => l.look
  | .run limit, l => Loop.looksOfTurns Stage.surroundings limit l.start
  | _, _ => []

/-- The loop after a list of actions. -/
def history : List Action → Loop Stage → Option (Loop Stage)
  | [], l => some l
  | a :: rest, l => (a.perform l).bind (history rest)

/-- The viewports that the paints of a history look at. -/
def historyLooks : List Action → Loop Stage → List Rect
  | [], _ => []
  | a :: rest, l => a.looks l ++ match a.perform l with
    | some m => historyLooks rest m
    | none => []

/-- The colours that were in effect when the loop left the idle phase, if it has. -/
def departure : List Action → Loop Stage → Option (Color × Color)
  | [], _ => none
  | a :: rest, l =>
    (a.perform l).bind fun m =>
      if l.phase = .idle ∧ m.phase ≠ .idle then some (l.terminal.buffer.fg, l.terminal.buffer.bg)
      else departure rest m

theorem history_append (as bs : List Action) (l : Loop Stage) :
    history (as ++ bs) l = (history as l).bind (history bs) := by
  induction as generalizing l with
  | nil => rfl
  | cons a rest ih =>
    simp only [List.cons_append, history, Option.bind_assoc]
    congr 1
    funext m
    exact ih m

end Action

/-! ### Starting and stopping -/

namespace Loop

/-- The calls that starting makes, for a loop that has left the idle phase. -/
def titleCalls (phase : Phase) (titled : Bool) (title : String) : List Call :=
  if phase ≠ .idle ∧ title ≠ "" ∧ titled = true then [.retitle title] else []

/-- The calls that stopping makes, for a loop that has stopped. -/
def restoreCalls (l : Loop Stage) : List Call :=
  if l.phase = .stopped then [.setForeground l.savedFg, .setBackground l.savedBg, .clear] else []

theorem titleCalls_idle (titled : Bool) (title : String) : titleCalls .idle titled title = [] :=
  if_neg fun h => h.1 rfl

/-- Stopping does not take the title back. -/
theorem titleCalls_stopped (titled : Bool) (title : String) :
    titleCalls .stopped titled title = titleCalls .running titled title := by
  simp [titleCalls]

theorem titleCalls_mutate (phase : Phase) (titled : Bool) (title : String) :
    (titleCalls phase titled title).filter Call.mutates = titleCalls phase titled title := by
  unfold titleCalls
  split <;> rfl

theorem start_not_idle {τ : Type} [Terminal τ] (l : Loop τ) (h : l.phase ≠ .idle) : l.start = l :=
  if_neg h

/-- What starting an idle loop on a stage does. -/
theorem start_idle (l : Loop Stage) (h : l.phase = .idle) :
    ∃ t journal,
      l.start = { l with
        terminal := t, savedFg := l.terminal.buffer.fg, savedBg := l.terminal.buffer.bg,
        phase := .running, journal } ∧
      t.titled = l.terminal.titled ∧
      t.calls.toList = l.terminal.calls.toList ++
        titleCalls .running l.terminal.titled l.config.title := by
  rw [start, if_pos h]
  refine ⟨_, _, rfl, ?_, ?_⟩
  · split
    · rfl
    · simp only [Terminal.retitle]
      split <;> rfl
  · by_cases htitle : l.config.title = ""
    · simp [titleCalls, htitle]
    · cases htitled : l.terminal.titled with
      | false => simp [titleCalls, htitle, Terminal.retitle, htitled]
      | true => simp [titleCalls, htitle, Terminal.retitle, htitled, Stage.record]

/-- What stopping a running loop on a stage does. -/
theorem stop_running (reason : StopReason) (l : Loop Stage) (h : l.phase = .running) :
    ∃ t journal,
      l.stop reason = { l with terminal := t, phase := .stopped, reason, journal } ∧
      t.titled = l.terminal.titled ∧
      t.calls.toList = l.terminal.calls.toList ++
        [.setForeground l.savedFg, .setBackground l.savedBg, .clear] := by
  rw [stop, if_pos h]
  refine ⟨_, _, rfl, rfl, ?_⟩
  show (((l.terminal.calls.push _).push _).push _).toList = _
  simp

end Loop

/-- What an action can do: start the loop, paint, and stop the loop, each or not, in this order. Only a
run can do both the first and the last. -/
theorem Action.perform_cases {a : Action} {l m : Loop Stage} (hp : l.picker.Printable)
    (hm : a.perform l = some m) :
    ∃ l' k lost, (a.starts = false ∧ l' = l ∨ a.starts = true ∧ l' = l.start) ∧
      Loop.Painting (a.looks l) lost l' k ∧ (m = k ∨ ∃ reason, m = k.stop reason) ∧
      ((∃ limit, a = .run limit) ∨ l' = l ∨ m = k) := by
  cases a with
  | start =>
    cases hm
    exact ⟨l.start, l.start, 0, .inr ⟨rfl, rfl⟩, .refl _, .inl rfl, .inr (.inr rfl)⟩
  | paint =>
    cases hm
    obtain ⟨lost, hpaint⟩ := Loop.paint_leaves l hp
    exact ⟨l, _, lost, .inl ⟨rfl, rfl⟩, hpaint, .inl rfl, .inr (.inl rfl)⟩
  | poll =>
    cases hm
    refine ⟨l, l, 0, .inl ⟨rfl, rfl⟩, .refl l, ?_, .inr (.inl rfl)⟩
    rcases Loop.poll_cases l.terminal.cancelled l with ⟨-, hq⟩ | ⟨-, hq⟩ | ⟨-, reason, -, hq⟩
    · rw [hq]; exact .inl rfl
    · rw [hq]; exact .inl rfl
    · rw [hq]; exact .inr ⟨reason, rfl⟩
  | stop reason =>
    cases hm
    exact ⟨l, l, 0, .inl ⟨rfl, rfl⟩, .refl l, .inr ⟨reason, rfl⟩, .inr (.inl rfl)⟩
  | run limit =>
    obtain ⟨r, hr, rfl⟩ := Option.map_eq_some_iff.mp hm
    obtain ⟨k, lost, hpaint, hend⟩ := Loop.run_painting limit l hp hr
    refine ⟨l.start, k, lost, .inr ⟨rfl, rfl⟩, hpaint, ?_, .inl ⟨limit, rfl⟩⟩
    cases hend with
    | still _ => exact .inl rfl
    | stopped _ _ => exact .inr ⟨_, rfl⟩
    | failed _ => exact .inr ⟨_, rfl⟩
  | happen e =>
    cases hm
    exact ⟨l, _, 0, .inl ⟨rfl, rfl⟩, Loop.happen_painting e l, .inl rfl, .inr (.inl rfl)⟩
  | recolor fg bg =>
    cases hm
    refine ⟨l, _, 0, .inl ⟨rfl, rfl⟩, ?_, .inl rfl, .inr (.inl rfl)⟩
    exact .of_quiet [] (List.append_nil _).symm rfl rfl

namespace Loop

/-! ### The sentence -/

/-- What every history keeps: the settings, the range of glyphs and whether there is a title; and
the calls made since the loop was new on the stage `s` read as a sentence. -/
structure Lawful (s : Stage) (config : RunSettings) (looks : List Rect) (l : Loop Stage) :
    Prop where
  settings : l.config = config
  range : (l.picker.glyphMin, l.picker.glyphMax) = Picker.glyphRange config.glyphMin config.glyphMax
  titled : l.terminal.titled = s.titled
  unseen : l.phase = .idle → looks = []
  record : ∃ (calls : List Call) (strokes : List Stroke),
    l.terminal.calls.toList = s.calls.toList ++ calls ∧
    calls.filter Call.mutates =
      titleCalls l.phase s.titled config.title ++ strokes.flatMap Stroke.calls ++ l.restoreCalls ∧
    List.Forall₂ (fun area k => k.Fits area l.picker.glyphMin l.picker.glyphMax)
      (looks.filter fun area => !area.isEmpty) strokes ∧
    l.painted ≤ strokes.length

namespace Lawful
variable {s : Stage} {config : RunSettings} {looks : List Rect} {l : Loop Stage}

theorem printable (h : Lawful s config looks l) : l.picker.Printable :=
  .of_range h.range

theorem new (clock : Int64) (s : Stage) (config : RunSettings) :
    Lawful s (effective clock config) [] (Loop.new clock s config) :=
  ⟨rfl, rfl, rfl, fun _ => rfl, [], [], by simp [Loop.new], rfl, .nil, Nat.le_refl 0⟩

/-- Painting goes on with the strokes. A loop that does not run has nothing to add. -/
theorem painting (h : Lawful s config looks l) {looks' : List Rect} {lost : Nat} {m : Loop Stage}
    (hp : Painting looks' lost l m) : Lawful s config (looks ++ looks') m := by
  obtain ⟨calls, strokes, hcalls, hsentence, hfits, hpainted⟩ := h.record
  obtain ⟨calls', strokes', hcalls', hmut', hfits', hpainted'⟩ := hp.record
  refine ⟨hp.config.trans h.settings, ?_, hp.titled.trans h.titled, fun hm => ?_,
    calls ++ calls', strokes ++ strokes', ?_, ?_, ?_, ?_⟩
  · rw [hp.range.1, hp.range.2]
    exact h.range
  · have hl : l.phase = .idle := hp.phase ▸ hm
    rw [h.unseen hl, hp.still (by rw [hl]; decide)]
    rfl
  · rw [hcalls', hcalls, List.append_assoc]
  · have hrestore : m.restoreCalls = l.restoreCalls := by
      rw [restoreCalls, restoreCalls, hp.phase, hp.savedFg, hp.savedBg]
    rw [List.filter_append, hsentence, hmut', hrestore, hp.phase, List.flatMap_append]
    by_cases hrun : l.phase = .running
    · have hnone : l.restoreCalls = [] := if_neg (by rw [hrun]; decide)
      simp [hnone]
    · rw [hp.still hrun] at hfits'
      cases hfits'
      simp
  · rw [hp.range.1, hp.range.2, List.filter_append]
    exact List.rel_append hfits hfits'
  · rw [List.length_append]
    omega

theorem start (h : Lawful s config looks l) : Lawful s config looks l.start := by
  by_cases hidle : l.phase = .idle
  · obtain ⟨t, journal, hstart, htitled, htcalls⟩ := start_idle l hidle
    obtain ⟨calls, strokes, hcalls, hsentence, hfits, hpainted⟩ := h.record
    have hblank : l.restoreCalls = [] := if_neg (by rw [hidle]; decide)
    rw [h.unseen hidle] at hfits
    cases hfits
    rw [h.titled, h.settings] at htcalls
    rw [hstart]
    refine ⟨h.settings, h.range, htitled.trans h.titled, fun hp => (by cases hp),
      calls ++ titleCalls .running s.titled config.title, [], ?_, ?_, ?_, hpainted⟩
    · rw [htcalls, hcalls, List.append_assoc]
    · rw [List.filter_append, hsentence, hblank, hidle, titleCalls_idle, titleCalls_mutate]
      simp [restoreCalls]
    · rw [h.unseen hidle]
      exact .nil
  · rw [start_not_idle l hidle]
    exact h

theorem stop (h : Lawful s config looks l) (reason : StopReason) :
    Lawful s config looks (l.stop reason) := by
  by_cases hrun : l.phase = .running
  · obtain ⟨t, journal, hstop, htitled, htcalls⟩ := stop_running reason l hrun
    obtain ⟨calls, strokes, hcalls, hsentence, hfits, hpainted⟩ := h.record
    have hblank : l.restoreCalls = [] := if_neg (by rw [hrun]; decide)
    rw [hstop]
    refine ⟨h.settings, h.range, htitled.trans h.titled, fun hp => (by cases hp),
      calls ++ [.setForeground l.savedFg, .setBackground l.savedBg, .clear], strokes, ?_, ?_, hfits,
      hpainted⟩
    · rw [htcalls, hcalls, List.append_assoc]
    · rw [List.filter_append, hsentence, hblank, List.append_nil, hrun, titleCalls_stopped]
      rfl
  · rw [stop_not_running reason l hrun]
    exact h

/-- Every action goes on with the sentence. -/
theorem perform (h : Lawful s config looks l) {a : Action} {m : Loop Stage}
    (hm : a.perform l = some m) : Lawful s config (looks ++ a.looks l) m := by
  obtain ⟨l', k, lost, hl', hpaint, hend, -⟩ := Action.perform_cases h.printable hm
  have h' : Lawful s config looks l' := by
    rcases hl' with ⟨-, rfl⟩ | ⟨-, rfl⟩
    · exact h
    · exact h.start
  have hk := h'.painting hpaint
  rcases hend with rfl | ⟨reason, rfl⟩
  · exact hk
  · exact hk.stop reason

theorem history (h : Lawful s config looks l) {as : List Action} {m : Loop Stage}
    (hm : Action.history as l = some m) :
    Lawful s config (looks ++ Action.historyLooks as l) m := by
  induction as generalizing l looks with
  | nil =>
    cases hm
    rw [Action.historyLooks, List.append_nil]
    exact h
  | cons a rest ih =>
    obtain ⟨k, hk, hrest⟩ := Option.bind_eq_some_iff.mp hm
    have hall := ih (h.perform hk) hrest
    rw [List.append_assoc] at hall
    simp only [Action.historyLooks, hk]
    exact hall

end Lawful

end Loop

/-! ### Phases -/

/-- The moves from one phase to the next. -/
inductive Phase.Next : Phase → Phase → Prop where
  | start : Next .idle .running
  | stop : Next .running .stopped

theorem Loop.start_next (l : Loop Stage) :
    l.start.phase = l.phase ∨ Phase.Next l.phase l.start.phase := by
  by_cases h : l.phase = .idle
  · obtain ⟨t, journal, hstart, -, -⟩ := start_idle l h
    rw [hstart, h]
    exact .inr .start
  · rw [start_not_idle l h]
    exact .inl rfl

theorem Loop.stop_next (reason : StopReason) (l : Loop Stage) :
    (l.stop reason).phase = l.phase ∨ Phase.Next l.phase (l.stop reason).phase := by
  by_cases h : l.phase = .running
  · rw [stop_phase reason l h, h]
    exact .inr .stop
  · rw [stop_not_running reason l h]
    exact .inl rfl

namespace Action

/-- An action makes at most one move, and a run at most both. -/
theorem perform_phase {a : Action} {l m : Loop Stage} (hp : l.picker.Printable)
    (hm : a.perform l = some m) :
    Relation.ReflTransGen Phase.Next l.phase m.phase ∧
      ((∃ limit, a = .run limit) ∨ m.phase = l.phase ∨ Phase.Next l.phase m.phase) := by
  obtain ⟨l', k, lost, hl', hpaint, hend, hone⟩ := perform_cases hp hm
  have hfirst : l'.phase = l.phase ∨ Phase.Next l.phase l'.phase := by
    rcases hl' with ⟨-, rfl⟩ | ⟨-, rfl⟩
    · exact .inl rfl
    · exact l.start_next
  have hlast : m.phase = k.phase ∨ Phase.Next k.phase m.phase := by
    rcases hend with rfl | ⟨reason, rfl⟩
    · exact .inl rfl
    · exact k.stop_next reason
  rw [hpaint.phase] at hlast
  refine ⟨?_, ?_⟩
  · have hto : Relation.ReflTransGen Phase.Next l.phase l'.phase := by
      rcases hfirst with h | h
      · rw [h]
      · exact .single h
    rcases hlast with h | h
    · rw [h]
      exact hto
    · exact hto.tail h
  · rcases hone with h | rfl | rfl
    · exact .inl h
    · exact .inr hlast
    · rw [hpaint.phase]
      exact .inr hfirst

/-! ### Captured colours -/

/-- Once the loop has left the idle phase it keeps what it has captured, and what it captures are the
colours in effect when it leaves. -/
theorem perform_saved {a : Action} {l m : Loop Stage} (hp : l.picker.Printable)
    (hm : a.perform l = some m) :
    (l.phase ≠ .idle → m.phase ≠ .idle ∧ m.savedFg = l.savedFg ∧ m.savedBg = l.savedBg) ∧
      (l.phase = .idle → m.phase = .idle ∨
        (m.savedFg = l.terminal.buffer.fg ∧ m.savedBg = l.terminal.buffer.bg)) := by
  obtain ⟨l', k, lost, hl', hpaint, hend, -⟩ := perform_cases hp hm
  have hkept : (k.phase ≠ .idle → m.phase ≠ .idle) ∧ (k.phase = .idle → m.phase = .idle) ∧
      m.savedFg = l'.savedFg ∧ m.savedBg = l'.savedBg := by
    rw [← hpaint.savedFg, ← hpaint.savedBg]
    rcases hend with rfl | ⟨reason, rfl⟩
    · exact ⟨id, id, rfl, rfl⟩
    · by_cases h : k.phase = .running
      · obtain ⟨t, journal, hstop, -, -⟩ := Loop.stop_running reason k h
        rw [hstop, h]
        exact ⟨fun _ => nofun, nofun, rfl, rfl⟩
      · rw [Loop.stop_not_running reason k h]
        exact ⟨id, id, rfl, rfl⟩
  rw [hpaint.phase] at hkept
  obtain ⟨hout, hin, hfg, hbg⟩ := hkept
  by_cases h : l.phase = .idle
  · refine ⟨fun hne => absurd h hne, fun _ => ?_⟩
    rcases hl' with ⟨-, rfl⟩ | ⟨-, rfl⟩
    · exact .inl (hin h)
    · obtain ⟨t, journal, hstart, -, -⟩ := Loop.start_idle l h
      rw [hstart] at hfg hbg
      exact .inr ⟨hfg, hbg⟩
  · refine ⟨fun _ => ?_, fun hidle => absurd hidle h⟩
    obtain rfl : l' = l := by
      rcases hl' with ⟨-, hl'⟩ | ⟨-, hl'⟩
      · exact hl'
      · exact hl'.trans (Loop.start_not_idle l h)
    exact ⟨hout h, hfg, hbg⟩

/-- What starts an idle loop makes it leave the idle phase, and nothing else does. -/
theorem perform_leaves_iff {a : Action} {l m : Loop Stage} (hp : l.picker.Printable)
    (hidle : l.phase = .idle) (hm : a.perform l = some m) : m.phase ≠ .idle ↔ a.starts = true := by
  obtain ⟨l', k, lost, hl', hpaint, hend, -⟩ := perform_cases hp hm
  have hphase := hpaint.phase
  rcases hl' with ⟨hstarts, rfl⟩ | ⟨hstarts, rfl⟩
  · have hstay : m = k := by
      rcases hend with rfl | ⟨reason, rfl⟩
      · rfl
      · exact Loop.stop_not_running reason k (by rw [hphase, hidle]; decide)
    rw [hstay, hphase, hidle, hstarts]
    decide
  · obtain ⟨t, journal, hstart, -, -⟩ := Loop.start_idle l hidle
    have hrun : k.phase = .running := by rw [hphase, hstart]
    rw [hstarts]
    rcases hend with rfl | ⟨reason, rfl⟩
    · rw [hrun]
      decide
    · rw [Loop.stop_phase reason k hrun]
      decide

end Action

namespace Loop.Lawful
variable {s : Stage} {config : RunSettings} {looks : List Rect} {l m : Loop Stage}

theorem saved_history (h : Lawful s config looks l) (hl : l.phase ≠ .idle) {as : List Action}
    (hm : Action.history as l = some m) :
    m.phase ≠ .idle ∧ m.savedFg = l.savedFg ∧ m.savedBg = l.savedBg := by
  induction as generalizing l looks with
  | nil => cases hm; exact ⟨hl, rfl, rfl⟩
  | cons a rest ih =>
    obtain ⟨k, hk, hrest⟩ := Option.bind_eq_some_iff.mp hm
    obtain ⟨hkidle, hfg, hbg⟩ := (Action.perform_saved h.printable hk).1 hl
    obtain ⟨hmidle, hmfg, hmbg⟩ := ih (h.perform hk) hkidle hrest
    exact ⟨hmidle, hmfg.trans hfg, hmbg.trans hbg⟩

theorem left_iff (h : Lawful s config looks l) (hl : l.phase = .idle) {as : List Action}
    (hm : Action.history as l = some m) : m.phase ≠ .idle ↔ ∃ a ∈ as, a.starts = true := by
  induction as generalizing l looks with
  | nil => cases hm; simp [hl]
  | cons a rest ih =>
    obtain ⟨k, hk, hrest⟩ := Option.bind_eq_some_iff.mp hm
    have hleaves := Action.perform_leaves_iff h.printable hl hk
    rw [List.exists_mem_cons_iff, ← hleaves]
    by_cases hkidle : k.phase = .idle
    · rw [ih (h.perform hk) hkidle hrest]
      simp [hkidle]
    · simp [hkidle, ((h.perform hk).saved_history hkidle hrest).1]

/-- The captured colours are those in effect when the loop left the idle phase. -/
theorem departure_history (h : Lawful s config looks l) (hl : l.phase = .idle) {as : List Action}
    (hm : Action.history as l = some m) (hleft : m.phase ≠ .idle) :
    Action.departure as l = some (m.savedFg, m.savedBg) := by
  induction as generalizing l looks with
  | nil => cases hm; exact absurd hl hleft
  | cons a rest ih =>
    obtain ⟨k, hk, hrest⟩ := Option.bind_eq_some_iff.mp hm
    simp only [Action.departure, hk, Option.bind_some]
    by_cases hkidle : k.phase = .idle
    · rw [if_neg (fun hc => hc.2 hkidle)]
      exact ih (h.perform hk) hkidle hrest
    · obtain ⟨-, hfg, hbg⟩ := (h.perform hk).saved_history hkidle hrest
      obtain hidle | ⟨hkfg, hkbg⟩ := (Action.perform_saved h.printable hk).2 hl
      · exact absurd hidle hkidle
      · rw [if_pos ⟨hl, hkidle⟩, hfg, hbg, hkfg, hkbg]

end Loop.Lawful

/-! ### All histories -/

/-- **Every history is a sentence.** Of each action of the history: the phase moves from idle to
running and from running to stopped and in no other way, and only a run moves it twice. Of the whole:
the loop has left the idle phase exactly when a start or a run is among the actions, the colours
captured are those in effect when it left, and the calls that change the terminal are the title, strokes
that fit the viewports looked at, and, exactly when the loop has stopped, the restoring of the captured
colours. A stroke is recorded in full also if its write fails, so there may be more of them than the
loop has counted, but not less. -/
theorem history_grammar (clock : Int64) (config : RunSettings) (s : Stage) (as : List Action)
    (l : Loop Stage) (h : Action.history as (.new clock s config) = some l) :
    (∀ bs a cs, as = bs ++ a :: cs → ∃ m m', Action.history bs (.new clock s config) = some m ∧
      a.perform m = some m' ∧ Relation.ReflTransGen Phase.Next m.phase m'.phase ∧
      ((∃ limit, a = .run limit) ∨ m'.phase = m.phase ∨ Phase.Next m.phase m'.phase)) ∧
    (l.phase ≠ .idle ↔ .start ∈ as ∨ ∃ limit, .run limit ∈ as) ∧
    (l.phase ≠ .idle →
      Action.departure as (.new clock s config) = some (l.savedFg, l.savedBg)) ∧
    ∃ (calls : List Call) (strokes : List Stroke),
      l.terminal.calls.toList = s.calls.toList ++ calls ∧
      calls.filter Call.mutates =
        (if l.phase ≠ .idle ∧ config.title ≠ "" ∧ s.titled = true then [.retitle config.title]
          else []) ++
        strokes.flatMap Stroke.calls ++
        (if l.phase = .stopped then [.setForeground l.savedFg, .setBackground l.savedBg, .clear]
          else []) ∧
      List.Forall₂ (fun area k => k.Fits area (Picker.glyphRange config.glyphMin config.glyphMax).1
          (Picker.glyphRange config.glyphMin config.glyphMax).2)
        ((Action.historyLooks as (.new clock s config)).filter fun area => !area.isEmpty) strokes ∧
      l.painted ≤ strokes.length := by
  have hnew := Loop.Lawful.new clock s config
  have hl := hnew.history h
  refine ⟨fun bs a cs hsplit => ?_, ?_, hnew.departure_history rfl h, ?_⟩
  · rw [hsplit, Action.history_append] at h
    obtain ⟨m, hm, hrest⟩ := Option.bind_eq_some_iff.mp h
    obtain ⟨m', hm', -⟩ := Option.bind_eq_some_iff.mp hrest
    have hphase := Action.perform_phase (hnew.history hm).printable hm'
    exact ⟨m, m', hm, hm', hphase.1, hphase.2⟩
  · rw [hnew.left_iff rfl h]
    simp only [Action.starts_iff]
    grind
  · obtain ⟨calls, strokes, hcalls, hsentence, hfits, hpainted⟩ := hl.record
    obtain ⟨hmin, hmax⟩ := Prod.mk.inj hl.range
    rw [hmin, hmax] at hfits
    exact ⟨calls, strokes, hcalls, hsentence, hfits, hpainted⟩

/-- A loop with a title that is started, painted with once on a screen of four columns and two rows, and
stopped. -/
theorem history_grammar_one_stroke :
    ∃ l, Action.history [.start, .paint, .stop .key] (.new 0 (.ofBuffer (.new 4 2))
        { RunSettings.default with seed := 1, title := "saver" }) = some l ∧
      l.phase = .stopped ∧
      ∃ k : Stroke, k.Fits ⟨0, 0, 4, 2⟩ 32 126 ∧
        l.terminal.calls.toList.filter Call.mutates = .retitle "saver" :: k.calls ++
          [.setForeground .default, .setBackground .default, .clear] := by
  let config : RunSettings := { RunSettings.default with seed := 1, title := "saver" }
  let actions : List Action := [.start, .paint, .stop .key]
  let l : Loop Stage := .new 0 (.ofBuffer (.new 4 2)) config
  let ended : Loop Stage := (leftBehind (Loop.paint l.start)).stop .key
  have hhistory : Action.history actions l = some ended := rfl
  have hstopped : ended.phase = .stopped := by
    obtain ⟨lost, hpaint⟩ := Loop.paint_leaves l.start (Loop.Lawful.new 0 _ config).start.printable
    exact Loop.stop_phase .key _ hpaint.phase
  have hleft : ended.phase ≠ .idle := by rw [hstopped]; decide
  obtain ⟨-, -, hsaved, calls, strokes, hcalls, hsentence, hfits, -⟩ :=
    history_grammar 0 config (.ofBuffer (.new 4 2)) actions ended hhistory
  have hdeparture : Action.departure actions l = some (.default, .default) := rfl
  have hlooks : (Action.historyLooks actions l).filter (fun area => !area.isEmpty) = [⟨0, 0, 4, 2⟩] := rfl
  obtain ⟨hfg, hbg⟩ := Prod.mk.inj (Option.some.inj ((hsaved hleft).symm.trans hdeparture))
  rw [if_pos ⟨hleft, by decide, rfl⟩, if_pos hstopped, hfg, hbg] at hsentence
  rw [hlooks] at hfits
  cases hfits with
  | @cons _ k _ _ hk hrest =>
    cases hrest
    refine ⟨ended, hhistory, hstopped, k, hk, ?_⟩
    rw [hcalls]
    exact hsentence.trans (by simp [config])

end Screensaver
