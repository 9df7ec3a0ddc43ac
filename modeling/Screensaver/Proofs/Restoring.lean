import Screensaver.Proofs.Cells
import Screensaver.Proofs.Histories

/-! Whatever a run meets, the terminal is given back.

A run can end because a key was pressed, because it was cancelled, because enough was painted, or
because a write or a pause has failed at any point. `run_restores` says that all these ends look alike
from outside: the loop has stopped, the terminal has the colours that were in effect when the loop left
the idle phase, every cell of the screen, whatever its size is by then, is a space in these colours,
and the screen was cleared once, as the last thing of all. What differs is the answer: a reason of the
loop's own, or the very fault of the write or the pause. -/
namespace Screensaver

/-- Whether a call writes a character. -/
def Call.isWrite : Call → Bool
  | .write _ => true
  | _ => false

/-- What a run that made the calls `during` has to leave behind. -/
structure Restored (fg bg : Color) (during : List Call) (before after : Loop Stage) : Prop where
  stopped : after.phase = .stopped
  foreground : after.terminal.buffer.fg = fg
  background : after.terminal.buffer.bg = bg
  blank : ∀ x y, x < after.terminal.buffer.screen.width → y < after.terminal.buffer.screen.height →
    after.terminal.buffer.screen.at? x y = some ⟨32, fg, bg⟩
  home : after.terminal.buffer.col = 0 ∧ after.terminal.buffer.row = 0
  calls : after.terminal.calls.toList = before.terminal.calls.toList ++ during
  once : during.count .clear = 1
  last : during.getLast? = some .clear

/-! ### Calls -/

theorem Stroke.clear_not_mem (s : Stroke) : Call.clear ∉ s.calls := by
  simp [Stroke.calls]

/-- Among calls that are strokes and pauses there is no clearing. -/
theorem clear_not_mem {calls : List Call} {strokes : List Stroke}
    (h : calls.filter Call.mutates = strokes.flatMap Stroke.calls) : Call.clear ∉ calls := by
  intro hmem
  have hmut : Call.clear ∈ calls.filter Call.mutates := List.mem_filter.mpr ⟨hmem, rfl⟩
  rw [h] at hmut
  obtain ⟨s, -, hs⟩ := List.mem_flatMap.mp hmut
  exact s.clear_not_mem hs

/-- Among calls that are strokes and pauses there is a write for each stroke. -/
theorem countP_isWrite {calls : List Call} {strokes : List Stroke}
    (h : calls.filter Call.mutates = strokes.flatMap Stroke.calls) :
    calls.countP Call.isWrite = strokes.length := by
  have hmut : (calls.filter Call.mutates).countP Call.isWrite = calls.countP Call.isWrite := by
    rw [List.countP_filter]
    apply List.countP_congr
    intro c _
    cases c <;> simp [Call.isWrite, Call.mutates]
  have hone : ∀ s : Stroke, s.calls.countP Call.isWrite = 1 := fun _ => rfl
  rw [← hmut, h, List.countP_flatMap]
  simp [Function.comp_def, hone]

namespace Loop

theorem start_calls (l : Loop Stage) :
    ∃ opening, l.start.terminal.calls.toList = l.terminal.calls.toList ++ opening ∧
      Call.clear ∉ opening ∧ opening.countP Call.isWrite = 0 := by
  by_cases h : l.phase = .idle
  · obtain ⟨t, journal, hstart, -, hcalls⟩ := start_idle l h
    rw [hstart]
    refine ⟨_, hcalls, ?_⟩
    unfold titleCalls
    split <;> simp [Call.isWrite]
  · rw [start_not_idle l h]
    exact ⟨[], by simp, by simp, rfl⟩

theorem start_runs (l : Loop Stage) (h : l.phase ≠ .stopped) : l.start.phase = .running := by
  cases hl : l.phase with
  | idle =>
    obtain ⟨t, journal, hstart, -, -⟩ := start_idle l hl
    rw [hstart]
  | running => rw [start_not_idle l (by rw [hl]; decide), hl]
  | stopped => exact absurd hl h

/-- The stage with the colours put back and cleared. -/
def restored (fg bg : Color) (t : Stage) : Stage :=
  Terminal.clear (Terminal.setBackground bg (Terminal.setForeground fg t))

theorem stop_terminal (reason : StopReason) (l : Loop Stage) (h : l.phase = .running) :
    (l.stop reason).terminal = restored l.savedFg l.savedBg l.terminal := by
  rw [stop, if_pos h]
  rfl

theorem Ending.leftBehind_eq {k : Loop Stage} {lost : Nat}
    {r : EStateM.Result Fault (Loop Stage) StopReason} (h : Ending k lost r)
    (hk : k.phase = .running) : ∃ reason, leftBehind r = k.stop reason := by
  cases h with
  | still hstill => exact absurd hk hstill
  | stopped _ _ => exact ⟨_, rfl⟩
  | failed _ => exact ⟨_, rfl⟩

/-! ### Ends -/

theorem run_error {τ : Type} [Terminal τ] {around : Surroundings τ} {l m : Loop τ} {e : Fault}
    (n : Nat) (h : turn around l.start = .error e m) :
    l.run around (n + 1) = some (.error e (m.stop .aborted)) := by
  rw [run, turns, h]
  rfl

/-- Stopping a loop that has painted since the start restores, for whatever reason. -/
theorem stop_restored (l k : Loop Stage) (h : l.phase ≠ .stopped) {looks : List Rect} {lost : Nat}
    (hpaint : Painting looks lost l.start k) (reason : StopReason) :
    ∃ during, Restored k.savedFg k.savedBg during l (k.stop reason) ∧
      (k.stop reason).painted + lost = l.painted + during.countP Call.isWrite := by
  have hrun : k.phase = .running := hpaint.phase.trans (start_runs l h)
  obtain ⟨opening, hopening, hnoclear, hnowrite⟩ := start_calls l
  obtain ⟨calls, strokes, hcalls, hmut, -, hpainted⟩ := hpaint.record
  obtain ⟨t, journal, hstop, -, htcalls⟩ := stop_running reason k hrun
  have hterminal := stop_terminal reason k hrun
  refine ⟨opening ++ calls ++ [.setForeground k.savedFg, .setBackground k.savedBg, .clear],
    ⟨stop_phase reason k hrun, ?_, ?_, ?_, ?_, ?_, ?_, ?_⟩, ?_⟩
  · rw [hterminal]
    rfl
  · rw [hterminal]
    rfl
  · rw [hterminal]
    intro x y hx hy
    exact (Screen.at?_fill _ _ x y).trans (if_pos ⟨hx, hy⟩)
  · rw [hterminal]
    exact ⟨rfl, rfl⟩
  · rw [hstop]
    show t.calls.toList = _
    rw [htcalls, hcalls, hopening]
    simp
  · rw [List.count_append, List.count_append, List.count_eq_zero.mpr hnoclear,
      List.count_eq_zero.mpr (clear_not_mem hmut)]
    rfl
  · simp
  · have hstart : l.start.painted = l.painted := by
      unfold start
      split <;> rfl
    rw [hstop, List.countP_append, List.countP_append, hnowrite, countP_isWrite hmut, ← hstart,
      Nat.zero_add]
    exact hpainted

end Loop

/-- **However a run ends, the terminal is given back.** The loop may be new or have any history, as
long as it has not stopped, and anything may happen during its writes and pauses. The run leaves a
stopped loop and a cleared screen in the colours that were in effect when the loop left the idle
phase. If it answers, the answer is the loop's reason and one of its own; if it fails, the reason is
that it was aborted, and the fault is that of the write or the pause on whose stage the colours were
then put back. The glyphs counted are those whose write has succeeded. -/
theorem run_restores (clock : Int64) (config : RunSettings) (s : Stage) (before : List Action)
    (l : Loop Stage) (hl : Action.history before (.new clock s config) = some l)
    (hp : l.phase ≠ .stopped) (limit : Nat)
    (r : EStateM.Result Fault (Loop Stage) StopReason)
    (hr : l.run Stage.surroundings limit = some r) :
    ∃ fg bg during lost,
      Action.departure (before ++ [.run limit]) (.new clock s config) = some (fg, bg) ∧
      Restored fg bg during l (leftBehind r) ∧
      (leftBehind r).painted + lost = l.painted + during.countP Call.isWrite ∧
      (∀ reason m, r = .ok reason m →
        lost = 0 ∧ reason = m.reason ∧ reason ∈ [StopReason.key, .cancelled, .count]) ∧
      (∀ e m, r = .error e m →
        m.reason = .aborted ∧ ∃ t, Stage.Failed e t lost ∧ m.terminal = Loop.restored fg bg t) := by
  have hnew := Loop.Lawful.new clock s config
  obtain ⟨k, lost, hpaint, hend⟩ := Loop.run_painting limit l (hnew.history hl).printable hr
  have hrun : k.phase = .running := hpaint.phase.trans (Loop.start_runs l hp)
  have hall : Action.history (before ++ [.run limit]) (.new clock s config) = some (leftBehind r) := by
    rw [Action.history_append, hl]
    simp [Action.history, Action.perform, hr]
  obtain ⟨reason, hleft⟩ := hend.leftBehind_eq hrun
  obtain ⟨during, hrestored, hpainted⟩ := Loop.stop_restored l k hp hpaint reason
  rw [← hleft] at hrestored hpainted
  have hdeparture := hnew.departure_history rfl hall (by rw [hrestored.stopped]; decide)
  rw [hleft, (Loop.stop_saved reason k).1, (Loop.stop_saved reason k).2] at hdeparture
  refine ⟨k.savedFg, k.savedBg, during, lost, hdeparture, hrestored, hpainted, ?_, ?_⟩
  · rintro _ m rfl
    cases hend with
    | still hk => exact absurd hrun hk
    | stopped _ hmem => exact ⟨rfl, (Loop.stop_reason _ k hrun).symm, hmem⟩
  · rintro e m rfl
    cases hend with
    | failed hfailed =>
      exact ⟨Loop.stop_reason _ k hrun, k.terminal, hfailed, Loop.stop_terminal _ k hrun⟩

/-- A run whose first write fails, on a screen of four columns and two rows that grows to nine columns
and three rows during the write. -/
theorem run_restores_failed_write :
    let l : Loop Stage := .new 0
      { Stage.ofBuffer (.new 4 2) with
        schedule := .ofList [⟨.beforeWrite, 1, .resize 9 3⟩, ⟨.beforeWrite, 1, .fault "torn"⟩] }
      { RunSettings.default with seed := 1 }
    ∃ m, l.run Stage.surroundings 1 = some (.error (.raised "torn") m) ∧
      m.terminal.buffer.screen.width = 9 ∧ m.reason = .aborted ∧ m.painted = 0 ∧
      ∃ fg bg during, Restored fg bg during l m := by
  intro l
  have harea : (Terminal.viewport l.start.terminal).isEmpty = false := rfl
  obtain ⟨s, p, hs, -, -⟩ := Picker.stroke_ok _ harea l.start.picker
    (Loop.Lawful.new 0 l.terminal l.config).printable
  have hturn : Loop.turn Stage.surroundings l.start = .error (.raised "torn") _ :=
    bind_error (Loop.paint_stroke l.start rfl harea hs)
  have hrun := Loop.run_error 0 hturn
  obtain ⟨fg, bg, during, lost, -, hrestored, hpainted, -, herror⟩ :=
    run_restores 0 l.config l.terminal [] l rfl (by decide) 1 _ hrun
  exact ⟨_, hrun, rfl, (herror _ _ rfl).1, rfl, fg, bg, during, hrestored⟩

end Screensaver
