import Screensaver.Console
import Screensaver.Proofs.Arrivals
import Screensaver.Proofs.Watching

/-! What is painted follows from the seed, the glyphs and the viewports.

`Picker.course` is what a picker makes of viewports, one after the other: a stroke for each that has a
cell, and two colours drawn for nothing for each that has none. A loop's picker draws in no other way
(`Progress.drawing`). So two loops that start with the same picker, on whatever terminals and whatever is
done with them, paint the same as long as their paints look at the same viewports (`strokes_follow_looks`). -/
namespace Screensaver

/-! ### Courses -/

namespace Picker

/-- The strokes of paints that look at these viewports in order. -/
def course : List Rect → EStateM Fault Picker (List Stroke)
  | [] => pure []
  | area :: rest =>
    if area.isEmpty then do
      let _ ← colors
      course rest
    else do
      let s ← stroke area
      let more ← course rest
      return s :: more

variable {area : Rect} {looks looks' : List Rect} {p q r : Picker} {strokes strokes' : List Stroke}

theorem course_empty (harea : area.isEmpty = true) {c : Color × Color} (hc : colors p = .ok c q)
    (hrest : course looks q = .ok strokes r) : course (area :: looks) p = .ok strokes r := by
  rw [course, if_pos harea, bind_ok hc, hrest]

theorem course_stroke (harea : area.isEmpty = false) {s : Stroke} (hs : stroke area p = .ok s q)
    (hrest : course looks q = .ok strokes r) : course (area :: looks) p = .ok (s :: strokes) r := by
  rw [course, if_neg (by simp [harea]), bind_ok hs, bind_ok hrest]
  rfl

/-- With a range it is made with, a picker can go through any viewports. -/
theorem course_ok (looks : List Rect) (p : Picker) (hp : p.Printable) :
    ∃ strokes q, course looks p = .ok strokes q ∧ SameRange p q := by
  induction looks generalizing p with
  | nil => exact ⟨[], p, rfl, .refl p⟩
  | cons area rest ih =>
    cases harea : area.isEmpty with
    | true =>
      obtain ⟨fg, bg, q, hc, -, hq⟩ := colors_ok p
      obtain ⟨strokes, r, hrest, hr⟩ := ih q (hp.of_sameRange hq)
      exact ⟨strokes, r, course_empty harea hc hrest, hq.trans hr⟩
    | false =>
      obtain ⟨s, q, hs, -, hq⟩ := stroke_ok area harea p hp
      obtain ⟨strokes, r, hrest, hr⟩ := ih q (hp.of_sameRange hq)
      exact ⟨s :: strokes, r, course_stroke harea hs hrest, hq.trans hr⟩

/-- Going through more viewports is going on. -/
theorem course_append (h : course looks p = .ok strokes q) (h' : course looks' q = .ok strokes' r) :
    course (looks ++ looks') p = .ok (strokes ++ strokes') r := by
  induction looks generalizing p strokes with
  | nil =>
    cases h
    exact h'
  | cons area rest ih =>
    rw [course] at h
    cases harea : area.isEmpty with
    | true =>
      rw [if_pos harea] at h
      obtain ⟨c, k, hc, hrest⟩ := bind_eq_ok h
      exact course_empty harea hc (ih hrest)
    | false =>
      rw [if_neg (by simp [harea])] at h
      obtain ⟨s, k, hs, hmore⟩ := bind_eq_ok h
      obtain ⟨more, k', hrest, hend⟩ := bind_eq_ok hmore
      cases hend
      exact course_stroke harea hs (ih hrest)

end Picker

/-! ### Strokes in a record of calls -/

/-- The colours and the place that were set last. -/
structure Brush where
  fg : Color
  bg : Color
  col : Int64
  row : Int64

namespace Brush

/-- The brush after a call. -/
def after (b : Brush) : Call → Brush
  | .setForeground c => { b with fg := c }
  | .setBackground c => { b with bg := c }
  | .setCursor col row => { b with col, row }
  | _ => b

/-- What calls put on the screen: a stroke for each glyph written, in the colours and at the place set
last before it. -/
def strokes (b : Brush) : List Call → List Stroke
  | [] => []
  | .write g :: rest => ⟨b.fg, b.bg, b.col, b.row, g⟩ :: b.strokes rest
  | c :: rest => (b.after c).strokes rest

theorem strokes_append (b : Brush) (calls calls' : List Call) :
    b.strokes (calls ++ calls') = b.strokes calls ++ (calls.foldl after b).strokes calls' := by
  induction calls generalizing b with
  | nil => rfl
  | cons c rest ih =>
    cases c with
    | write g => exact congrArg (_ :: ·) (ih b)
    | _ => exact ih _

theorem strokes_of_no_write (b : Brush) {calls : List Call} (h : ∀ g, Call.write g ∉ calls) :
    b.strokes calls = [] := by
  induction calls generalizing b with
  | nil => rfl
  | cons c rest ih =>
    have hrest : ∀ g, Call.write g ∉ rest := fun g hg => h g (List.mem_cons_of_mem c hg)
    cases c with
    | write g => exact absurd List.mem_cons_self (h g)
    | _ => exact ih _ hrest

end Brush

/-- The strokes that uses of a loop put on the screen. Which colours and which place are set before the
first call does not matter, as every stroke sets its own. -/
def Use.strokes {τ : Type} [Terminal τ] (uses : List (Use τ)) (l : Loop τ) : List Stroke :=
  Brush.strokes ⟨.default, .default, 0, 0⟩ (calls uses l)

/-! ### What a loop draws -/

namespace Loop
variable {τ : Type}

/-- From `l` to `m` the picker has gone through the viewports `looks`, and the strokes it has drawn are
those that were made. -/
structure Drawing (looks : List Rect) (l m : Loop (Watched τ)) : Prop where
  range : Picker.SameRange l.picker m.picker
  record : ∃ calls strokes, m.terminal.calls = l.terminal.calls ++ calls ∧
    Picker.course looks l.picker = .ok strokes m.picker ∧ ∀ b : Brush, b.strokes calls = strokes

namespace Drawing
variable {looks looks' : List Rect} {l m k : Loop (Watched τ)}

theorem trans (h : Drawing looks l m) (h' : Drawing looks' m k) : Drawing (looks ++ looks') l k := by
  obtain ⟨calls, strokes, hcalls, hcourse, hstrokes⟩ := h.record
  obtain ⟨calls', strokes', hcalls', hcourse', hstrokes'⟩ := h'.record
  refine ⟨h.range.trans h'.range, calls ++ calls', strokes ++ strokes', ?_,
    Picker.course_append hcourse hcourse', fun b => ?_⟩
  · rw [hcalls', hcalls, List.append_assoc]
  · rw [Brush.strokes_append, hstrokes, hstrokes']

theorem of_quiet (h : Quiet l m) : Drawing [] l m := by
  obtain ⟨calls, hcalls, hwrite⟩ := h.calls
  refine ⟨by rw [h.picker]; exact .refl _, calls, [], hcalls, ?_, fun b => b.strokes_of_no_write hwrite⟩
  rw [h.picker]
  rfl

/-- A stroke whose write has left the terminal as `w`. -/
theorem of_stroke (hrun : l.phase = .running) [Terminal τ]
    (harea : (Terminal.viewport l.terminal).isEmpty = false) {s : Stroke} {p : Picker}
    (hs : Picker.stroke (Terminal.viewport l.terminal) l.picker = .ok s p)
    (hrange : Picker.SameRange l.picker p) {w : Watched τ} {painted : Nat}
    (hw : w.calls = l.terminal.calls ++ s.calls) :
    Drawing l.look l { l with terminal := w, picker := p, painted } := by
  have hlook : l.look = [Terminal.viewport l.terminal] := if_pos hrun
  rw [hlook]
  exact ⟨hrange, s.calls, [s], hw, Picker.course_stroke harea hs rfl, fun _ => rfl⟩

theorem paint [Terminal τ] (l : Loop (Watched τ)) (hp : l.picker.Printable) :
    Drawing l.look l (leftBehind (Loop.paint l)) := by
  by_cases hrun : l.phase = .running
  · cases harea : (Terminal.viewport l.terminal).isEmpty with
    | true =>
      have hlook : l.look = [Terminal.viewport l.terminal] := if_pos hrun
      obtain ⟨fg, bg, p, hc, -, hrange⟩ := Picker.colors_ok l.picker
      rw [paint_empty l hrun harea hc, hlook]
      exact ⟨hrange, [], [], (List.append_nil _).symm, Picker.course_empty harea hc rfl, fun _ => rfl⟩
    | false =>
      obtain ⟨s, p, hs, -, hrange⟩ := Picker.stroke_ok _ harea l.picker hp
      have hcalls := write_aimed_calls s l.terminal
      rw [paint_stroke l hrun harea hs]
      cases hw : Terminal.write s.glyph (aimed s l.terminal) with
      | ok v w => rw [hw] at hcalls; exact of_stroke hrun harea hs hrange hcalls
      | error e w => rw [hw] at hcalls; exact of_stroke hrun harea hs hrange hcalls
  · have hlook : l.look = [] := if_neg hrun
    rw [paint_not_running l hrun, hlook]
    exact of_quiet (.refl l)

end Drawing

/-- Only paints draw, and each draws for the viewport it looks at. -/
theorem Progress.drawing [Terminal τ] {looks : List Rect} {l m : Loop (Watched τ)}
    (h : Progress looks l m) (hp : l.picker.Printable) : Drawing looks l m := by
  induction h with
  | quiet hq => exact .of_quiet hq
  | paint l => exact .paint l hp
  | trans _ _ ih ih' =>
    have hfirst := ih hp
    exact hfirst.trans (ih' (hp.of_sameRange hfirst.range))

theorem looksOfTurns_bare [Terminal τ] (around : Surroundings τ) (n : Nat) (l : Loop (Watched τ)) :
    looksOfTurns around n l.bare = looksOfTurns around.watched n l := by
  induction n generalizing l with
  | zero => rfl
  | succ n ih =>
    rw [looksOfTurns, looksOfTurns, ← turn_mirrors around l]
    refine congrArg (l.look ++ ·) ?_
    cases turn around.watched l with
    | ok b m =>
      cases b with
      | true => exact ih m
      | false => rfl
    | error e m => rfl

end Loop

namespace Use
variable {τ : Type} [Terminal τ]

theorem looks_bare (u : Use τ) (l : Loop (Watched τ)) : u.looks l.bare = u.watched.looks l := by
  cases u with
  | run around limit =>
    show Loop.looksOfTurns around limit l.bare.start = Loop.looksOfTurns around.watched limit l.start
    rw [← Loop.bare_start, Loop.looksOfTurns_bare]
  | _ => rfl

theorem historyLooks_bare (uses : List (Use τ)) (l : Loop (Watched τ)) :
    historyLooks uses l.bare = historyLooks (uses.map watched) l := by
  induction uses generalizing l with
  | nil => rfl
  | cons u rest ih =>
    rw [List.map_cons, historyLooks, historyLooks, looks_bare, perform_bare]
    cases u.watched.perform l with
    | none => rfl
    | some m => exact congrArg (u.watched.looks l ++ ·) (ih m)

/-- What uses of a fresh loop paint is the course of its picker through the viewports. -/
theorem course_strokes (clock : Int64) (t : τ) (config : RunSettings) {uses : List (Use τ)} {l : Loop τ}
    (h : history uses (.new clock t config) = some l) :
    ∃ p : Picker, p.Printable ∧ Picker.course (historyLooks uses (.new clock t config))
        (.new (Loop.effective clock config).seed config.glyphMin config.glyphMax) =
      .ok (strokes uses (.new clock t config)) p := by
  rw [← Loop.bare_watch (Loop.new clock t config), history_bare] at h
  obtain ⟨m, hm, -⟩ := Option.map_eq_some_iff.mp h
  have hprintable : (Loop.new clock t config).watch.picker.Printable := .of_range rfl
  obtain ⟨hrange, made, drawn, hcalls, hcourse, hstrokes⟩ := (history_progress hm).drawing hprintable
  have hlooks : historyLooks uses (.new clock t config) =
      historyLooks (uses.map watched) (Loop.new clock t config).watch :=
    historyLooks_bare uses (Loop.new clock t config).watch
  have hmade : calls uses (.new clock t config) = made := by
    rw [calls, hm]
    exact hcalls
  refine ⟨m.picker, hprintable.of_sameRange hrange, ?_⟩
  rw [hlooks, strokes, hmade, hstrokes]
  exact hcourse

end Use

/-- **What is painted follows from the seed, the glyphs and the viewports.** Two loops with the same seed,
which is not taken from the clock, and the same bounds for glyphs are used in any two ways, on any two
terminals and with any pauses, counts and titles. If the viewports that the paints of the first look at
come first among those of the second, what the first paints comes first in what the second paints. With
one and the same viewport all the time, it is enough that the first does not paint more often: a run
that is interrupted has painted the beginning of what it would have painted. A run that has not ended
is used here turn by turn. -/
theorem strokes_follow_looks {τ σ : Type} [Terminal τ] [Terminal σ] (clock clock' : Int64) (t : τ) (u : σ)
    (config config' : RunSettings) (uses : List (Use τ)) (uses' : List (Use σ)) (l : Loop τ)
    (l' : Loop σ) (hseed : config.seed ≠ 0) (hsame : config'.seed = config.seed)
    (hmin : config'.glyphMin = config.glyphMin) (hmax : config'.glyphMax = config.glyphMax)
    (hl : Use.history uses (.new clock t config) = some l)
    (hl' : Use.history uses' (.new clock' u config') = some l') :
    (Use.historyLooks uses (.new clock t config) <+: Use.historyLooks uses' (.new clock' u config') →
      Use.strokes uses (.new clock t config) <+: Use.strokes uses' (.new clock' u config')) ∧
    ∀ area, (∀ look ∈ Use.historyLooks uses (.new clock t config), look = area) →
      (∀ look ∈ Use.historyLooks uses' (.new clock' u config'), look = area) →
      (Use.historyLooks uses (.new clock t config)).length ≤
        (Use.historyLooks uses' (.new clock' u config')).length →
      Use.strokes uses (.new clock t config) <+: Use.strokes uses' (.new clock' u config') := by
  obtain ⟨p, hp, hcourse⟩ := Use.course_strokes clock t config hl
  obtain ⟨p', -, hcourse'⟩ := Use.course_strokes clock' u config' hl'
  have hpicker : (Loop.effective clock' config').seed = (Loop.effective clock config).seed := by
    simp only [Loop.effective, hsame, if_neg hseed]
  rw [hpicker, hmin, hmax] at hcourse'
  have hfirst : Use.historyLooks uses (.new clock t config) <+:
      Use.historyLooks uses' (.new clock' u config') →
      Use.strokes uses (.new clock t config) <+: Use.strokes uses' (.new clock' u config') := by
    rintro ⟨more, hmore⟩
    obtain ⟨strokes, q, hrest, -⟩ := Picker.course_ok more p hp
    rw [← hmore, Picker.course_append hcourse hrest] at hcourse'
    injection hcourse' with hstrokes
    exact ⟨strokes, hstrokes⟩
  refine ⟨hfirst, fun area harea harea' hlength => hfirst ?_⟩
  rw [List.eq_replicate_of_mem harea, List.eq_replicate_of_mem harea', ← Nat.add_sub_cancel' hlength,
    ← List.replicate_append_replicate]
  exact List.prefix_append _ _

/-- On a buffer the next paint looks at the same viewport. -/
theorem Loop.look_paint {l : Loop Buffer} (hp : l.picker.Printable) :
    (leftBehind l.paint).look = l.look := by
  have hinked := l.paint_inked hp
  have hphase : (leftBehind l.paint).phase = l.phase := by rw [hinked.frame]
  have hviewport : (leftBehind l.paint).terminal.viewport = l.terminal.viewport := by
    rw [Buffer.viewport, Buffer.viewport, hinked.width, hinked.height]
  rw [look, look, hphase]
  exact congrArg (fun area => if l.phase = .running then [area] else []) hviewport

/-- A console that is painted on once, and a buffer that is painted on twice. -/
theorem strokes_follow_looks_console_buffer :
    Use.historyLooks [.paint, .start, .paint]
      (Loop.new 3 (Console.new 4 2) ⟨1, 7, 1, 65, 90, "Rain"⟩) = [⟨0, 0, 4, 2⟩] ∧
    Use.historyLooks [.start, .paint, .paint] (Loop.new 0 (Buffer.new 4 2) ⟨0, 7, 0, 65, 90, ""⟩) =
      [⟨0, 0, 4, 2⟩, ⟨0, 0, 4, 2⟩] ∧
    Use.strokes [.paint, .start, .paint] (Loop.new 3 (Console.new 4 2) ⟨1, 7, 1, 65, 90, "Rain"⟩) <+:
      Use.strokes [.start, .paint, .paint] (Loop.new 0 (Buffer.new 4 2) ⟨0, 7, 0, 65, 90, ""⟩) := by
  have hlooks : Use.historyLooks [.paint, .start, .paint]
      (Loop.new 3 (Console.new 4 2) ⟨1, 7, 1, 65, 90, "Rain"⟩) = [⟨0, 0, 4, 2⟩] := rfl
  have hpaints : ∀ l : Loop Buffer, Use.historyLooks [.start, .paint, .paint] l =
      l.start.look ++ ((leftBehind l.start.paint).look ++ []) := fun _ => rfl
  have hlooks' : Use.historyLooks [.start, .paint, .paint]
      (Loop.new 0 (Buffer.new 4 2) ⟨0, 7, 0, 65, 90, ""⟩) = [⟨0, 0, 4, 2⟩, ⟨0, 0, 4, 2⟩] := by
    have hprintable : (Loop.new 0 (Buffer.new 4 2) ⟨0, 7, 0, 65, 90, ""⟩).start.picker.Printable :=
      ⟨by decide, by decide, by decide⟩
    rw [hpaints, Loop.look_paint hprintable]
    rfl
  obtain ⟨hfirst, -⟩ := strokes_follow_looks 3 0 (Console.new 4 2) (Buffer.new 4 2)
    ⟨1, 7, 1, 65, 90, "Rain"⟩ ⟨0, 7, 0, 65, 90, ""⟩ [.paint, .start, .paint]
    [.start, .paint, .paint] _ _ (by decide) rfl rfl rfl rfl rfl
  refine ⟨hlooks, hlooks', hfirst ?_⟩
  rw [hlooks, hlooks']
  exact List.prefix_append [_] [_]

end Screensaver
