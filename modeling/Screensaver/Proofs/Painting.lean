import Mathlib.Data.List.Forall2
import Screensaver.Proofs.Strokes
import Screensaver.Stage

/-! What a run asks of the terminal, up to the point where the loop is stopped.

`Painting` compares two states of a loop on a stage between which it has only painted: every call that
changes the terminal belongs to a stroke, there is one stroke for each viewport with cells that a
paint has looked at, in order, and each stroke fits its viewport. Paints, pauses, and whatever happens
on the stage keep to this, with or without a fault, and so does any number of turns.

`run_painting` says what a run is: it starts the loop, paints up to some point, and there the loop is
stopped, by a poll for a reason of its own or at last because a write or a pause has failed. -/
namespace Screensaver

/-! ### The record of a stage -/

/-- Whether a call changes the terminal. -/
def Call.mutates : Call → Bool
  | .pause _ => false
  | _ => true

/-- The calls of a stroke. -/
def Stroke.calls (s : Stroke) : List Call :=
  [.setForeground s.fg, .setBackground s.bg, .setCursor s.col s.row, .write s.glyph]

namespace Stage

/-- Nothing was recorded, and the terminal has a title as before or has none as before. -/
structure Unrecorded (s t : Stage) : Prop where
  calls : t.calls = s.calls
  titled : t.titled = s.titled

theorem Unrecorded.trans {s t u : Stage} (h : Unrecorded s t) (h' : Unrecorded t u) :
    Unrecorded s u :=
  ⟨h'.calls.trans h.calls, h'.titled.trans h.titled⟩

theorem happen_unrecorded (h : Happening) (s : Stage) :
    Unrecorded s (leftBehind (happen h s)) := by
  cases h <;> exact ⟨rfl, rfl⟩

theorem happenAll_unrecorded (hs : List Happening) (s : Stage) :
    Unrecorded s (leftBehind (happenAll hs s)) := by
  induction hs generalizing s with
  | nil => exact ⟨rfl, rfl⟩
  | cons h rest ih =>
    have hfirst := happen_unrecorded h s
    refine leftBehind_bind (fun _ t ht => ?_) (fun e t ht => ?_)
    · rw [ht] at hfirst
      exact hfirst.trans (ih t)
    · rw [ht] at hfirst
      exact hfirst

/-- A write records itself, whatever happens during it and also if it fails. -/
theorem write_record (g : Int32) (s : Stage) :
    Unrecorded (s.record (.write g)) (leftBehind (write g s)) := by
  let t : Stage := { s.record (.write g) with writes := s.writes + 1 }
  have hbegin : Unrecorded (s.record (.write g)) t := ⟨rfl, rfl⟩
  have hbefore := happenAll_unrecorded (t.schedule.during .beforeWrite t.writes) t
  refine hbegin.trans (leftBehind_bind (s := t) (fun _ u hu => ?_) (fun e u hu => ?_))
  · rw [hu] at hbefore
    have hstored : Unrecorded u { u with buffer := u.buffer.write g } := ⟨rfl, rfl⟩
    exact hbefore.trans (hstored.trans (happenAll_unrecorded _ _))
  · rw [hu] at hbefore
    exact hbefore

/-- A pause records itself likewise. -/
theorem pause_record (ns : Int64) (s : Stage) :
    Unrecorded (s.record (.pause ns)) (leftBehind (pause ns s)) := by
  have hbegin : Unrecorded (s.record (.pause ns))
      { s.record (.pause ns) with pauses := s.pauses + 1 } := ⟨rfl, rfl⟩
  exact hbegin.trans (happenAll_unrecorded _ _)

/-- A write or a pause has failed and left the stage so. The number is that of the glyphs asked for
and not counted as painted. -/
inductive Failed (e : Fault) (t : Stage) : Nat → Prop where
  | write {g : Int32} {s : Stage} : Stage.write g s = .error e t → Failed e t 1
  | pause {ns : Int64} {s : Stage} : Stage.pause ns s = .error e t → Failed e t 0

end Stage

namespace Loop

/-- The viewport that a paint looks at; only a running loop looks. -/
def look {τ : Type} [Terminal τ] (l : Loop τ) : List Rect :=
  if l.phase = .running then [Terminal.viewport l.terminal] else []

/-! ### Painting -/

/-- From `l` to `m` the loop has only painted, having looked at the viewports `looks`: it has made a
stroke for each that has a cell, and the writes of `lost` strokes have failed. -/
structure Painting (looks : List Rect) (lost : Nat) (l m : Loop Stage) : Prop where
  frame : m = { l with terminal := m.terminal, picker := m.picker, painted := m.painted }
  range : Picker.SameRange l.picker m.picker
  titled : m.terminal.titled = l.terminal.titled
  still : l.phase ≠ .running → looks = []
  record : ∃ (calls : List Call) (strokes : List Stroke),
    m.terminal.calls.toList = l.terminal.calls.toList ++ calls ∧
    calls.filter Call.mutates = strokes.flatMap Stroke.calls ∧
    List.Forall₂ (fun area s => s.Fits area l.picker.glyphMin l.picker.glyphMax)
      (looks.filter fun area => !area.isEmpty) strokes ∧
    m.painted + lost = l.painted + strokes.length

namespace Painting
variable {looks looks' : List Rect} {lost lost' : Nat} {l m k : Loop Stage}

theorem phase (h : Painting looks lost l m) : m.phase = l.phase := by
  rw [h.frame]

theorem savedFg (h : Painting looks lost l m) : m.savedFg = l.savedFg := by
  rw [h.frame]

theorem savedBg (h : Painting looks lost l m) : m.savedBg = l.savedBg := by
  rw [h.frame]

theorem config (h : Painting looks lost l m) : m.config = l.config := by
  rw [h.frame]

theorem refl (l : Loop Stage) : Painting [] 0 l l :=
  ⟨rfl, .refl _, rfl, fun _ => rfl, [], [], by simp, rfl, .nil, rfl⟩

theorem trans (h : Painting looks lost l m) (h' : Painting looks' lost' m k) :
    Painting (looks ++ looks') (lost + lost') l k := by
  obtain ⟨calls, strokes, hcalls, hmut, hfits, hpainted⟩ := h.record
  obtain ⟨calls', strokes', hcalls', hmut', hfits', hpainted'⟩ := h'.record
  refine ⟨?_, h.range.trans h'.range, h'.titled.trans h.titled, fun hp => ?_,
    calls ++ calls', strokes ++ strokes', ?_, ?_, ?_, ?_⟩
  · calc k = { m with terminal := k.terminal, picker := k.picker, painted := k.painted } := h'.frame
      _ = { l with terminal := k.terminal, picker := k.picker, painted := k.painted } := by
        rw [h.frame]
  · rw [h.still hp, h'.still (h.phase ▸ hp)]
    rfl
  · rw [hcalls', hcalls, List.append_assoc]
  · rw [List.filter_append, List.flatMap_append, hmut, hmut']
  · rw [h.range.1, h.range.2] at hfits'
    rw [List.filter_append]
    exact List.rel_append hfits hfits'
  · rw [List.length_append]
    omega

/-- Something was recorded that does not change the terminal, or nothing. -/
theorem of_quiet {t : Stage} (calls : List Call)
    (hcalls : t.calls.toList = l.terminal.calls.toList ++ calls)
    (hquiet : calls.filter Call.mutates = []) (htitled : t.titled = l.terminal.titled) :
    Painting [] 0 l { l with terminal := t } :=
  ⟨rfl, .refl _, htitled, fun _ => rfl, calls, [], hcalls, hquiet, .nil, rfl⟩

end Painting

/-! ### Single steps -/

theorem happen_painting (h : Happening) (l : Loop Stage) :
    Painting [] 0 l { l with terminal := leftBehind (Stage.happen h l.terminal) } := by
  have hkept := Stage.happen_unrecorded h l.terminal
  exact .of_quiet [] (by rw [hkept.calls, List.append_nil]) rfl hkept.titled

theorem pause_painting (l : Loop Stage) :
    Painting [] 0 l (leftBehind (pause Stage.surroundings l)) := by
  have hkept := Stage.pause_record l.interval l.terminal
  have hleft : leftBehind (pause Stage.surroundings l) =
      { l with terminal := leftBehind (Stage.pause l.interval l.terminal) } := by
    simp only [pause, Stage.surroundings]
    cases Stage.pause l.interval l.terminal <;> rfl
  rw [hleft]
  refine .of_quiet [.pause l.interval] ?_ rfl hkept.titled
  rw [hkept.calls]
  exact Array.toList_push

theorem pause_failed {l m : Loop Stage} {e : Fault} (h : pause Stage.surroundings l = .error e m) :
    Stage.Failed e m.terminal 0 := by
  simp only [pause, Stage.surroundings] at h
  cases hp : Stage.pause l.interval l.terminal with
  | ok v t => rw [hp] at h; cases h
  | error e' t => rw [hp] at h; cases h; exact .pause hp

/-- The calls of a stroke, as the stage records them. -/
theorem aimed_record (s : Stroke) (t : Stage) :
    ((aimed s t).record (.write s.glyph)).calls.toList = t.calls.toList ++ s.calls := by
  show (((((t.calls.push _).push _).push _).push _).toList = _)
  simp [Stroke.calls]

/-- A stroke whose write has left the stage as `t`. -/
theorem stroke_painting (l : Loop Stage) (h : l.phase = .running) {s : Stroke} {p : Picker}
    {t : Stage} {painted lost : Nat}
    (harea : (Terminal.viewport l.terminal).isEmpty = false)
    (hfits : s.Fits (Terminal.viewport l.terminal) l.picker.glyphMin l.picker.glyphMax)
    (hrange : Picker.SameRange l.picker p)
    (ht : Stage.Unrecorded ((aimed s l.terminal).record (.write s.glyph)) t)
    (hpainted : painted + lost = l.painted + 1) :
    Painting l.look lost l { l with terminal := t, picker := p, painted } := by
  have hlook : l.look = [Terminal.viewport l.terminal] := if_pos h
  refine ⟨rfl, hrange, ht.titled, fun hp => absurd h hp, s.calls, [s], ?_, ?_, ?_, hpainted⟩
  · show t.calls.toList = _
    rw [ht.calls, aimed_record]
  · rw [List.flatMap_singleton]
    rfl
  · rw [hlook, List.filter_cons_of_pos (by simp [harea])]
    exact .cons hfits .nil

/-- A paint either succeeds or its write fails; it paints in both cases. -/
theorem paint_painting (l : Loop Stage) (hp : l.picker.Printable) :
    match paint l with
    | .ok _ m => Painting l.look 0 l m
    | .error e m => Painting l.look 1 l m ∧ Stage.Failed e m.terminal 1 := by
  by_cases h : l.phase = .running
  · cases harea : (Terminal.viewport l.terminal).isEmpty with
    | true =>
      obtain ⟨fg, bg, p, hc, -, hrange⟩ := Picker.colors_ok l.picker
      rw [paint_empty l h harea hc]
      refine ⟨rfl, hrange, rfl, fun hp => absurd h hp, [], [], by simp, rfl, ?_, rfl⟩
      have hlook : l.look = [Terminal.viewport l.terminal] := if_pos h
      rw [hlook, List.filter_cons_of_neg (by simp [harea])]
      exact .nil
    | false =>
      obtain ⟨s, p, hs, hfits, hrange⟩ := Picker.stroke_ok _ harea l.picker hp
      have hwrite : Stage.Unrecorded ((aimed s l.terminal).record (.write s.glyph))
          (leftBehind (Terminal.write s.glyph (aimed s l.terminal))) :=
        Stage.write_record s.glyph (aimed s l.terminal)
      rw [paint_stroke l h harea hs]
      cases hw : Terminal.write s.glyph (aimed s l.terminal) with
      | ok v t =>
        rw [hw] at hwrite
        exact stroke_painting l h harea hfits hrange hwrite rfl
      | error e t =>
        rw [hw] at hwrite
        exact ⟨stroke_painting l h harea hfits hrange hwrite rfl, .write hw⟩
  · rw [paint_not_running l h]
    have hlook : l.look = [] := if_neg h
    rw [hlook]
    exact .refl l

theorem paint_leaves (l : Loop Stage) (hp : l.picker.Printable) :
    ∃ lost, Painting l.look lost l (leftBehind (paint l)) := by
  have hpaint := paint_painting l hp
  cases hr : paint l with
  | ok b m => rw [hr] at hpaint; exact ⟨0, hpaint⟩
  | error e m => rw [hr] at hpaint; exact ⟨1, hpaint.1⟩

/-- A poll leaves a loop alone or stops it, and stops it only for a reason of its own. -/
theorem poll_cases (cancelled : Bool) (l : Loop Stage) :
    (l.phase ≠ .running ∧ l.poll cancelled = (false, l)) ∨
      (l.phase = .running ∧ l.poll cancelled = (true, l)) ∨
      (l.phase = .running ∧ ∃ reason ∈ [StopReason.key, .cancelled, .count],
        l.poll cancelled = (false, l.stop reason)) := by
  by_cases h : l.phase = .running
  · have hkey : Terminal.keyPending l.terminal = (l.terminal.buffer.keyPending, l.terminal) := rfl
    simp only [poll, if_pos h, hkey]
    cases hdue : l.due l.terminal.buffer.keyPending cancelled with
    | none => exact .inr (.inl ⟨h, rfl⟩)
    | some reason =>
      refine .inr (.inr ⟨h, reason, ?_, rfl⟩)
      unfold due at hdue
      split at hdue
      · cases hdue; simp
      · split at hdue
        · cases hdue; simp
        · split at hdue
          · cases hdue; simp
          · cases hdue
  · exact .inl ⟨h, if_neg h⟩

/-! ### Turns -/

/-- How a turn can come out. A loop that did not run before only pauses. -/
theorem turn_painting (l : Loop Stage) (hp : l.picker.Printable) :
    match turn Stage.surroundings l with
    | .ok true m => Painting l.look 0 l m
    | .ok false m => ∃ k, Painting l.look 0 l k ∧
        ((k.phase ≠ .running ∧ m = k) ∨
          (k.phase = .running ∧ ∃ reason ∈ [StopReason.key, .cancelled, .count],
            m = k.stop reason))
    | .error e m => ∃ lost, Painting l.look lost l m ∧ Stage.Failed e m.terminal lost := by
  have hpaint := paint_painting l hp
  rw [turn_eq]
  cases hm : paint l with
  | error e m =>
    rw [hm] at hpaint
    rw [bind_error hm]
    exact ⟨1, hpaint⟩
  | ok b m =>
    rw [hm] at hpaint
    have hpause := hpaint.trans (pause_painting m)
    rw [List.append_nil] at hpause
    rw [bind_ok hm]
    cases hk : pause Stage.surroundings m with
    | error e k =>
      rw [hk] at hpause
      rw [bind_error hk]
      exact ⟨0, hpause, pause_failed hk⟩
    | ok v k =>
      rw [hk] at hpause
      have hpoll : (modifyGet fun l => l.poll (Stage.surroundings.cancelled l.terminal) :
          EStateM Fault (Loop Stage) Bool) k =
          .ok (k.poll k.terminal.cancelled).1 (k.poll k.terminal.cancelled).2 := rfl
      rw [bind_ok hk, hpoll]
      rcases poll_cases k.terminal.cancelled k with ⟨h, hq⟩ | ⟨h, hq⟩ | ⟨h, reason, hr, hq⟩
      · rw [hq]
        exact ⟨k, hpause, .inl ⟨h, rfl⟩⟩
      · rw [hq]
        exact hpause
      · rw [hq]
        exact ⟨k, hpause, .inr ⟨h, reason, hr, rfl⟩⟩

/-- The viewports that the paints of a run look at. -/
def looksOfTurns {τ : Type} [Terminal τ] (around : Surroundings τ) : Nat → Loop τ → List Rect
  | 0, _ => []
  | n + 1, l =>
    l.look ++ match turn around l with
      | .ok true m => looksOfTurns around n m
      | _ => []

/-- How a run ends for a loop `k` that has painted so far: it did not run any more, or a poll has
stopped it, or it is stopped at last because a write or a pause has failed. -/
inductive Ending (k : Loop Stage) : Nat → EStateM.Result Fault (Loop Stage) StopReason → Prop where
  | still : k.phase ≠ .running → Ending k 0 (.ok k.reason k)
  | stopped {reason : StopReason} : k.phase = .running →
      reason ∈ [StopReason.key, .cancelled, .count] → Ending k 0 (.ok reason (k.stop reason))
  | failed {e : Fault} {lost : Nat} : Stage.Failed e k.terminal lost →
      Ending k lost (.error e (k.stop .aborted))

/-- However many turns are taken, the loop has painted up to some point and then ended. The stop
that concludes every run does nothing after a poll has stopped the loop. -/
theorem turns_painting (n : Nat) (l : Loop Stage) (hp : l.picker.Printable)
    {r : EStateM.Result Fault (Loop Stage) StopReason}
    (hr : turns Stage.surroundings n l = some r) :
    ∃ k lost, Painting (looksOfTurns Stage.surroundings n l) lost l k ∧ Ending k lost (settle r) := by
  induction n generalizing l with
  | zero => cases hr
  | succ n ih =>
    have hturn := turn_painting l hp
    simp only [turns] at hr
    simp only [looksOfTurns]
    cases hm : turn Stage.surroundings l with
    | error e m =>
      rw [hm] at hr hturn
      cases hr
      obtain ⟨lost, hpaint, hfailed⟩ := hturn
      exact ⟨m, lost, by simpa using hpaint, .failed hfailed⟩
    | ok b m =>
      rw [hm] at hr hturn
      cases b with
      | true =>
        obtain ⟨k, lost, hrest, hend⟩ := ih m (hp.of_sameRange hturn.range) hr
        have hall := hturn.trans hrest
        rw [Nat.zero_add] at hall
        exact ⟨k, lost, hall, hend⟩
      | false =>
        cases hr
        obtain ⟨k, hpaint, ⟨hk, rfl⟩ | ⟨hk, reason, hmem, rfl⟩⟩ := hturn
        · refine ⟨m, 0, by simpa using hpaint, ?_⟩
          show Ending m 0 (.ok m.reason (m.stop .aborted))
          rw [stop_not_running _ m hk]
          exact .still hk
        · refine ⟨k, 0, by simpa using hpaint, ?_⟩
          show Ending k 0 (.ok (k.stop reason).reason ((k.stop reason).stop .aborted))
          rw [stop_reason reason k hk, stop_not_running _ _ (stop_ne_running reason k)]
          exact .stopped hk hmem

/-- A run starts the loop, paints, and ends. -/
theorem run_painting (limit : Nat) (l : Loop Stage) (hp : l.picker.Printable)
    {r : EStateM.Result Fault (Loop Stage) StopReason}
    (hr : l.run Stage.surroundings limit = some r) :
    ∃ k lost, Painting (looksOfTurns Stage.surroundings limit l.start) lost l.start k ∧
      Ending k lost r := by
  obtain ⟨r', hr', rfl⟩ := Option.map_eq_some_iff.mp hr
  have hstart : l.start.picker = l.picker := by
    unfold start
    split <;> rfl
  exact turns_painting limit l.start (hstart ▸ hp) hr'

end Loop

end Screensaver
