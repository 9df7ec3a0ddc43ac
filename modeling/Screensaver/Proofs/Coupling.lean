import Screensaver.Loop.Run
import Screensaver.Proofs.Strokes

/-! Two terminals that no loop can tell apart.

A `Coupling` is a relation between the states of two terminals that all operations respect: related
states answer alike, and stay related whatever is asked of both. `Coupled` loops are the same loop on
related terminals. Starting, stopping, painting and polling keep loops coupled, so what one of them
does the other does too, and neither can fail where the other goes on. If the pauses of two runs keep
the terminals related as well, the runs come to the same end (`Coupled.run`). -/
namespace Screensaver

/-- Related states answer alike and stay related. No write fails. -/
structure Terminal.Coupling {τ σ : Type} [Terminal τ] [Terminal σ] (R : τ → σ → Prop) : Prop where
  foreground {t u} : R t u → foreground u = foreground t
  background {t u} : R t u → background u = background t
  viewport {t u} : R t u → viewport u = viewport t
  setForeground {t u} (c) : R t u → R (setForeground c t) (setForeground c u)
  setBackground {t u} (c) : R t u → R (setBackground c t) (setBackground c u)
  setCursor {t u} (col row) : R t u → R (setCursor col row t) (setCursor col row u)
  write {t u} (g) : R t u → ∃ t' u', write g t = .ok () t' ∧ write g u = .ok () u' ∧ R t' u'
  clear {t u} : R t u → R (clear t) (clear u)
  keyPending {t u} : R t u →
    (keyPending u).1 = (keyPending t).1 ∧ R (keyPending t).2 (keyPending u).2
  retitle {t u} (text) : R t u → R (retitle text t) (retitle text u)

/-- Pauses do not fail and keep related terminals related, and the sign of cancellation is the same on
both. -/
structure Surroundings.Coupling {τ σ : Type} (R : τ → σ → Prop) (around : Surroundings τ)
    (around' : Surroundings σ) : Prop where
  pause {t u} (nanoseconds : Int64) : R t u →
    ∃ t' u', around.pause nanoseconds t = .ok () t' ∧ around'.pause nanoseconds u = .ok () u' ∧ R t' u'
  cancelled {t u} : R t u → around'.cancelled u = around.cancelled t

namespace Loop
variable {τ σ : Type}

/-- The same loop on another terminal. -/
def onto (u : σ) (l : Loop τ) : Loop σ :=
  { terminal := u, picker := l.picker, config := l.config, phase := l.phase, reason := l.reason,
    savedFg := l.savedFg, savedBg := l.savedBg, painted := l.painted, journal := l.journal }

/-- The same loop on related terminals, with a picker that can always draw. -/
structure Coupled (R : τ → σ → Prop) (l : Loop τ) (m : Loop σ) : Prop where
  terminals : R l.terminal m.terminal
  alike : m = l.onto m.terminal
  printable : l.picker.Printable

namespace Coupled
variable {R : τ → σ → Prop} {l : Loop τ} {m : Loop σ}

theorem phase (h : Coupled R l m) : m.phase = l.phase := by
  rw [h.alike]
  rfl

theorem due (h : Coupled R l m) (key cancelled : Bool) :
    m.due key cancelled = l.due key cancelled := by
  rw [h.alike]
  rfl

variable [Terminal τ] [Terminal σ]

theorem start (hR : Terminal.Coupling R) (h : Coupled R l m) : Coupled R l.start m.start := by
  obtain ⟨ht, ha, hp⟩ := h
  rw [ha]
  generalize m.terminal = u at ht
  by_cases hidle : l.phase = .idle
  · simp only [Loop.start, if_pos hidle, hR.foreground ht, hR.background ht, onto]
    refine ⟨?_, rfl, hp⟩
    show R (if l.config.title = "" then _ else _) (if l.config.title = "" then _ else _)
    split
    · exact ht
    · exact hR.retitle _ ht
  · have hm : (l.onto u).phase ≠ .idle := hidle
    rw [Loop.start, if_neg hidle, Loop.start, if_neg hm]
    exact ⟨ht, rfl, hp⟩

theorem stop (hR : Terminal.Coupling R) (reason : StopReason) (h : Coupled R l m) :
    Coupled R (l.stop reason) (m.stop reason) := by
  obtain ⟨ht, ha, hp⟩ := h
  rw [ha]
  generalize m.terminal = u at ht
  by_cases hrun : l.phase = .running
  · have hm : (l.onto u).phase = .running := hrun
    rw [Loop.stop, if_pos hrun, Loop.stop, if_pos hm]
    exact ⟨hR.clear (hR.setBackground _ (hR.setForeground _ ht)), rfl, hp⟩
  · have hm : (l.onto u).phase ≠ .running := hrun
    rw [Loop.stop, if_neg hrun, Loop.stop, if_neg hm]
    exact ⟨ht, rfl, hp⟩

/-- Coupled loops draw the same stroke, and both write it. -/
theorem paint (hR : Terminal.Coupling R) (h : Coupled R l m) :
    ∃ b l' m', Loop.paint l = .ok b l' ∧ Loop.paint m = .ok b m' ∧ Coupled R l' m' := by
  obtain ⟨ht, ha, hp⟩ := h
  rw [ha]
  generalize m.terminal = u at ht
  by_cases hrun : l.phase = .running
  · have hm : (l.onto u).phase = .running := hrun
    cases harea : (Terminal.viewport l.terminal).isEmpty with
    | true =>
      obtain ⟨fg, bg, p, hc, -, hrange⟩ := Picker.colors_ok l.picker
      have harea' : (Terminal.viewport (l.onto u).terminal).isEmpty = true := by
        rw [← harea]
        exact congrArg Rect.isEmpty (hR.viewport ht)
      exact ⟨false, _, _, paint_empty l hrun harea hc, paint_empty (l.onto u) hm harea' hc, ht, rfl,
        hp.of_sameRange hrange⟩
    | false =>
      obtain ⟨s, p, hs, -, hrange⟩ := Picker.stroke_ok _ harea l.picker hp
      have harea' : (Terminal.viewport (l.onto u).terminal).isEmpty = false := by
        rw [← harea]
        exact congrArg Rect.isEmpty (hR.viewport ht)
      have hs' : Picker.stroke (Terminal.viewport (l.onto u).terminal) (l.onto u).picker = .ok s p := by
        rw [← hs]
        exact congrArg (Picker.stroke · l.picker) (hR.viewport ht)
      have haimed : R (aimed s l.terminal) (aimed s u) :=
        hR.setCursor _ _ (hR.setBackground _ (hR.setForeground _ ht))
      obtain ⟨t', u', hwt, hwu, ht'⟩ := hR.write s.glyph haimed
      have hl := paint_stroke l hrun harea hs
      have hm' := paint_stroke (l.onto u) hm harea' hs'
      rw [hwt] at hl
      have hwu' : Terminal.write s.glyph (aimed s (l.onto u).terminal) = .ok () u' := hwu
      rw [hwu'] at hm'
      exact ⟨true, _, _, hl, hm', ht', rfl, hp.of_sameRange hrange⟩
  · have hm : (l.onto u).phase ≠ .running := hrun
    exact ⟨false, _, _, paint_not_running l hrun, paint_not_running (l.onto u) hm, ht, rfl, hp⟩

/-- Coupled loops find the same reason to stop. -/
theorem poll (hR : Terminal.Coupling R) (h : Coupled R l m) (cancelled : Bool) :
    (m.poll cancelled).1 = (l.poll cancelled).1 ∧
      Coupled R (l.poll cancelled).2 (m.poll cancelled).2 := by
  by_cases hrun : l.phase = .running
  · have hm : m.phase = .running := h.phase.trans hrun
    obtain ⟨hkey, hterminals⟩ := hR.keyPending h.terminals
    have hasked : Coupled R { l with terminal := (Terminal.keyPending l.terminal).2 }
        { m with terminal := (Terminal.keyPending m.terminal).2 } :=
      ⟨hterminals, by rw [h.alike]; rfl, h.printable⟩
    simp only [Loop.poll, if_pos hrun, if_pos hm, hkey, hasked.due]
    cases Loop.due (Terminal.keyPending l.terminal).1 cancelled
        { l with terminal := (Terminal.keyPending l.terminal).2 } with
    | none => exact ⟨rfl, hasked⟩
    | some reason => exact ⟨rfl, hasked.stop hR reason⟩
  · have hm : m.phase ≠ .running := h.phase ▸ hrun
    simp only [Loop.poll, if_neg hrun, if_neg hm]
    exact ⟨trivial, h⟩

section Runs
variable {around : Surroundings τ} {around' : Surroundings σ} (hR : Terminal.Coupling R)
  (hA : Surroundings.Coupling R around around')
include hR hA

theorem turn (h : Coupled R l m) :
    ∃ b l' m', Loop.turn around l = .ok b l' ∧ Loop.turn around' m = .ok b m' ∧ Coupled R l' m' := by
  obtain ⟨_, l₁, m₁, hpaint, hpaint', h₁⟩ := h.paint hR
  obtain ⟨t, u, ht, hu, hterminals⟩ := hA.pause l₁.interval h₁.terminals
  have hinterval : m₁.interval = l₁.interval := by
    rw [h₁.alike]
    rfl
  have hpause : Loop.pause around l₁ = .ok () { l₁ with terminal := t } := by
    simp only [Loop.pause, ht]
  have hpause' : Loop.pause around' m₁ = .ok () { m₁ with terminal := u } := by
    simp only [Loop.pause, hinterval, hu]
  have h₂ : Coupled R { l₁ with terminal := t } { m₁ with terminal := u } :=
    ⟨hterminals, by rw [h₁.alike]; rfl, h₁.printable⟩
  obtain ⟨hanswer, h₃⟩ := h₂.poll hR (around.cancelled t)
  have hpoll : Loop.turn around' m = .ok (Loop.poll (around'.cancelled u) { m₁ with terminal := u }).1
      (Loop.poll (around'.cancelled u) { m₁ with terminal := u }).2 :=
    (bind_ok hpaint').trans ((bind_ok hpause').trans rfl)
  rw [hA.cancelled hterminals, hanswer] at hpoll
  exact ⟨_, _, _, (bind_ok hpaint).trans ((bind_ok hpause).trans rfl), hpoll, h₃⟩

theorem turns (h : Coupled R l m) (n : Nat) :
    Loop.turns around n l = none ∧ Loop.turns around' n m = none ∨
      ∃ reason l' m', Loop.turns around n l = some (.ok reason l') ∧
        Loop.turns around' n m = some (.ok reason m') ∧ Coupled R l' m' := by
  induction n generalizing l m with
  | zero => exact .inl ⟨rfl, rfl⟩
  | succ n ih =>
    obtain ⟨b, l', m', hl, hm, hcoupled⟩ := h.turn hR hA
    rw [Loop.turns, Loop.turns, hl, hm]
    cases b with
    | true => exact ih hcoupled
    | false =>
      have hreason : m'.reason = l'.reason := by
        rw [hcoupled.alike]
        rfl
      refine .inr ⟨l'.reason, l', m', rfl, ?_, hcoupled⟩
      rw [← hreason]

/-- Coupled loops run to the same end, in the same number of turns. -/
theorem run (h : Coupled R l m) (limit : Nat) :
    l.run around limit = none ∧ m.run around' limit = none ∨
      ∃ reason l' m', l.run around limit = some (.ok reason l') ∧
        m.run around' limit = some (.ok reason m') ∧ Coupled R l' m' := by
  rw [Loop.run, Loop.run]
  obtain ⟨hl, hm⟩ | ⟨reason, l', m', hl, hm, hcoupled⟩ := (h.start hR).turns hR hA limit
  · exact .inl ⟨by rw [hl]; rfl, by rw [hm]; rfl⟩
  · exact .inr ⟨reason, _, _, by rw [hl]; rfl, by rw [hm]; rfl, hcoupled.stop hR .aborted⟩

end Runs

end Coupled

end Loop

end Screensaver
