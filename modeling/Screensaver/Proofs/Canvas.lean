import Mathlib.Tactic.Choose
import Screensaver.Proofs.Wrapping

/-! A loop on a buffer changes one cell at a time.

The place that a paint draws lies on the screen, because the viewport of a buffer is all of its screen
and nothing more (`viewport_contains`). So the glyph is not lost on its way to the cells: a paint lays
its stroke down on the buffer, as one cell, and leaves everything else alone (`LaysDown`). After any
number of paints each place shows the latest stroke that was laid down there (`paints_lay_down`). -/
namespace Screensaver

/-! ### The viewport of a buffer -/

namespace Buffer
variable {b : Buffer}

theorem viewport_extent (hs : b.screen.Addressable) :
    b.viewport.w.toInt = b.screen.width ∧ b.viewport.h.toInt = b.screen.height :=
  ⟨Int64.toInt_ofNat_of_lt hs.width, Int64.toInt_ofNat_of_lt hs.height⟩

theorem viewport_isEmpty (hs : b.screen.Addressable) :
    b.viewport.isEmpty = true ↔ b.screen.width = 0 ∨ b.screen.height = 0 := by
  obtain ⟨hw, hh⟩ := viewport_extent hs
  have hzero : (0 : Int64).toInt = 0 := rfl
  simp only [Rect.isEmpty, Bool.or_eq_true, decide_eq_true_eq, Int64.le_iff_toInt_le, hw, hh, hzero]
  omega

theorem viewport_unwrapped (b : Buffer) : b.viewport.Unwrapped := by
  have hzero : (0 : Int64).toInt = 0 := rfl
  constructor <;> simp [viewport, Rect.right, Rect.bottom, hzero]

/-- What a viewport contains lies on the screen. -/
theorem viewport_contains (hs : b.screen.Addressable) {col row : Int64}
    (h : b.viewport.contains col row = true) :
    (0 ≤ col.toInt ∧ col.toInt < b.screen.width) ∧ 0 ≤ row.toInt ∧ row.toInt < b.screen.height := by
  obtain ⟨hw, hh⟩ := viewport_extent hs
  obtain ⟨hright, hbottom⟩ := b.viewport_unwrapped
  have hx : b.viewport.x.toInt = 0 := rfl
  have hy : b.viewport.y.toInt = 0 := rfl
  simp only [Rect.contains, Bool.and_eq_true, decide_eq_true_eq, Int64.le_iff_toInt_le,
    Int64.lt_iff_toInt_lt, hright, hbottom, hw, hh, hx, hy] at h
  omega

end Buffer

/-! ### Strokes on a buffer -/

namespace Stroke

/-- The place that a stroke goes to. -/
def place (s : Stroke) : Place :=
  ⟨s.col.toNatClampNeg, s.row.toNatClampNeg⟩

/-- What a stroke leaves there. -/
def cell (s : Stroke) : Cell :=
  ⟨s.glyph, s.fg, s.bg⟩

end Stroke

namespace Loop

/-- Painting `l` gives `m`. The stroke `s` was drawn for the viewport and laid down on the buffer: one
cell has changed, the colours are those of the stroke, and the cursor is at the place that follows. -/
structure LaysDown (s : Stroke) (l m : Loop Buffer) : Prop where
  paints : paint l = .ok true m
  drawn : Picker.stroke l.terminal.viewport l.picker = .ok s m.picker
  place : (s.place.col : Int) = s.col.toInt ∧ (s.place.row : Int) = s.row.toInt ∧
    s.place.On l.terminal.screen
  loop : m = { l with terminal := m.terminal, picker := m.picker, painted := l.painted + 1 }
  buffer : m.terminal =
    { l.terminal with
      screen := m.terminal.screen, fg := s.fg, bg := s.bg
      col := m.terminal.col, row := m.terminal.row }
  size : m.terminal.screen.width = l.terminal.screen.width ∧
    m.terminal.screen.height = l.terminal.screen.height
  cells : ∀ q, m.terminal.screen.shown q =
    if q = s.place then some s.cell else l.terminal.screen.shown q
  cursor : m.terminal.At (s.place.next l.terminal.screen.width l.terminal.screen.height)

variable {l m : Loop Buffer}

/-- A stroke that fits the viewport is aimed at its place, which lies on the screen. -/
theorem aimed_place (hs : l.terminal.screen.Addressable) {s : Stroke} {lo hi : Int32}
    (hfits : s.Fits l.terminal.viewport lo hi) :
    (aimed s l.terminal).At s.place ∧ s.place.On l.terminal.screen := by
  obtain ⟨⟨hcol, hwidth⟩, hrow, hheight⟩ :=
    Buffer.viewport_contains hs (hfits.inside l.terminal.viewport_unwrapped)
  have hzero : (0 : Int64).toInt = 0 := rfl
  have hx : (s.place.col : Int) = s.col.toInt :=
    Int64.cast_toNatClampNeg s.col (by rw [Int64.le_iff_toInt_le, hzero]; exact hcol)
  have hy : (s.place.row : Int) = s.row.toInt :=
    Int64.cast_toNatClampNeg s.row (by rw [Int64.le_iff_toInt_le, hzero]; exact hrow)
  exact ⟨⟨hx.symm, hy.symm⟩, by omega, by omega⟩

/-- The loop runs on a buffer that has cells, and its picker can draw. -/
structure Able (l : Loop Buffer) : Prop where
  running : l.phase = .running
  printable : l.picker.Printable
  addressable : l.terminal.screen.Addressable
  cells : l.terminal.viewport.isEmpty = false

/-- A paint lays a stroke down, and the next one can follow. -/
theorem Able.paint (h : Able l) : ∃ s m, LaysDown s l m ∧ Able m := by
  obtain ⟨s, p, hdrawn, hfits, hrange⟩ := Picker.stroke_ok _ h.cells l.picker h.printable
  obtain ⟨hat, hon⟩ := aimed_place h.addressable hfits
  obtain ⟨hwidth, hheight, -⟩ := (aimed s l.terminal).write_frame s.glyph
  have hpaint : Loop.paint l = .ok true
      { l with terminal := (aimed s l.terminal).write s.glyph, picker := p, painted := l.painted + 1 } :=
    paint_stroke l h.running h.cells hdrawn
  refine ⟨s, _, ⟨hpaint, hdrawn, ⟨hat.col.symm, hat.row.symm, hon⟩, rfl, ?_, ⟨hwidth, hheight⟩, ?_, ?_⟩,
    h.running, h.printable.of_sameRange hrange, ⟨?_, ?_⟩, ?_⟩
  · exact (aimed s l.terminal).write_kept s.glyph
  · exact Buffer.shown_write hat hon s.glyph
  · exact Buffer.write_at (b := aimed s l.terminal) h.addressable hat (Nat.le_sub_one_of_lt hon.1) s.glyph
  · exact hwidth ▸ h.addressable.width
  · exact hheight ▸ h.addressable.height
  · rw [← h.cells, Buffer.viewport, hwidth, hheight]
    rfl

/-- The loop after so many paints. -/
def repainted (l : Loop Buffer) : Nat → Loop Buffer
  | 0 => l
  | k + 1 => leftBehind (paint (l.repainted k))

theorem Able.repainted (h : Able l) (k : Nat) : Able (l.repainted k) := by
  induction k with
  | zero => exact h
  | succ k ih =>
    obtain ⟨s, m, hdown, hm⟩ := ih.paint
    rw [Loop.repainted, hdown.paints]
    exact hm

theorem Able.repainted_succ (h : Able l) (k : Nat) :
    ∃ s, LaysDown s (l.repainted k) (l.repainted (k + 1)) := by
  obtain ⟨s, m, hdown, -⟩ := (h.repainted k).paint
  refine ⟨s, ?_⟩
  rw [Loop.repainted, hdown.paints]
  exact hdown

/-- **Each paint changes one cell, and the buffer shows the latest paint at each place.** On a buffer that
has cells a running loop lays down one stroke after the other, each at a place of the screen, and changes
nothing else. After `k` paints it has counted `k` glyphs more, and each place shows the latest of their
strokes, or what it showed before if none went there. If there are no cells, or if the loop does not run,
a paint says so and changes at most what will be drawn next. -/
theorem paints_lay_down (l : Loop Buffer) (size : Int64 × Int64) (seed : Int64) (lo hi : Int32)
    (hrange : (Picker.new seed lo hi).SameRange l.picker) (hsize : l.terminal.screen.Sized size) :
    (l.phase = .running → 0 < l.terminal.screen.width → 0 < l.terminal.screen.height →
      ∃ stroke : Nat → Stroke,
        (∀ i, LaysDown (stroke i) (l.repainted i) (l.repainted (i + 1))) ∧
        ∀ k, (l.repainted k).painted = l.painted + k ∧
          ShowsLatest k (fun i => (stroke i).place) (fun i => some (stroke i).cell)
            l.terminal.screen.shown (l.repainted k).terminal.screen.shown) ∧
    (l.phase ≠ .running ∨ l.terminal.screen.width = 0 ∨ l.terminal.screen.height = 0 →
      ∃ p, paint l = .ok false { l with picker := p }) := by
  have hs := hsize.addressable
  have hp : l.picker.Printable := .of_range (Prod.ext hrange.1 hrange.2)
  constructor
  · intro hrun hwidth hheight
    have hcells : l.terminal.viewport.isEmpty = false := by
      rw [← Bool.not_eq_true, Buffer.viewport_isEmpty hs]
      omega
    have hable : Able l := ⟨hrun, hp, hs, hcells⟩
    choose stroke hdown using hable.repainted_succ
    refine ⟨stroke, hdown, fun k => ⟨?_, ?_⟩⟩
    · induction k with
      | zero => rfl
      | succ k ih => rw [(hdown k).loop, ih, Nat.add_assoc]
    · exact ShowsLatest.of_steps k _ _ (fun i => (l.repainted i).terminal.screen.shown)
        fun i _ => (hdown i).cells
  · intro hnone
    by_cases hrun : l.phase = .running
    · obtain ⟨fg, bg, p, hcolors, -⟩ := Picker.colors_ok l.picker
      have hempty := (Buffer.viewport_isEmpty hs).mpr (hnone.resolve_left fun h => h hrun)
      exact ⟨p, paint_empty l hrun hempty hcolors⟩
    · exact ⟨l.picker, paint_not_running l hrun⟩

/-- Three paints on a buffer of four columns and three rows: the last stroke is to be seen, the one before
it unless the last went to the same place, and where no stroke went the cells are blank. -/
theorem paints_lay_down_three_strokes :
    let l := (Loop.new 7 (Buffer.new 4 3) .default).start
    ((Picker.new 7 32 126).SameRange l.picker ∧ l.terminal.screen.Sized (4, 3) ∧ l.phase = .running) ∧
      ∃ first second third,
        LaysDown first l (l.repainted 1) ∧ LaysDown second (l.repainted 1) (l.repainted 2) ∧
        LaysDown third (l.repainted 2) (l.repainted 3) ∧ (l.repainted 3).painted = 3 ∧
        (l.repainted 3).terminal.screen.shown third.place = some third.cell ∧
        (third.place ≠ second.place →
          (l.repainted 3).terminal.screen.shown second.place = some second.cell) ∧
        ∀ q : Place, q.On l.terminal.screen → q ∉ [first.place, second.place, third.place] →
          (l.repainted 3).terminal.screen.shown q = some .blank := by
  intro l
  have hrange : (Picker.new 7 32 126).SameRange l.picker := ⟨rfl, rfl⟩
  have hsize : l.terminal.screen.Sized (4, 3) := ⟨rfl, rfl⟩
  obtain ⟨stroke, hdown, hafter⟩ :=
    (paints_lay_down l (4, 3) 7 32 126 hrange hsize).1 rfl (by decide) (by decide)
  obtain ⟨hpainted, hlatest, huntouched⟩ := hafter 3
  refine ⟨⟨hrange, hsize, rfl⟩, stroke 0, stroke 1, stroke 2, hdown 0, hdown 1, hdown 2, hpainted,
    hlatest 2 (by decide) (by omega), fun hother => hlatest 1 (by decide) fun j hj hlater => ?_,
    fun q hq hnone => (huntouched q fun k hk hplace => ?_).trans ?_⟩
  · obtain rfl : j = 2 := by omega
    exact hother
  · apply hnone
    rw [← hplace]
    match k, hk with
    | 0, _ => simp
    | 1, _ => simp
    | 2, _ => simp
  · exact (Screen.at?_fill _ .blank q.col q.row).trans (if_pos hq)

end Loop

end Screensaver
