import Screensaver.Loop
import Screensaver.Proofs.Rejections
import Screensaver.Proofs.Steps

/-! Strokes: what one paint draws.

A running loop draws two colours, looks at the viewport, and if that has a cell draws a place in it
and a glyph. `Picker.stroke` is this sequence of draws on its own. With the range a picker is made
with, no draw of it can fail, and what is drawn fits: colours of the palette, a place inside the
viewport, a glyph of the range (`stroke_ok`).

A paint is then a stroke followed by one write (`paint_stroke`), for every terminal: whatever the
terminal does during the write, nothing else of the loop has changed by then. What a stop leaves and
what a poll finds is said last. -/
namespace Screensaver
open Screensaver.Random (Source)

/-! ### Words -/

theorem toInt_add_of_fits {a b : Int64} (hlo : -0x8000000000000000 ≤ a.toInt + b.toInt)
    (hhi : a.toInt + b.toInt < 0x8000000000000000) : (a + b).toInt = a.toInt + b.toInt := by
  rw [Int64.toInt_add]
  exact Int.bmod_eq_of_le (by omega) (by omega)

/-- Neither edge wraps around. -/
structure Rect.Unwrapped (r : Rect) : Prop where
  right : r.right.toInt = r.x.toInt + r.w.toInt
  bottom : r.bottom.toInt = r.y.toInt + r.h.toInt

theorem Rect.contains_offset (r : Rect) (h : r.Unwrapped) (i j : Int64) (hi : 0 ≤ i) (hw : i < r.w)
    (hj : 0 ≤ j) (hh : j < r.h) : r.contains (r.x + i) (r.y + j) = true := by
  have hr := h.right
  have hb := h.bottom
  have hrlt := r.right.toInt_lt
  have hblt := r.bottom.toInt_lt
  have hxle := r.x.le_toInt
  have hyle := r.y.le_toInt
  have hzero : (0 : Int64).toInt = 0 := rfl
  rw [Int64.le_iff_toInt_le, hzero] at hi hj
  rw [Int64.lt_iff_toInt_lt] at hw hh
  have hx : (r.x + i).toInt = r.x.toInt + i.toInt := toInt_add_of_fits (by omega) (by omega)
  have hy : (r.y + j).toInt = r.y.toInt + j.toInt := toInt_add_of_fits (by omega) (by omega)
  simp only [Rect.contains, Bool.and_eq_true, decide_eq_true_eq, Int64.le_iff_toInt_le,
    Int64.lt_iff_toInt_lt, hx, hy]
  omega

/-! ### Single draws -/

theorem below_ok (n : Int64) (hn : 0 < n) (s : Source) :
    ∃ v t, Source.below n s = .ok v t ∧ 0 ≤ v ∧ v < n := by
  obtain ⟨k, -, -, hbelow⟩ := Source.below_first hn s
  refine ⟨_, _, hbelow, ?_⟩
  have hlt := Nat.mod_lt (s.number (Source.width n) k) ((Int64.toNatClampNeg_pos_iff n).mpr hn)
  generalize s.number (Source.width n) k % n.toNatClampNeg = v at hlt
  have hcast := Int64.cast_toNatClampNeg n (Int64.le_of_lt hn)
  have hfits : v < 2 ^ 63 := Nat.lt_trans hlt n.toNatClampNeg_lt
  have hzero : (0 : Int64).toInt = 0 := rfl
  rw [Int64.le_iff_toInt_le, Int64.lt_iff_toInt_lt, Int64.toInt_ofNat_of_lt hfits, hzero]
  omega

namespace Picker

/-- The picker draws from the same range of glyphs. -/
def SameRange (p q : Picker) : Prop :=
  q.glyphMin = p.glyphMin ∧ q.glyphMax = p.glyphMax

theorem SameRange.refl (p : Picker) : SameRange p p :=
  ⟨rfl, rfl⟩

theorem SameRange.trans {p q r : Picker} (h : SameRange p q) (h' : SameRange q r) : SameRange p r :=
  ⟨h'.1.trans h.1, h'.2.trans h.2⟩

/-- The range is in order and printable. -/
structure Printable (p : Picker) : Prop where
  low : minPrintable ≤ p.glyphMin
  order : p.glyphMin ≤ p.glyphMax
  high : p.glyphMax ≤ maxPrintable

theorem Printable.of_sameRange {p q : Picker} (h : p.Printable) (hr : SameRange p q) :
    q.Printable := by
  obtain ⟨hmin, hmax⟩ := hr
  exact ⟨hmin ▸ h.low, hmin ▸ hmax ▸ h.order, hmax ▸ h.high⟩

/-- Whatever bounds are asked for, the range used is in order and printable. -/
theorem glyphRange_printable (lo hi : Int32) :
    minPrintable ≤ (glyphRange lo hi).1 ∧ (glyphRange lo hi).1 ≤ (glyphRange lo hi).2 ∧
      (glyphRange lo hi).2 ≤ maxPrintable := by
  unfold glyphRange
  split
  · decide
  · next h =>
    simp only [not_or, Int32.not_lt] at h
    exact ⟨h.2.1, h.1, h.2.2⟩

theorem Printable.of_range {p : Picker} {lo hi : Int32}
    (h : (p.glyphMin, p.glyphMax) = glyphRange lo hi) : p.Printable := by
  obtain ⟨hlow, horder, hhigh⟩ := glyphRange_printable lo hi
  rw [← h] at hlow horder hhigh
  exact ⟨hlow, horder, hhigh⟩

theorem draw_ok (n : Int64) (hn : 0 < n) (p : Picker) :
    ∃ v q, draw n p = .ok v q ∧ 0 ≤ v ∧ v < n ∧ SameRange p q := by
  obtain ⟨v, s, hv, hlo, hhi⟩ := below_ok n hn p.source
  exact ⟨v, {p with source := s}, by simp only [draw, hv], hlo, hhi, rfl, rfl⟩

theorem ofPalette_mem (i : Int64) (hlo : 0 ≤ i) (hhi : i < 16) :
    ∃ c ∈ Color.palette, Color.ofPalette i = .ok c := by
  have hlt : i.toNatClampNeg < Color.palette.length := by
    have hcast := Int64.cast_toNatClampNeg i hlo
    have hsixteen : (16 : Int64).toInt = 16 := rfl
    have hlength : Color.palette.length = 16 := rfl
    rw [Int64.lt_iff_toInt_lt] at hhi
    omega
  refine ⟨Color.palette[i.toNatClampNeg], List.getElem_mem _, ?_⟩
  rw [Color.ofPalette, if_neg (Int64.not_lt.mpr hlo), List.getElem?_eq_getElem hlt]

theorem color_ok (p : Picker) : ∃ c q, color p = .ok c q ∧ c ∈ Color.palette ∧ SameRange p q := by
  obtain ⟨v, q, hv, hlo, hhi, hq⟩ := draw_ok 16 (by decide) p
  obtain ⟨c, hmem, hc⟩ := ofPalette_mem v hlo hhi
  refine ⟨c, q, ?_, hmem, hq⟩
  rw [color, bind_ok hv, hc]
  rfl

theorem position_ok (area : Rect) (h : area.isEmpty = false) (p : Picker) :
    ∃ i j q, position area p = .ok (area.x + i, area.y + j) q ∧
      (0 ≤ i ∧ i < area.w) ∧ (0 ≤ j ∧ j < area.h) ∧ SameRange p q := by
  simp only [Rect.isEmpty, Bool.or_eq_false_iff, decide_eq_false_iff_not, Int64.not_le] at h
  obtain ⟨i, q, hi, hi0, hiw, hq⟩ := draw_ok area.w h.1 p
  obtain ⟨j, r, hj, hj0, hjh, hr⟩ := draw_ok area.h h.2 q
  refine ⟨i, j, r, ?_, ⟨hi0, hiw⟩, ⟨hj0, hjh⟩, hq.trans hr⟩
  rw [position, bind_ok hi, bind_ok hj]
  rfl

/-- The bounds of a printable range as integers. -/
theorem Printable.toInt_bounds {p : Picker} (h : p.Printable) :
    32 ≤ p.glyphMin.toInt ∧ p.glyphMin.toInt ≤ p.glyphMax.toInt ∧ p.glyphMax.toInt ≤ 126 :=
  ⟨Int32.le_iff_toInt_le.mp h.low, Int32.le_iff_toInt_le.mp h.order, Int32.le_iff_toInt_le.mp h.high⟩

theorem Printable.toInt_span {p : Picker} (h : p.Printable) :
    (p.glyphMax - p.glyphMin).toInt = p.glyphMax.toInt - p.glyphMin.toInt := by
  obtain ⟨hlow, horder, hhigh⟩ := h.toInt_bounds
  rw [Int32.toInt_sub]
  exact Int.bmod_eq_of_le (by omega) (by omega)

/-- With at most ninety-five glyphs to choose from, their number does not wrap around. -/
theorem Printable.toInt_number {p : Picker} (h : p.Printable) :
    ((p.glyphMax - p.glyphMin).toInt64 + 1).toInt = p.glyphMax.toInt - p.glyphMin.toInt + 1 := by
  obtain ⟨hlow, horder, hhigh⟩ := h.toInt_bounds
  have hone : (1 : Int64).toInt = 1 := rfl
  have hspan : (p.glyphMax - p.glyphMin).toInt64.toInt = p.glyphMax.toInt - p.glyphMin.toInt := by
    rw [Int32.toInt_toInt64, h.toInt_span]
  rw [toInt_add_of_fits (by omega) (by omega), hspan, hone]

/-- A number below the number of glyphs fits into the width of a glyph, and the sum that gives the
glyph does not wrap around. -/
theorem Printable.toInt_glyph {p : Picker} (h : p.Printable) {v : Int64} (hv0 : 0 ≤ v)
    (hvn : v < (p.glyphMax - p.glyphMin).toInt64 + 1) :
    v.toInt32.toInt = v.toInt ∧ (p.glyphMin + v.toInt32).toInt = p.glyphMin.toInt + v.toInt := by
  obtain ⟨hlow, horder, hhigh⟩ := h.toInt_bounds
  have hzero : (0 : Int64).toInt = 0 := rfl
  rw [Int64.le_iff_toInt_le, hzero] at hv0
  rw [Int64.lt_iff_toInt_lt, h.toInt_number] at hvn
  have hnarrow : v.toInt32.toInt = v.toInt := by
    rw [Int64.toInt_toInt32]
    exact Int.bmod_eq_of_le (by omega) (by omega)
  refine ⟨hnarrow, ?_⟩
  rw [Int32.toInt_add, hnarrow]
  exact Int.bmod_eq_of_le (by omega) (by omega)

theorem Printable.number_pos {p : Picker} (h : p.Printable) :
    0 < (p.glyphMax - p.glyphMin).toInt64 + 1 := by
  obtain ⟨-, horder, -⟩ := h.toInt_bounds
  have hzero : (0 : Int64).toInt = 0 := rfl
  rw [Int64.lt_iff_toInt_lt, h.toInt_number, hzero]
  omega

theorem glyph_ok (p : Picker) (h : p.Printable) :
    ∃ g q, glyph p = .ok g q ∧ (p.glyphMin ≤ g ∧ g ≤ p.glyphMax) ∧ SameRange p q := by
  obtain ⟨v, q, hv, hv0, hvn, hq⟩ := draw_ok _ h.number_pos p
  obtain ⟨-, hsum⟩ := h.toInt_glyph hv0 hvn
  have hzero : (0 : Int64).toInt = 0 := rfl
  rw [Int64.le_iff_toInt_le, hzero] at hv0
  rw [Int64.lt_iff_toInt_lt, h.toInt_number] at hvn
  refine ⟨q.glyphMin + v.toInt32, q, ?_, ?_, hq⟩
  · unfold glyph
    rw [hv]
  · rw [Int32.le_iff_toInt_le, Int32.le_iff_toInt_le, hq.1, hsum]
    omega

end Picker

/-! ### Strokes -/

/-- What a paint puts on the screen: a glyph in two colours at a place. -/
structure Stroke where
  fg : Color
  bg : Color
  col : Int64
  row : Int64
  glyph : Int32
deriving DecidableEq

/-- The stroke is one for this viewport and for this range of glyphs. A place is only inside the
viewport if the viewport's edges do not wrap around. -/
structure Stroke.Fits (s : Stroke) (area : Rect) (lo hi : Int32) : Prop where
  fg : s.fg ∈ Color.palette
  bg : s.bg ∈ Color.palette
  inside : area.Unwrapped → area.contains s.col s.row = true
  low : lo ≤ s.glyph
  high : s.glyph ≤ hi

namespace Picker

/-- The two colours of a paint. -/
def colors : EStateM Fault Picker (Color × Color) := do
  let fg ← color
  let bg ← color
  return (fg, bg)

/-- All draws of a paint in a viewport that has a cell. -/
def stroke (area : Rect) : EStateM Fault Picker Stroke := do
  let pair ← colors
  let place ← position area
  let glyph ← glyph
  return { fg := pair.1, bg := pair.2, col := place.1, row := place.2, glyph }

theorem colors_ok (p : Picker) :
    ∃ fg bg q, colors p = .ok (fg, bg) q ∧ (fg ∈ Color.palette ∧ bg ∈ Color.palette) ∧
      SameRange p q := by
  obtain ⟨fg, q, hfg, hfgm, hq⟩ := color_ok p
  obtain ⟨bg, r, hbg, hbgm, hr⟩ := color_ok q
  refine ⟨fg, bg, r, ?_, ⟨hfgm, hbgm⟩, hq.trans hr⟩
  rw [colors, bind_ok hfg, bind_ok hbg]
  rfl

/-- No draw of a stroke fails, and the stroke fits. -/
theorem stroke_ok (area : Rect) (h : area.isEmpty = false) (p : Picker) (hp : p.Printable) :
    ∃ s q, stroke area p = .ok s q ∧ s.Fits area p.glyphMin p.glyphMax ∧ SameRange p q := by
  obtain ⟨fg, bg, q, hc, ⟨hfg, hbg⟩, hq⟩ := colors_ok p
  obtain ⟨i, j, r, hpos, ⟨hi0, hiw⟩, ⟨hj0, hjh⟩, hr⟩ := position_ok area h q
  have hpr := hq.trans hr
  obtain ⟨g, t, hg, ⟨hlow, hhigh⟩, ht⟩ := glyph_ok r (hp.of_sameRange hpr)
  rw [hpr.1] at hlow
  rw [hpr.2] at hhigh
  refine ⟨⟨fg, bg, area.x + i, area.y + j, g⟩, t, ?_, ?_, hpr.trans ht⟩
  · rw [stroke, bind_ok hc, bind_ok hpos, bind_ok hg]
    rfl
  · exact ⟨hfg, hbg, fun hu => Rect.contains_offset area hu i j hi0 hiw hj0 hjh, hlow, hhigh⟩

end Picker

/-! ### Paints -/

namespace Loop
variable {τ : Type}

theorem pick_ok {α : Type} {draw : EStateM Fault Picker α} {l : Loop τ} {a : α} {p : Picker}
    (h : draw l.picker = .ok a p) : pick draw l = .ok a { l with picker := p } := by
  simp only [pick, h]

variable [Terminal τ]

theorem write_ok {g : Int32} {l : Loop τ} {v : Unit} {t : τ}
    (h : Terminal.write g l.terminal = .ok v t) : write g l = .ok v { l with terminal := t } := by
  simp only [write, h]

theorem write_error {g : Int32} {l : Loop τ} {e : Fault} {t : τ}
    (h : Terminal.write g l.terminal = .error e t) :
    write g l = .error e { l with terminal := t } := by
  simp only [write, h]

/-- The terminal as it is when the glyph of a stroke is about to be written. -/
def aimed (s : Stroke) (t : τ) : τ :=
  Terminal.setCursor s.col s.row (Terminal.setBackground s.bg (Terminal.setForeground s.fg t))

theorem paint_not_running (l : Loop τ) (h : l.phase ≠ .running) : paint l = .ok false l := by
  rw [paint, bind_ok (get_ok l), if_pos h]
  rfl

/-- In an empty viewport only the colours are drawn. -/
theorem paint_empty (l : Loop τ) (h : l.phase = .running)
    (harea : (Terminal.viewport l.terminal).isEmpty = true) {c : Color × Color} {p : Picker}
    (hc : Picker.colors l.picker = .ok c p) : paint l = .ok false { l with picker := p } := by
  obtain ⟨fg, q, hfg, hc⟩ := bind_eq_ok hc
  obtain ⟨bg, r, hbg, hc⟩ := bind_eq_ok hc
  cases hc
  rw [paint, bind_ok (get_ok l), if_neg (by simp [h]), bind_ok (pick_ok hfg),
    bind_ok (pick_ok (l := { l with picker := q }) hbg), bind_ok (get_ok _), if_pos harea]
  rfl

/-- In a viewport with cells a paint is a stroke and then one write. A write that fails leaves
behind everything but the count. -/
theorem paint_stroke (l : Loop τ) (h : l.phase = .running)
    (harea : (Terminal.viewport l.terminal).isEmpty = false) {s : Stroke} {p : Picker}
    (hs : Picker.stroke (Terminal.viewport l.terminal) l.picker = .ok s p) :
    paint l = match Terminal.write s.glyph (aimed s l.terminal) with
      | .ok _ t => .ok true { l with terminal := t, picker := p, painted := l.painted + 1 }
      | .error e t => .error e { l with terminal := t, picker := p } := by
  obtain ⟨pair, q, hpair, hs⟩ := bind_eq_ok hs
  obtain ⟨fg, q', hfg, hpair⟩ := bind_eq_ok hpair
  obtain ⟨bg, q'', hbg, hpair⟩ := bind_eq_ok hpair
  cases hpair
  obtain ⟨⟨col, row⟩, r, hplace, hs⟩ := bind_eq_ok hs
  obtain ⟨g, r', hg, hs⟩ := bind_eq_ok hs
  cases hs
  rw [paint, bind_ok (get_ok l), if_neg (by simp [h]), bind_ok (pick_ok hfg),
    bind_ok (pick_ok (l := { l with picker := q' }) hbg), bind_ok (get_ok _),
    if_neg (by simp [harea]), bind_ok (pick_ok (l := { l with picker := q }) hplace)]
  refine (bind_ok (modify_ok _ _)).trans ?_
  rw [bind_ok (pick_ok (l := aim fg bg col row { l with picker := r }) hg)]
  cases hw : Terminal.write g (aimed ⟨fg, bg, col, row, g⟩ l.terminal) with
  | ok v t =>
    rw [bind_ok (write_ok hw)]
    rfl
  | error e t =>
    rw [bind_error (write_error hw)]
    rfl

/-! ### Stops -/

theorem stop_not_running (reason : StopReason) (l : Loop τ) (h : l.phase ≠ .running) :
    l.stop reason = l :=
  if_neg h

theorem stop_phase (reason : StopReason) (l : Loop τ) (h : l.phase = .running) :
    (l.stop reason).phase = .stopped := by
  rw [stop, if_pos h]
  rfl

theorem stop_ne_running (reason : StopReason) (l : Loop τ) : (l.stop reason).phase ≠ .running := by
  by_cases h : l.phase = .running
  · rw [stop_phase reason l h]
    decide
  · rw [stop_not_running reason l h]
    exact h

theorem stop_reason (reason : StopReason) (l : Loop τ) (h : l.phase = .running) :
    (l.stop reason).reason = reason := by
  rw [stop, if_pos h]
  rfl

theorem stop_saved (reason : StopReason) (l : Loop τ) :
    (l.stop reason).savedFg = l.savedFg ∧ (l.stop reason).savedBg = l.savedBg := by
  unfold stop
  split <;> exact ⟨rfl, rfl⟩

theorem stop_frame (reason : StopReason) (l : Loop τ) :
    (l.stop reason).config = l.config ∧ (l.stop reason).picker = l.picker ∧
      (l.stop reason).painted = l.painted := by
  unfold stop
  split <;> exact ⟨rfl, rfl, rfl⟩

/-! ### Polls -/

/-- The number of glyphs asked for, if there is one, has been reached. -/
def Enough (l : Loop τ) : Prop :=
  0 < l.config.count ∧ l.config.count.toInt ≤ (l.painted : Int)

omit [Terminal τ] in
theorem due_eq_none {key cancelled : Bool} {l : Loop τ} :
    l.due key cancelled = none ↔ key = false ∧ cancelled = false ∧ ¬l.Enough := by
  unfold due Enough
  cases key <;> cases cancelled <;> simp

omit [Terminal τ] in
/-- The reasons and their order: a key press, cancellation, the number of glyphs. -/
theorem due_eq_some {key cancelled : Bool} {l : Loop τ} {reason : StopReason} :
    l.due key cancelled = some reason ↔
      key = true ∧ reason = .key ∨ key = false ∧ cancelled = true ∧ reason = .cancelled ∨
        key = false ∧ cancelled = false ∧ l.Enough ∧ reason = .count := by
  unfold due Enough
  cases key <;> cases cancelled <;> simp [eq_comm]

/-- On a terminal on which looking for a key changes nothing, a poll stops a running loop for the
reason that is due, and leaves it as it is if there is none. -/
theorem poll_running {l : Loop τ} (h : l.phase = .running) {key : Bool}
    (hkey : Terminal.keyPending l.terminal = (key, l.terminal)) (cancelled : Bool) :
    l.poll cancelled = match l.due key cancelled with
      | some reason => (false, l.stop reason)
      | none => (true, l) := by
  cases hdue : l.due key cancelled with
  | none => simp only [poll, if_pos h, hkey, hdue]
  | some reason => simp only [poll, if_pos h, hkey, hdue]

end Loop

end Screensaver
