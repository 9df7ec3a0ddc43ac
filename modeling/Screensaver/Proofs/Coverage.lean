import Mathlib.Data.Int.Interval
import Mathlib.Data.List.Nodup
import Mathlib.Data.Set.Card
import Screensaver.Proofs.Draws
import Screensaver.Stage

/-! Coverage: a paint reaches every stroke that fits, each in one way.

A paint draws five numbers: two for the colours, one for the column, one for the row and one for the
glyph (`Draws`). The stroke is a function of these numbers (`Draws.stroke`). On the numbers below their
bounds nothing in it wraps around, and it is one to one onto the strokes of the viewport
(`bijOn_stroke`). Where all numbers below the bounds are equally likely, and drawn independently of
each other, so are then the parts of a stroke (`ncard_stroke_among`). -/
namespace Screensaver
open Screensaver.Random (Source)

/-! ### Numbers below a bound -/

/-- What can be drawn below a bound. -/
def numbersBelow (n : Int64) : Set Int64 :=
  {v | 0 ≤ v ∧ v < n}

theorem mem_numbersBelow {n v : Int64} : v ∈ numbersBelow n ↔ 0 ≤ v.toInt ∧ v.toInt < n.toInt := by
  have hzero : (0 : Int64).toInt = 0 := rfl
  show 0 ≤ v ∧ v < n ↔ _
  rw [Int64.le_iff_toInt_le, Int64.lt_iff_toInt_lt, hzero]

/-- Adding the numbers below `n` to a base, without wrapping around, gives the `n` values from the base
on, each once. -/
theorem bijOn_offset {α : Type} {f : Int64 → α} {val : α → Int} {base : Int} {n : Int64}
    (hval : ∀ a b, val a = val b → a = b) (hsum : ∀ v ∈ numbersBelow n, val (f v) = base + v.toInt) :
    Set.BijOn f (numbersBelow n) {a | base ≤ val a ∧ val a < base + n.toInt} := by
  refine ⟨?_, ?_, ?_⟩
  · intro v hv
    obtain ⟨hv0, hvn⟩ := mem_numbersBelow.mp hv
    show base ≤ val (f v) ∧ val (f v) < base + n.toInt
    rw [hsum v hv]
    omega
  · intro v hv w hw hvw
    have heq : val (f v) = val (f w) := congrArg val hvw
    rw [hsum v hv, hsum w hw] at heq
    exact Int64.toInt_inj.mp (by omega)
  · rintro a ⟨hlo, hhi⟩
    have hn := n.toInt_lt
    have hback : (Int64.ofInt (val a - base)).toInt = val a - base :=
      Int64.toInt_ofInt_of_le (by omega) (by omega)
    have hmem : Int64.ofInt (val a - base) ∈ numbersBelow n := mem_numbersBelow.mpr (by omega)
    refine ⟨_, hmem, hval _ _ ?_⟩
    rw [hsum _ hmem, hback]
    omega

theorem ncard_numbersBelow (n : Int64) : (numbersBelow n).ncard = n.toInt.toNat := by
  have hbij : Set.BijOn Int64.toInt (numbersBelow n) {i | 0 ≤ i ∧ i < 0 + n.toInt} :=
    bijOn_offset (fun _ _ h => h) fun v _ => (Int.zero_add v.toInt).symm
  have hinterval : {i | 0 ≤ i ∧ i < 0 + n.toInt} = (Finset.Ico 0 n.toInt : Set Int) := by
    ext i
    simp
  rw [hbij.ncard_eq, hinterval, Set.ncard_coe_finset, Int.card_Ico, Int.sub_zero]

/-! ### Parts of a stroke -/

/-- The colour that a number stands for. -/
def Color.numbered (i : Int64) : Color :=
  palette.getD i.toNatClampNeg .default

theorem Color.ofPalette_numbered {i : Int64} (h : i ∈ numbersBelow 16) :
    ∃ hi : i.toNatClampNeg < palette.length, numbered i = palette[i.toNatClampNeg] ∧
      ofPalette i = .ok (numbered i) := by
  have hcast := Int64.cast_toNatClampNeg i h.1
  have hlt : i.toNatClampNeg < palette.length := by
    obtain ⟨-, hhi⟩ := mem_numbersBelow.mp h
    have hsixteen : (16 : Int64).toInt = 16 := rfl
    have hlength : palette.length = 16 := rfl
    omega
  have hget : numbered i = palette[i.toNatClampNeg] :=
    (List.getElem_eq_getD Color.default).symm
  refine ⟨hlt, hget, ?_⟩
  rw [hget, ofPalette, if_neg (Int64.not_lt.mpr h.1), List.getElem?_eq_getElem hlt]

theorem Color.bijOn_numbered : Set.BijOn numbered (numbersBelow 16) {c | c ∈ palette} := by
  have hnodup : palette.Nodup := by decide
  refine ⟨?_, ?_, ?_⟩
  · intro i hi
    obtain ⟨hlt, hget, -⟩ := ofPalette_numbered hi
    rw [hget]
    exact List.getElem_mem hlt
  · intro i hi j hj hij
    obtain ⟨_, hgeti, -⟩ := ofPalette_numbered hi
    obtain ⟨_, hgetj, -⟩ := ofPalette_numbered hj
    rw [hgeti, hgetj, hnodup.getElem_inj_iff] at hij
    rw [← Int64.toInt_inj, ← Int64.cast_toNatClampNeg i hi.1, ← Int64.cast_toNatClampNeg j hj.1, hij]
  · intro c hc
    obtain ⟨k, hk, rfl⟩ := List.getElem_of_mem hc
    have hlength : palette.length = 16 := rfl
    have hsixteen : (16 : Int64).toInt = 16 := rfl
    have htoInt : (Int64.ofNat k).toInt = k := Int64.toInt_ofNat_of_lt (by omega)
    have hmem : Int64.ofNat k ∈ numbersBelow 16 := mem_numbersBelow.mpr (by omega)
    have hback : (Int64.ofNat k).toNatClampNeg = k := by
      have hcast := Int64.cast_toNatClampNeg _ hmem.1
      omega
    obtain ⟨_, hget, -⟩ := ofPalette_numbered hmem
    exact ⟨Int64.ofNat k, hmem, by simp only [hget, hback]⟩

/-- `n` coordinates from `x` on. -/
def coordinates (x n : Int64) : Set Int64 :=
  {c | x.toInt ≤ c.toInt ∧ c.toInt < x.toInt + n.toInt}

/-- Coordinates whose end does not wrap around. -/
theorem toInt_add_numbersBelow {x n v : Int64} (hend : (x + n).toInt = x.toInt + n.toInt)
    (hv : v ∈ numbersBelow n) : (x + v).toInt = x.toInt + v.toInt := by
  obtain ⟨hv0, hvn⟩ := mem_numbersBelow.mp hv
  have hxle := x.le_toInt
  have hlt := (x + n).toInt_lt
  exact toInt_add_of_fits (by omega) (by omega)

theorem bijOn_coordinates {x n : Int64} (hend : (x + n).toInt = x.toInt + n.toInt) :
    Set.BijOn (x + ·) (numbersBelow n) (coordinates x n) :=
  bijOn_offset (fun _ _ => Int64.toInt_inj.mp) fun _ hv => toInt_add_numbersBelow hend hv

namespace Picker
variable {p : Picker}

/-- The number of glyphs of the picker's range. -/
def number (p : Picker) : Int64 :=
  (p.glyphMax - p.glyphMin).toInt64 + 1

/-- The glyphs of the picker's range. -/
def glyphs (p : Picker) : Set Int32 :=
  {g | p.glyphMin ≤ g ∧ g ≤ p.glyphMax}

theorem mem_glyphs {g : Int32} :
    g ∈ p.glyphs ↔ p.glyphMin.toInt ≤ g.toInt ∧ g.toInt ≤ p.glyphMax.toInt := by
  show p.glyphMin ≤ g ∧ g ≤ p.glyphMax ↔ _
  rw [Int32.le_iff_toInt_le, Int32.le_iff_toInt_le]

theorem Printable.bijOn_glyphs (h : p.Printable) :
    Set.BijOn (fun v => p.glyphMin + v.toInt32) (numbersBelow p.number) p.glyphs := by
  have hnumber : p.number.toInt = p.glyphMax.toInt - p.glyphMin.toInt + 1 := h.toInt_number
  have hglyphs : p.glyphs = {g | p.glyphMin.toInt ≤ g.toInt ∧
      g.toInt < p.glyphMin.toInt + p.number.toInt} := by
    ext g
    rw [mem_glyphs]
    show _ ↔ p.glyphMin.toInt ≤ g.toInt ∧ g.toInt < p.glyphMin.toInt + p.number.toInt
    omega
  rw [hglyphs]
  exact bijOn_offset (fun _ _ => Int32.toInt_inj.mp) fun v hv => (h.toInt_glyph hv.1 hv.2).2

end Picker

/-! ### Strokes as values of five numbers -/

/-- The five numbers of a paint, in the order in which they are drawn. -/
structure Draws where
  fg : Int64
  bg : Int64
  col : Int64
  row : Int64
  glyph : Int64
deriving DecidableEq

namespace Draws

def toList (d : Draws) : List Int64 :=
  [d.fg, d.bg, d.col, d.row, d.glyph]

/-- The bounds that the five numbers are drawn below. -/
def bounds (area : Rect) (p : Picker) : Draws :=
  ⟨16, 16, area.w, area.h, p.number⟩

/-- Five numbers, each below its bound. -/
def below (b : Draws) : Set Draws :=
  {d | d.fg ∈ numbersBelow b.fg ∧ d.bg ∈ numbersBelow b.bg ∧ d.col ∈ numbersBelow b.col ∧
    d.row ∈ numbersBelow b.row ∧ d.glyph ∈ numbersBelow b.glyph}

/-- The stroke that five numbers make. -/
def stroke (area : Rect) (p : Picker) (d : Draws) : Stroke where
  fg := Color.numbered d.fg
  bg := Color.numbered d.bg
  col := area.x + d.col
  row := area.y + d.row
  glyph := p.glyphMin + d.glyph.toInt32

/-- The sums behind the stroke are those of the integers. -/
structure Exact (area : Rect) (p : Picker) (d : Draws) : Prop where
  span : (p.glyphMax - p.glyphMin).toInt = p.glyphMax.toInt - p.glyphMin.toInt
  number : p.number.toInt = p.glyphMax.toInt - p.glyphMin.toInt + 1
  col : (area.x + d.col).toInt = area.x.toInt + d.col.toInt
  row : (area.y + d.row).toInt = area.y.toInt + d.row.toInt
  offset : d.glyph.toInt32.toInt = d.glyph.toInt
  glyph : (p.glyphMin + d.glyph.toInt32).toInt = p.glyphMin.toInt + d.glyph.toInt

variable {area : Rect} {p : Picker}

theorem exact_of_mem_below (hedges : area.Unwrapped) (hp : p.Printable) {d : Draws}
    (hd : d ∈ (bounds area p).below) : d.Exact area p := by
  obtain ⟨-, -, hcol, hrow, hglyph⟩ := hd
  obtain ⟨hoffset, hsum⟩ := hp.toInt_glyph hglyph.1 hglyph.2
  exact ⟨hp.toInt_span, hp.toInt_number, toInt_add_numbersBelow hedges.right hcol,
    toInt_add_numbersBelow hedges.bottom hrow, hoffset, hsum⟩

theorem bounds_pos (hcells : area.isEmpty = false) (hp : p.Printable) :
    ∀ n ∈ (bounds area p).toList, 0 < n := by
  simp only [Rect.isEmpty, Bool.or_eq_false_iff, decide_eq_false_iff_not, Int64.not_le] at hcells
  intro n hn
  simp only [toList, bounds, List.mem_cons, List.not_mem_nil, or_false] at hn
  rcases hn with rfl | rfl | rfl | rfl | rfl
  · decide
  · decide
  · exact hcells.1
  · exact hcells.2
  · exact hp.number_pos

/-- Five draws with positive bounds give five numbers below them. -/
theorem exists_mem_below (b : Draws) (hb : ∀ n ∈ b.toList, 0 < n) (s : Source) :
    ∃ d ∈ b.below, ∃ t, b.toList.mapM Source.below s = .ok d.toList t := by
  simp only [toList, List.mem_cons, List.not_mem_nil, or_false, forall_eq_or_imp, forall_eq] at hb
  obtain ⟨hfg, hbg, hcol, hrow, hglyph⟩ := hb
  obtain ⟨v₁, s₁, h₁, hv₁⟩ := below_ok b.fg hfg s
  obtain ⟨v₂, s₂, h₂, hv₂⟩ := below_ok b.bg hbg s₁
  obtain ⟨v₃, s₃, h₃, hv₃⟩ := below_ok b.col hcol s₂
  obtain ⟨v₄, s₄, h₄, hv₄⟩ := below_ok b.row hrow s₃
  obtain ⟨v₅, s₅, h₅, hv₅⟩ := below_ok b.glyph hglyph s₄
  refine ⟨⟨v₁, v₂, v₃, v₄, v₅⟩, ⟨hv₁, hv₂, hv₃, hv₄, hv₅⟩, s₅, ?_⟩
  simp only [toList, Source.mapM_below_cons]
  exact ⟨s₁, h₁, s₂, h₂, s₃, h₃, s₄, h₄, s₅, h₅, rfl⟩

/-- Any five numbers below their bounds come up. -/
theorem exists_source {b d : Draws} (hd : d ∈ b.below) :
    ∃ s t, b.toList.mapM Source.below s = .ok d.toList t := by
  obtain ⟨hfg, hbg, hcol, hrow, hglyph⟩ := hd
  apply Source.exists_draws
    [(b.fg, d.fg), (b.bg, d.bg), (b.col, d.col), (b.row, d.row), (b.glyph, d.glyph)]
    (Nat.le_of_ble_eq_true rfl)
  simp only [List.mem_cons, List.not_mem_nil, or_false, forall_eq_or_imp, forall_eq]
  exact ⟨hfg, hbg, hcol, hrow, hglyph⟩

end Draws

namespace Picker
variable {p : Picker} {v : Int64} {s : Source}

theorem draw_of_below {n : Int64} (h : Source.below n p.source = .ok v s) :
    draw n p = .ok v { p with source := s } := by
  simp only [draw, h]

theorem color_of_below (hv : v ∈ numbersBelow 16) (h : Source.below 16 p.source = .ok v s) :
    color p = .ok (Color.numbered v) { p with source := s } := by
  obtain ⟨-, -, hcolor⟩ := Color.ofPalette_numbered hv
  rw [color, bind_ok (draw_of_below h), hcolor]
  rfl

theorem glyph_of_below (h : Source.below p.number p.source = .ok v s) :
    glyph p = .ok (p.glyphMin + v.toInt32) { p with source := s } := by
  have hdraw : draw ((p.glyphMax - p.glyphMin).toInt64 + 1) p = .ok v { p with source := s } :=
    draw_of_below h
  unfold glyph
  rw [hdraw]

/-- The draws of a stroke are five numbers, and the stroke is the one that they make. -/
theorem stroke_of_draws {area : Rect} {d : Draws} (hd : d ∈ (Draws.bounds area p).below)
    (h : (Draws.bounds area p).toList.mapM Source.below p.source = .ok d.toList s) :
    stroke area p = .ok (d.stroke area p) { p with source := s } := by
  obtain ⟨hfg, hbg, -⟩ := hd
  simp only [Draws.toList, Draws.bounds, Source.mapM_below_cons] at h
  obtain ⟨s₁, h₁, s₂, h₂, s₃, h₃, s₄, h₄, s₅, h₅, hdone⟩ := h
  cases hdone
  have hcolors : colors p = .ok (Color.numbered d.fg, Color.numbered d.bg) { p with source := s₂ } := by
    rw [colors, bind_ok (color_of_below hfg h₁),
      bind_ok (color_of_below (p := { p with source := s₁ }) hbg h₂)]
    rfl
  have hplace : position area { p with source := s₂ } =
      .ok (area.x + d.col, area.y + d.row) { p with source := s₄ } := by
    rw [position, bind_ok (draw_of_below (p := { p with source := s₂ }) h₃),
      bind_ok (draw_of_below (p := { p with source := s₃ }) h₄)]
    rfl
  rw [stroke, bind_ok hcolors, bind_ok hplace,
    bind_ok (glyph_of_below (p := { p with source := s₄ }) h₅)]
  rfl

end Picker

/-! ### One to one -/

/-- The strokes whose parts are taken from the given sets. -/
def Stroke.among (fgs bgs : Set Color) (cols rows : Set Int64) (glyphs : Set Int32) : Set Stroke :=
  {s | s.fg ∈ fgs ∧ s.bg ∈ bgs ∧ s.col ∈ cols ∧ s.row ∈ rows ∧ s.glyph ∈ glyphs}

/-- The parts of a stroke. -/
def Stroke.parts (s : Stroke) : Color × Color × Int64 × Int64 × Int32 :=
  (s.fg, s.bg, s.col, s.row, s.glyph)

theorem Stroke.parts_injective : Function.Injective parts := by
  rintro ⟨⟩ ⟨⟩ h
  cases h
  rfl

theorem Stroke.parts_image_among (fgs bgs : Set Color) (cols rows : Set Int64) (glyphs : Set Int32) :
    parts '' among fgs bgs cols rows glyphs = fgs ×ˢ bgs ×ˢ cols ×ˢ rows ×ˢ glyphs := by
  ext ⟨fg, bg, col, row, glyph⟩
  constructor
  · rintro ⟨s, hs, h⟩
    cases h
    exact hs
  · intro h
    exact ⟨⟨fg, bg, col, row, glyph⟩, h, rfl⟩

theorem Stroke.ncard_among (fgs bgs : Set Color) (cols rows : Set Int64) (glyphs : Set Int32) :
    (among fgs bgs cols rows glyphs).ncard =
      fgs.ncard * (bgs.ncard * (cols.ncard * (rows.ncard * glyphs.ncard))) := by
  rw [← Set.ncard_image_of_injective _ parts_injective, parts_image_among]
  simp only [Set.ncard_prod]

/-- The strokes of a viewport in the picker's range: palette by palette by columns by rows by glyphs. -/
def Stroke.all (area : Rect) (p : Picker) : Set Stroke :=
  among {c | c ∈ Color.palette} {c | c ∈ Color.palette} (coordinates area.x area.w)
    (coordinates area.y area.h) p.glyphs

namespace Draws
variable {area : Rect} {p : Picker}

/-- Numbers and strokes correspond, part by part. -/
theorem bijOn_stroke (hedges : area.Unwrapped) (hp : p.Printable) :
    Set.BijOn (stroke area p) (bounds area p).below (Stroke.all area p) := by
  have hcolor := Color.bijOn_numbered
  have hcol := bijOn_coordinates hedges.right
  have hrow := bijOn_coordinates hedges.bottom
  have hglyph := hp.bijOn_glyphs
  refine ⟨?_, ?_, ?_⟩
  · rintro d ⟨h₁, h₂, h₃, h₄, h₅⟩
    exact ⟨hcolor.mapsTo h₁, hcolor.mapsTo h₂, hcol.mapsTo h₃, hrow.mapsTo h₄, hglyph.mapsTo h₅⟩
  · rintro ⟨fg, bg, col, row, glyph⟩ ⟨h₁, h₂, h₃, h₄, h₅⟩ ⟨fg', bg', col', row', glyph'⟩
      ⟨h₁', h₂', h₃', h₄', h₅'⟩ h
    simp only [stroke, Stroke.mk.injEq] at h
    obtain ⟨e₁, e₂, e₃, e₄, e₅⟩ := h
    rw [mk.injEq]
    exact ⟨hcolor.injOn h₁ h₁' e₁, hcolor.injOn h₂ h₂' e₂, hcol.injOn h₃ h₃' e₃,
      hrow.injOn h₄ h₄' e₄, hglyph.injOn h₅ h₅' e₅⟩
  · rintro ⟨fg, bg, col, row, glyph⟩ ⟨h₁, h₂, h₃, h₄, h₅⟩
    obtain ⟨v₁, hv₁, rfl⟩ := hcolor.surjOn h₁
    obtain ⟨v₂, hv₂, rfl⟩ := hcolor.surjOn h₂
    obtain ⟨v₃, hv₃, rfl⟩ := hcol.surjOn h₃
    obtain ⟨v₄, hv₄, rfl⟩ := hrow.surjOn h₄
    obtain ⟨v₅, hv₅, rfl⟩ := hglyph.surjOn h₅
    exact ⟨⟨v₁, v₂, v₃, v₄, v₅⟩, ⟨hv₁, hv₂, hv₃, hv₄, hv₅⟩, rfl⟩

/-- How many choices of numbers there are. -/
theorem ncard_below (hedges : area.Unwrapped) (hp : p.Printable) :
    (bounds area p).below.ncard =
      16 * (16 * (area.w.toInt.toNat * (area.h.toInt.toNat * p.number.toInt.toNat))) := by
  rw [(bijOn_stroke hedges hp).ncard_eq, Stroke.all, Stroke.ncard_among,
    ← Color.bijOn_numbered.ncard_eq, ← (bijOn_coordinates hedges.right).ncard_eq,
    ← (bijOn_coordinates hedges.bottom).ncard_eq, ← hp.bijOn_glyphs.ncard_eq]
  simp only [ncard_numbersBelow]
  rfl

/-- How many choices of numbers give a stroke with its parts in the given sets: one for each choice
of the parts. -/
theorem ncard_stroke_among (hedges : area.Unwrapped) (hp : p.Printable) (fgs bgs : Set Color)
    (cols rows : Set Int64) (glyphs : Set Int32) :
    {d ∈ (bounds area p).below | d.stroke area p ∈ Stroke.among fgs bgs cols rows glyphs}.ncard =
      ({c | c ∈ Color.palette} ∩ fgs).ncard * (({c | c ∈ Color.palette} ∩ bgs).ncard *
        ((coordinates area.x area.w ∩ cols).ncard * ((coordinates area.y area.h ∩ rows).ncard *
          (p.glyphs ∩ glyphs).ncard))) := by
  have hbij := bijOn_stroke hedges hp
  have himage : stroke area p ''
      {d ∈ (bounds area p).below | d.stroke area p ∈ Stroke.among fgs bgs cols rows glyphs} =
      Stroke.among ({c | c ∈ Color.palette} ∩ fgs) ({c | c ∈ Color.palette} ∩ bgs)
        (coordinates area.x area.w ∩ cols) (coordinates area.y area.h ∩ rows)
        (p.glyphs ∩ glyphs) := by
    ext s
    constructor
    · rintro ⟨d, ⟨hd, h₁, h₂, h₃, h₄, h₅⟩, rfl⟩
      obtain ⟨k₁, k₂, k₃, k₄, k₅⟩ := hbij.mapsTo hd
      exact ⟨⟨k₁, h₁⟩, ⟨k₂, h₂⟩, ⟨k₃, h₃⟩, ⟨k₄, h₄⟩, ⟨k₅, h₅⟩⟩
    · rintro ⟨⟨k₁, h₁⟩, ⟨k₂, h₂⟩, ⟨k₃, h₃⟩, ⟨k₄, h₄⟩, ⟨k₅, h₅⟩⟩
      obtain ⟨d, hd, rfl⟩ := hbij.surjOn (show s ∈ Stroke.all area p from ⟨k₁, k₂, k₃, k₄, k₅⟩)
      exact ⟨d, ⟨hd, h₁, h₂, h₃, h₄, h₅⟩, rfl⟩
  rw [← Stroke.ncard_among, ← himage]
  exact (hbij.injOn.mono fun _ hd => hd.1).ncard_image.symm

end Draws

/-! ### Paints -/

/-- The bounds asked for are kept exactly if they are in order and printable. -/
theorem Picker.glyphRange_cases (lo hi : Int32) :
    (glyphRange lo hi = (lo, hi) ↔ 32 ≤ lo ∧ lo ≤ hi ∧ hi ≤ 126) ∧
      (¬(32 ≤ lo ∧ lo ≤ hi ∧ hi ≤ 126) → glyphRange lo hi = (32, 126)) := by
  obtain ⟨hlow, horder, hhigh⟩ := glyphRange_printable lo hi
  refine ⟨⟨?_, ?_⟩, ?_⟩
  · intro h
    rw [h] at hlow horder hhigh
    exact ⟨hlow, horder, hhigh⟩
  · rintro ⟨hlo, hle, hhi⟩
    refine if_neg ?_
    rw [not_or, not_or, Int32.not_lt, Int32.not_lt, Int32.not_lt]
    exact ⟨hle, hlo, hhi⟩
  · intro h
    refine if_pos (Decidable.byContradiction fun hnot => h ?_)
    rw [not_or, not_or, Int32.not_lt, Int32.not_lt, Int32.not_lt] at hnot
    exact ⟨hnot.2.1, hnot.1, hnot.2.2⟩

namespace Loop
variable {τ : Type} [Terminal τ]

/-- The next paint makes this stroke, and leaves the picker as `q`: the stroke is aimed and its glyph
written, and counted if the write succeeds. -/
def Paints (l : Loop τ) (s : Stroke) (q : Picker) : Prop :=
  l.paint = match Terminal.write s.glyph (aimed s l.terminal) with
    | .ok _ t => .ok true { l with terminal := t, picker := q, painted := l.painted + 1 }
    | .error e t => .error e { l with terminal := t, picker := q }

/-- Five numbers that the source gives below their bounds make the stroke of the next paint. -/
theorem paints_of_draws {l : Loop τ} {area : Rect} (hrun : l.phase = .running)
    (hview : Terminal.viewport l.terminal = area) (hcells : area.isEmpty = false) {d : Draws}
    {s : Source} (hd : d ∈ (Draws.bounds area l.picker).below)
    (h : (Draws.bounds area l.picker).toList.mapM Source.below l.picker.source = .ok d.toList s) :
    l.Paints (d.stroke area l.picker) { l.picker with source := s } := by
  subst hview
  exact paint_stroke l hrun hcells (Picker.stroke_of_draws hd h)

/-- A paint in a viewport with cells draws five numbers, below sixteen twice, the width, the height and
the number of glyphs. No draw can fail and no sum wraps around. The numbers below these bounds and the
strokes of the viewport correspond one to one, so any choice of foregrounds, backgrounds, columns, rows
and glyphs is met by as many numbers as there are strokes in it, which is a product with one factor for
each part. From a suitable source every stroke of the viewport is painted. -/
theorem paint_covers (l : Loop τ) (area : Rect) (seed : Int64) (lo hi : Int32)
    (hrun : l.phase = .running) (hrange : (Picker.new seed lo hi).SameRange l.picker)
    (hview : Terminal.viewport l.terminal = area) (hcells : area.isEmpty = false)
    (hedges : area.Unwrapped) :
    (l.picker.Printable ∧
      ((l.picker.glyphMin, l.picker.glyphMax) = (lo, hi) ↔ 32 ≤ lo ∧ lo ≤ hi ∧ hi ≤ 126) ∧
      (¬(32 ≤ lo ∧ lo ≤ hi ∧ hi ≤ 126) →
        (l.picker.glyphMin, l.picker.glyphMax) = (32, 126))) ∧
    (∀ n ∈ (Draws.bounds area l.picker).toList, 0 < n) ∧
    (∃ d ∈ (Draws.bounds area l.picker).below, ∃ s,
      (Draws.bounds area l.picker).toList.mapM Source.below l.picker.source = .ok d.toList s ∧
        l.Paints (d.stroke area l.picker) { l.picker with source := s }) ∧
    (∀ d ∈ (Draws.bounds area l.picker).below, d.Exact area l.picker) ∧
    Set.BijOn (Draws.stroke area l.picker) (Draws.bounds area l.picker).below
      (Stroke.all area l.picker) ∧
    (Draws.bounds area l.picker).below.ncard =
      16 * (16 * (area.w.toInt.toNat * (area.h.toInt.toNat * l.picker.number.toInt.toNat))) ∧
    (∀ fgs bgs cols rows glyphs,
      {d ∈ (Draws.bounds area l.picker).below |
          d.stroke area l.picker ∈ Stroke.among fgs bgs cols rows glyphs}.ncard =
        ({c | c ∈ Color.palette} ∩ fgs).ncard * (({c | c ∈ Color.palette} ∩ bgs).ncard *
          ((coordinates area.x area.w ∩ cols).ncard * ((coordinates area.y area.h ∩ rows).ncard *
            (l.picker.glyphs ∩ glyphs).ncard)))) ∧
    (∀ s ∈ Stroke.all area l.picker, ∃ source q,
      Paints { l with picker := { l.picker with source } } s q) := by
  have heffective : (l.picker.glyphMin, l.picker.glyphMax) = Picker.glyphRange lo hi :=
    Prod.ext hrange.1 hrange.2
  have hp : l.picker.Printable := .of_range heffective
  have hpos := Draws.bounds_pos hcells hp
  have hbij := Draws.bijOn_stroke hedges hp
  obtain ⟨hkept, hreplaced⟩ := Picker.glyphRange_cases lo hi
  refine ⟨⟨hp, ?_, ?_⟩, hpos, ?_, fun d hd => Draws.exact_of_mem_below hedges hp hd, hbij,
    Draws.ncard_below hedges hp, Draws.ncard_stroke_among hedges hp, ?_⟩
  · rw [heffective]
    exact hkept
  · rw [heffective]
    exact hreplaced
  · obtain ⟨d, hd, s, hs⟩ := Draws.exists_mem_below _ hpos l.picker.source
    exact ⟨d, hd, s, hs, paints_of_draws hrun hview hcells hd hs⟩
  · intro s hs
    obtain ⟨d, hd, rfl⟩ := hbij.surjOn hs
    obtain ⟨source, t, ht⟩ := Draws.exists_source hd
    exact ⟨source, _, paints_of_draws (l := { l with picker := { l.picker with source } }) hrun hview
      hcells hd ht⟩

/-- In a window whose right edge is the last coordinate, with bounds that are no glyphs, the lower right
cell can become a white tilde on white. -/
theorem paint_covers_far_window :
    ∃ l : Loop Stage, Terminal.viewport l.terminal = ⟨9223372036854775798, -5, 9, 3⟩ ∧
      l.phase = .running ∧ (Picker.new 7 (-2147483648) 2147483647).SameRange l.picker ∧
      (Draws.bounds ⟨9223372036854775798, -5, 9, 3⟩ l.picker).below.ncard =
        16 * (16 * (9 * (3 * 95))) ∧
      ∃ source q, Paints { l with picker := { l.picker with source } }
        ⟨.white, .white, 9223372036854775806, -3, 126⟩ q := by
  refine ⟨(Loop.new 0 { Stage.ofBuffer (.new 4 2) with
    window := some ⟨9223372036854775798, -5, 9, 3⟩ } ⟨0, 7, 0, -2147483648, 2147483647, ""⟩).start,
    rfl, rfl, ⟨rfl, rfl⟩, ?_⟩
  obtain ⟨⟨-, -, hreplaced⟩, -, -, -, -, hcount, -, hreach⟩ :=
    paint_covers (Loop.new 0 { Stage.ofBuffer (.new 4 2) with
      window := some ⟨9223372036854775798, -5, 9, 3⟩ } ⟨0, 7, 0, -2147483648, 2147483647, ""⟩).start
      ⟨9223372036854775798, -5, 9, 3⟩ 7 (-2147483648) 2147483647 rfl ⟨rfl, rfl⟩ rfl (by decide)
      ⟨by decide, by decide⟩
  obtain ⟨hmin, hmax⟩ := Prod.mk.inj (hreplaced (by decide))
  have hwhite : Color.white ∈ Color.palette := by decide
  refine ⟨?_, hreach _ ⟨hwhite, hwhite, ⟨by decide, by decide⟩, ⟨by decide, by decide⟩, ?_, ?_⟩⟩
  · rw [hcount, Picker.number, hmin, hmax]
    rfl
  · rw [hmin]
    decide
  · rw [hmax]
    decide

end Loop

end Screensaver
