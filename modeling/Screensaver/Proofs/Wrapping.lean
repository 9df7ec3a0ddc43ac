import Screensaver.Proofs.Edits
import Screensaver.Proofs.Strokes

/-! Text on a buffer, written from the cursor on.

A write stores a glyph where the cursor is and moves the cursor to the next place (`write_at`): one
column on, at the right edge to the row below, and from the end of the last row to its beginning. Where
that leads in any number of steps is said by `Place.ahead` in closed form.

`writes_wrap` says what a text of any length leaves behind. Its glyphs go to the places ahead of the
cursor, none of them is lost, and where several go to the same place the latest is seen. Once the text
has reached the last row it stays there, round after round. -/
namespace Screensaver

/-! ### Places -/

/-- A column and a row of a screen, counted from zero. -/
@[ext]
structure Place where
  col : Nat
  row : Nat
deriving DecidableEq

namespace Place

/-- The screen has this place. -/
def On (p : Place) (s : Screen) : Prop :=
  p.col < s.width ∧ p.row < s.height

instance (p : Place) (s : Screen) : Decidable (p.On s) :=
  inferInstanceAs (Decidable (p.col < s.width ∧ p.row < s.height))

/-- The place that follows on a screen of `w` by `h`. From the end of a row it is the first of the next
row, and from the end of the last row the first of that row. -/
def next (w h : Nat) (p : Place) : Place :=
  if p.col + 1 < w then ⟨p.col + 1, p.row⟩
  else ⟨0, if p.row + 1 < h then p.row + 1 else p.row⟩

/-- The place that follows in `k` steps. -/
def ahead (w h : Nat) (p : Place) (k : Nat) : Place :=
  ⟨(p.col + k) % w, min (p.row + (p.col + k) / w) (h - 1)⟩

variable {w h : Nat}

theorem ahead_zero {p : Place} (hcol : p.col < w) (hrow : p.row < h) : p.ahead w h 0 = p := by
  have hlast : min p.row (h - 1) = p.row := by omega
  simp [ahead, Nat.mod_eq_of_lt hcol, Nat.div_eq_of_lt hcol, hlast]

theorem ahead_next (hw : 0 < w) (p : Place) (k : Nat) :
    (p.ahead w h k).next w h = p.ahead w h (k + 1) := by
  have hsplit := Nat.mod_add_div (p.col + k) w
  have hlt := Nat.mod_lt (p.col + k) hw
  by_cases hroom : (p.ahead w h k).col + 1 < w
  · rw [next, if_pos hroom]
    obtain ⟨hdiv, hmod⟩ : (p.col + (k + 1)) / w = (p.col + k) / w ∧
        (p.col + (k + 1)) % w = (p.col + k) % w + 1 :=
      (Nat.div_mod_unique hw).mpr ⟨by omega, hroom⟩
    simp only [ahead, hdiv, hmod]
  · -- the step leaves the row
    rw [next, if_neg hroom]
    have hend : (p.col + k) % w + 1 = w := Nat.le_antisymm hlt (Nat.not_lt.mp hroom)
    obtain ⟨hdiv, hmod⟩ : (p.col + (k + 1)) / w = (p.col + k) / w + 1 ∧
        (p.col + (k + 1)) % w = 0 :=
      (Nat.div_mod_unique hw).mpr ⟨by rw [Nat.mul_add]; omega, hw⟩
    have hrow : (if (p.ahead w h k).row + 1 < h then (p.ahead w h k).row + 1 else (p.ahead w h k).row) =
        min (p.row + ((p.col + k) / w + 1)) (h - 1) := by
      have hmin : (p.ahead w h k).row = min (p.row + (p.col + k) / w) (h - 1) := rfl
      split <;> omega
    rw [hrow]
    simp only [ahead, hdiv, hmod]

theorem ahead_on {s : Screen} (hw : 0 < s.width) (hh : 0 < s.height) (p : Place) (k : Nat) :
    (p.ahead s.width s.height k).On s := by
  refine ⟨Nat.mod_lt _ hw, ?_⟩
  show min _ (s.height - 1) < s.height
  omega

theorem ahead_row_mono (p : Place) {j k : Nat} (hjk : j ≤ k) :
    (p.ahead w h j).row ≤ (p.ahead w h k).row := by
  have hdiv : (p.col + j) / w ≤ (p.col + k) / w := Nat.div_le_div_right (by omega)
  simp only [ahead]
  omega

/-- The last row is not left again. -/
theorem ahead_last {p : Place} {j k : Nat} (hlast : (p.ahead w h k).row = h - 1) (hkj : k ≤ j) :
    (p.ahead w h j).row = h - 1 := by
  have hmono : (p.ahead w h k).row ≤ (p.ahead w h j).row := ahead_row_mono p hkj
  have hbound : (p.ahead w h j).row ≤ h - 1 := Nat.min_le_right _ _
  omega

/-- In the last row the places come round again. -/
theorem ahead_round {p : Place} {k : Nat} (hlast : (p.ahead w h k).row = h - 1) :
    p.ahead w h (k + w) = p.ahead w h k := by
  have hcol : (p.ahead w h (k + w)).col = (p.ahead w h k).col := by
    simp only [ahead, ← Nat.add_assoc, Nat.add_mod_right]
  have hrow : (p.ahead w h (k + w)).row = (p.ahead w h k).row :=
    (ahead_last hlast (Nat.le_add_right k w)).trans hlast.symm
  exact Place.ext hcol hrow

end Place

/-! ### Marks put one after the other -/

/-- Of `n` marks put at places in order, a view shows at each place the latest that was put there. Where
none was, it shows what was to be seen before. -/
structure ShowsLatest {π γ : Type} (n : Nat) (place : Nat → π) (mark : Nat → γ) (before after : π → γ) :
    Prop where
  latest : ∀ k < n, (∀ j < n, k < j → place j ≠ place k) → after (place k) = mark k
  untouched : ∀ p, (∀ k < n, place k ≠ p) → after p = before p

/-- This is so if each view differs from the one before in one place, which has the next mark. -/
theorem ShowsLatest.of_steps {π γ : Type} [DecidableEq π] (n : Nat) (place : Nat → π) (mark : Nat → γ)
    (view : Nat → π → γ)
    (hstep : ∀ k < n, ∀ p, view (k + 1) p = if p = place k then mark k else view k p) :
    ShowsLatest n place mark (view 0) (view n) := by
  induction n with
  | zero => exact ⟨fun k hk => absurd hk (Nat.not_lt_zero k), fun _ _ => rfl⟩
  | succ n ih =>
    have hlast := hstep n (Nat.lt_succ_self n)
    have hbefore := ih fun k hk => hstep k (Nat.lt_succ_of_lt hk)
    refine ⟨fun k hk hnone => ?_, fun p hnone => ?_⟩
    · by_cases hkn : k = n
      · rw [hkn, hlast, if_pos rfl]
      · have hk' : k < n := by omega
        have hother : place k ≠ place n := (hnone n (Nat.lt_succ_self n) hk').symm
        rw [hlast, if_neg hother]
        exact hbefore.latest k hk' fun j hj => hnone j (Nat.lt_succ_of_lt hj)
    · rw [hlast, if_neg (hnone n (Nat.lt_succ_self n)).symm]
      exact hbefore.untouched p fun k hk => hnone k (Nat.lt_succ_of_lt hk)

/-! ### Single writes -/

namespace Screen

/-- What is to be seen at a place, if the screen has it. -/
def shown (s : Screen) (p : Place) : Option Cell :=
  s.at? p.col p.row

/-- The screen is not larger than 64-bit coordinates reach. -/
structure Addressable (s : Screen) : Prop where
  width : s.width < 0x8000000000000000
  height : s.height < 0x8000000000000000

/-- So is every screen of a size that can be asked for. -/
theorem Sized.addressable {s : Screen} {size : Int64 × Int64} (hs : s.Sized size) : s.Addressable := by
  have hw := size.1.toInt_lt
  have hh := size.2.toInt_lt
  have hwidth := hs.width
  have hheight := hs.height
  unfold extent at hwidth hheight
  exact ⟨by omega, by omega⟩

end Screen

namespace Buffer
variable {b : Buffer} {p : Place}

/-- The cursor is at this place. -/
structure At (b : Buffer) (p : Place) : Prop where
  col : b.col.toInt = p.col
  row : b.row.toInt = p.row

/-- The cursor moves on to the next place, also in the first column of a screen that has none. Neither
coordinate wraps around. -/
theorem advance_at (hs : b.screen.Addressable) (hat : b.At p) (hcol : p.col ≤ b.screen.width - 1) :
    b.advance.At (p.next b.screen.width b.screen.height) := by
  have hw := hs.width
  have hh := hs.height
  have hone : (1 : Int64).toInt = 1 := rfl
  have hright : (b.col + 1).toInt = p.col + 1 := by
    rw [toInt_add_of_fits, hat.col, hone] <;> rw [hat.col, hone] <;> omega
  unfold advance
  dsimp only
  by_cases hroom : p.col + 1 < b.screen.width
  · rw [if_neg (by omega), Place.next, if_pos hroom]
    exact ⟨hright, hat.row⟩
  · rw [if_pos (by omega), Place.next, if_neg hroom]
    refine ⟨rfl, ?_⟩
    by_cases hbelow : p.row + 1 < b.screen.height
    · have hdown : (b.row + 1).toInt = p.row + 1 := by
        rw [toInt_add_of_fits, hat.row, hone] <;> rw [hat.row, hone] <;> omega
      simp only [if_pos hbelow]
      rw [if_pos (by rw [hat.row]; omega)]
      exact hdown
    · simp only [if_neg hbelow]
      rw [if_neg (by rw [hat.row]; omega)]
      exact hat.row

theorem write_at (hs : b.screen.Addressable) (hat : b.At p) (hcol : p.col ≤ b.screen.width - 1)
    (g : Int32) : (b.write g).At (p.next b.screen.width b.screen.height) := by
  have hstored := advance_at (b := { b with screen := b.screen.set b.col b.row ⟨g, b.fg, b.bg⟩ })
    (p := p) ⟨by simpa using hs.width, by simpa using hs.height⟩ ⟨hat.col, hat.row⟩
    (by simpa using hcol)
  simpa [write] using hstored

theorem write_screen (b : Buffer) (g : Int32) :
    (b.write g).screen = b.screen.set b.col b.row ⟨g, b.fg, b.bg⟩ :=
  congrArg screen (advance_frame _)

/-- A write changes cells and moves the cursor. -/
theorem write_kept (b : Buffer) (g : Int32) :
    b.write g =
      { b with screen := (b.write g).screen, col := (b.write g).col, row := (b.write g).row } := by
  rw [write_screen]
  exact advance_frame _

theorem shown_write (hat : b.At p) (hon : p.On b.screen) (g : Int32) (q : Place) :
    (b.write g).screen.shown q = if q = p then some ⟨g, b.fg, b.bg⟩ else b.screen.shown q := by
  rw [write_screen, Screen.shown, Screen.at?_set, hat.col, hat.row]
  congr 1
  apply propext
  constructor
  · intro h
    exact Place.ext (Int.ofNat_inj.mp h.1) (Int.ofNat_inj.mp h.2.1)
  · intro h
    subst h
    exact ⟨rfl, rfl, hon⟩

/-! ### Texts -/

/-- The buffer after glyphs were written in order. -/
def written (b : Buffer) (glyphs : List Int32) : Buffer :=
  glyphs.foldl write b

theorem written_concat (b : Buffer) (glyphs : List Int32) (g : Int32) :
    b.written (glyphs ++ [g]) = (b.written glyphs).write g := by
  simp [written]

/-- The buffer `c` is `b` after `n` glyphs, the first of which went to `p`. -/
structure Typed (p : Place) (n : Nat) (b c : Buffer) : Prop where
  frame : c = { b with screen := c.screen, col := c.col, row := c.row }
  width : c.screen.width = b.screen.width
  height : c.screen.height = b.screen.height
  cursor : c.At (p.ahead b.screen.width b.screen.height n)

theorem Typed.write {n : Nat} {c : Buffer} (h : Typed p n b c) (hs : b.screen.Addressable)
    (hon : p.On b.screen) (g : Int32) : Typed p (n + 1) b (c.write g) := by
  obtain ⟨hwidth, hheight, -⟩ := c.write_frame g
  have hw : 0 < b.screen.width := Nat.zero_lt_of_lt hon.1
  have hlt : (p.ahead b.screen.width b.screen.height n).col < b.screen.width := Nat.mod_lt _ hw
  refine ⟨?_, hwidth.trans h.width, hheight.trans h.height, ?_⟩
  · rw [write_kept, h.frame]
  · have hmoved := write_at (b := c) ⟨h.width ▸ hs.width, h.height ▸ hs.height⟩ h.cursor
      (by rw [h.width]; omega) g
    rw [h.width, h.height, Place.ahead_next hw] at hmoved
    exact hmoved

theorem written_typed (hs : b.screen.Addressable) (hat : b.At p) (hon : p.On b.screen)
    (glyphs : List Int32) : Typed p glyphs.length b (b.written glyphs) := by
  induction glyphs using List.reverseRecOn with
  | nil =>
    refine ⟨rfl, rfl, rfl, ?_⟩
    rw [List.length_nil, Place.ahead_zero hon.1 hon.2]
    exact hat
  | append_singleton glyphs g ih =>
    rw [written_concat, List.length_append]
    exact ih.write hs hon g

/-- Each glyph of a text changes the place that lies as many steps ahead as there are glyphs before it. -/
theorem shown_written (hs : b.screen.Addressable) (hat : b.At p) (hon : p.On b.screen)
    {glyphs : List Int32} {k : Nat} {g : Int32} (hg : glyphs[k]? = some g) (q : Place) :
    (b.written (glyphs.take (k + 1))).screen.shown q =
      if q = p.ahead b.screen.width b.screen.height k then some ⟨g, b.fg, b.bg⟩
      else (b.written (glyphs.take k)).screen.shown q := by
  have htyped := written_typed hs hat hon (glyphs.take k)
  have hlt : k < glyphs.length := (List.getElem?_eq_some_iff.mp hg).1
  rw [List.length_take_of_le (Nat.le_of_lt hlt)] at htyped
  have hplace : (p.ahead b.screen.width b.screen.height k).On (b.written (glyphs.take k)).screen := by
    rw [Place.On, htyped.width, htyped.height]
    exact Place.ahead_on (Nat.zero_lt_of_lt hon.1) (Nat.zero_lt_of_lt hon.2) p k
  rw [List.take_add_one, hg, Option.toList_some, written_concat, shown_write htyped.cursor hplace,
    htyped.frame]

/-- From the `k`-th glyph on. -/
theorem written_latest (hs : b.screen.Addressable) (hat : b.At p) (hon : p.On b.screen)
    (glyphs : List Int32) {k : Nat} (hk : k ≤ glyphs.length) :
    ShowsLatest (glyphs.length - k) (fun j => p.ahead b.screen.width b.screen.height (k + j))
      (fun j => glyphs[k + j]?.map fun g => ⟨g, b.fg, b.bg⟩)
      (b.written (glyphs.take k)).screen.shown (b.written glyphs).screen.shown := by
  have hall : glyphs.take (k + (glyphs.length - k)) = glyphs := by
    rw [Nat.add_sub_cancel' hk, List.take_length]
  have hlatest := ShowsLatest.of_steps (glyphs.length - k)
    (fun j => p.ahead b.screen.width b.screen.height (k + j))
    (fun j => glyphs[k + j]?.map fun g => ⟨g, b.fg, b.bg⟩)
    fun j => (b.written (glyphs.take (k + j))).screen.shown
  rw [hall] at hlatest
  apply hlatest
  intro j hj q
  have hg : glyphs[k + j]? = some glyphs[k + j] := List.getElem?_eq_getElem (by omega)
  rw [hg]
  exact shown_written hs hat hon hg q

end Buffer

/-- **A text wraps at the right edge and stays in the last row.** On a buffer of any size, from any place
of it on: the cursor ends as many steps ahead as there are glyphs, and nothing but the cells and the
cursor has changed. Each glyph goes to a place of the screen, in the current colours, and changes no
other place. So each place shows the latest glyph that went there, and what it showed before if there is
none. From the glyph on that finds the cursor in the last row, the places come round again after each
full row, and no other row changes. -/
theorem Buffer.writes_wrap (b : Buffer) (size : Int64 × Int64) (p : Place) (glyphs : List Int32)
    (hsize : b.screen.Sized size) (hat : b.At p) (hon : p.On b.screen) :
    let spot (k : Nat) : Place :=
      ⟨(p.col + k) % b.screen.width,
        min (p.row + (p.col + k) / b.screen.width) (b.screen.height - 1)⟩
    (b.written glyphs).At (spot glyphs.length) ∧
    b.written glyphs =
      { b with
        screen := (b.written glyphs).screen
        col := (b.written glyphs).col, row := (b.written glyphs).row } ∧
    (b.written glyphs).screen.Sized size ∧
    (∀ k g, glyphs[k]? = some g → (spot k).On b.screen ∧
      ∀ q, (b.written (glyphs.take (k + 1))).screen.shown q =
        if q = spot k then some ⟨g, b.fg, b.bg⟩
        else (b.written (glyphs.take k)).screen.shown q) ∧
    ShowsLatest glyphs.length spot (fun k => glyphs[k]?.map fun g => ⟨g, b.fg, b.bg⟩)
      b.screen.shown (b.written glyphs).screen.shown ∧
    (∀ k ≤ glyphs.length, (b.written (glyphs.take k)).row.toInt = b.screen.height - 1 →
      (∀ j ≥ k, (spot j).row = b.screen.height - 1 ∧ spot (j + b.screen.width) = spot j) ∧
      ∀ q : Place, q.row ≠ b.screen.height - 1 →
        (b.written glyphs).screen.shown q = (b.written (glyphs.take k)).screen.shown q) := by
  intro spot
  have hs := hsize.addressable
  have htyped := written_typed hs hat hon glyphs
  have hplaces : ∀ k, (spot k).On b.screen :=
    Place.ahead_on (Nat.zero_lt_of_lt hon.1) (Nat.zero_lt_of_lt hon.2) p
  refine ⟨htyped.cursor, htyped.frame, ⟨htyped.width.trans hsize.width,
    htyped.height.trans hsize.height⟩, fun k g hg => ⟨hplaces k, shown_written hs hat hon hg⟩, ?_, ?_⟩
  · have hlatest := written_latest hs hat hon glyphs (Nat.zero_le _)
    simp only [Nat.zero_add, Nat.sub_zero, List.take_zero] at hlatest
    exact hlatest
  · intro k hk hrow
    have hcursor := written_typed hs hat hon (glyphs.take k)
    rw [List.length_take_of_le hk] at hcursor
    have hreached : (spot k).row = b.screen.height - 1 := by
      have hlast := hcursor.cursor.row
      have hpos := (hplaces k).2
      have hk' : (p.ahead b.screen.width b.screen.height k).row = (spot k).row := rfl
      omega
    have hstays : ∀ j ≥ k, (spot j).row = b.screen.height - 1 :=
      fun j hj => Place.ahead_last hreached hj
    refine ⟨fun j hj => ⟨hstays j hj, Place.ahead_round (hstays j hj)⟩, fun q hq => ?_⟩
    apply (written_latest hs hat hon glyphs hk).untouched q
    intro j hj hsame
    apply hq
    rw [← hsame]
    exact hstays (k + j) (Nat.le_add_right k j)

/-- Eight letters on three by two places, from the end of the first row on: the last row is written
more than twice. -/
theorem Buffer.writes_wrap_eight_letters :
    let b : Buffer := { Buffer.new 3 2 with col := 2, fg := .red }
    let letters : List Int32 := [65, 66, 67, 68, 69, 70, 71, 72]
    (b.screen.Sized (3, 2) ∧ b.At ⟨2, 0⟩ ∧ Place.On ⟨2, 0⟩ b.screen) ∧
      (b.written letters).At ⟨1, 1⟩ ∧
      (b.written letters).screen.shown ⟨2, 0⟩ = some ⟨65, .red, .default⟩ ∧
      (b.written letters).screen.shown ⟨0, 1⟩ = some ⟨72, .red, .default⟩ ∧
      (b.written letters).screen.shown ⟨1, 0⟩ = some .blank := by
  intro b letters
  have hsize : b.screen.Sized (3, 2) := ⟨rfl, rfl⟩
  have hat : b.At ⟨2, 0⟩ := ⟨rfl, rfl⟩
  have hon : Place.On ⟨2, 0⟩ b.screen := by decide
  obtain ⟨hcursor, -, -, -, hlatest, -⟩ := writes_wrap b (3, 2) ⟨2, 0⟩ letters hsize hat hon
  have hwidth : b.screen.width = 3 := by decide
  have hheight : b.screen.height = 2 := by decide
  simp only [hwidth, hheight] at hcursor hlatest
  refine ⟨⟨hsize, hat, hon⟩, by simpa [letters] using hcursor, ?_, ?_, ?_⟩
  · exact hlatest.latest 0 (by decide) (by decide)
  · exact hlatest.latest 7 (by decide) (by decide)
  · exact (hlatest.untouched ⟨1, 0⟩ (by decide)).trans (by decide)

end Screensaver
