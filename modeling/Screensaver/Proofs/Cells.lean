import Screensaver.Buffer

/-! The cells of a screen, operation by operation.

A screen is known by its size and by `at?`, the cell in a column and a row. Filling and setting keep
the size, filling puts one cell everywhere (`at?_fill`), and setting changes the one cell it names, if
the screen has it (`at?_set`). Copying a row, and then row after row, changes the cells that both
screens have (`at?_copyRows`), so resizing gives the size asked for, keeps what both sizes have and is
blank elsewhere (`at?_resize`), also where nothing has to be copied because the size stays. A write on
a buffer keeps the size too (`write_frame`). -/
namespace Screensaver.Screen

/-! ### Sizes -/

@[simp] theorem width_fill (s : Screen) (c : Cell) : (s.fill c).width = s.width :=
  rfl

@[simp] theorem height_fill (s : Screen) (c : Cell) : (s.fill c).height = s.height :=
  rfl

theorem width_put (s : Screen) (i j : Nat) (c : Cell) : (s.put i j c).width = s.width := by
  unfold put
  split <;> rfl

theorem height_put (s : Screen) (i j : Nat) (c : Cell) : (s.put i j c).height = s.height := by
  unfold put
  split <;> rfl

@[simp] theorem width_set (s : Screen) (i j : Int64) (c : Cell) : (s.set i j c).width = s.width := by
  unfold set
  split
  · exact width_put s _ _ c
  · rfl

@[simp] theorem height_set (s : Screen) (i j : Int64) (c : Cell) :
    (s.set i j c).height = s.height := by
  unfold set
  split
  · exact height_put s _ _ c
  · rfl

/-! ### Cells -/

theorem at?_uniform (w h : Nat) (c : Cell) (x y : Nat) :
    (uniform w h c).at? x y = if x < w ∧ y < h then some c else none := by
  show ((Vector.ofFn fun _ : Fin h => Vector.replicate w c)[y]?.bind fun row => row[x]?) = _
  by_cases hy : y < h
  · rw [Vector.getElem?_eq_getElem hy]
    by_cases hx : x < w <;> simp [hy, hx]
  · simp [hy]

theorem at?_fill (s : Screen) (c : Cell) (x y : Nat) :
    (s.fill c).at? x y = if x < s.width ∧ y < s.height then some c else none :=
  at?_uniform s.width s.height c x y

theorem at?_put (s : Screen) (i j : Nat) (c : Cell) (x y : Nat) :
    (s.put i j c).at? x y =
      if x = i ∧ y = j ∧ i < s.width ∧ j < s.height then some c else s.at? x y := by
  unfold put
  split
  · next hj =>
    show ((s.rows.set j (s.rows[j].setIfInBounds i c))[y]?.bind fun row => row[x]?) = _
    by_cases hy : y = j
    · subst hy
      rw [Vector.getElem?_eq_getElem hj, Vector.getElem_set_self]
      simp only [at?, Vector.getElem?_eq_getElem hj, Option.bind_some, Vector.getElem?_setIfInBounds]
      by_cases hx : x = i
      · subst hx
        by_cases hw : x < s.width <;> simp [hw, hj]
      · simp [hx, Ne.symm hx]
    · rw [Vector.getElem?_set_ne hj (Ne.symm hy)]
      simp [hy, at?]
  · next hj => simp [hj]

theorem at?_eq_none (s : Screen) {x y : Nat} (h : ¬(x < s.width ∧ y < s.height)) :
    s.at? x y = none := by
  unfold at?
  by_cases hy : y < s.height
  · have hx : ¬x < s.width := fun hx => h ⟨hx, hy⟩
    simp [hy, Nat.not_lt.mp hx]
  · simp [Nat.not_lt.mp hy]

/-! ### Copying and resizing -/

/-- Mixing changes the first `n` entries and no other. -/
theorem getElem?_mixed {α β : Type} {k k' : Nat} (mix : α → β → α) (old : Vector α k)
    (source : Vector β k') (n : Nat) (h : n ≤ k) (h' : n ≤ k') (i : Nat) :
    (mixed mix old source n h h')[i]? =
      if i < n then old[i]?.bind fun a => source[i]?.map (mix a) else old[i]? := by
  induction n with
  | zero => rw [mixed, if_neg (Nat.not_lt_zero i)]
  | succ n ih =>
    have hdone := ih (Nat.le_of_succ_le h) (Nat.le_of_succ_le h')
    rw [mixed]
    by_cases hi : i = n
    · -- The entry that this round is about is still the old one.
      subst hi
      have hold : (mixed mix old source i (Nat.le_of_succ_le h) (Nat.le_of_succ_le h'))[i] = old[i] := by
        rw [if_neg (Nat.lt_irrefl i), Vector.getElem?_eq_getElem h, Vector.getElem?_eq_getElem h] at hdone
        exact Option.some.inj hdone
      rw [Vector.getElem?_set_self, hold, if_pos (Nat.lt_succ_self i), Vector.getElem?_eq_getElem h,
        Vector.getElem?_eq_getElem h']
      rfl
    · rw [Vector.getElem?_set_ne _ (Ne.symm hi), hdone]
      congr 1
      apply propext
      omega

theorem getElem?_copyRow {w w' : Nat} (row : Vector Cell w) (source : Vector Cell w') (x : Nat) :
    (copyRow row source)[x]? = if x < w then (source[x]? <|> row[x]?) else none := by
  simp only [copyRow, getElem?_mixed, Nat.lt_min]
  by_cases hx : x < w
  · by_cases hx' : x < w' <;> simp [hx, hx']
  · simp [hx]

/-- Copying changes the cells that both screens have. -/
theorem at?_copyRows (t s : Screen) (x y : Nat) :
    (t.copyRows s).at? x y =
      if x < t.width ∧ y < t.height then (s.at? x y <|> t.at? x y) else none := by
  show ((mixed copyRow t.rows s.rows _ _ _)[y]?.bind fun row => row[x]?) = _
  rw [getElem?_mixed]
  simp only [Nat.lt_min]
  by_cases hy : y < t.height
  · by_cases hy' : y < s.height
    · simp [at?, getElem?_copyRow, hy, hy']
    · by_cases hx : x < t.width <;> simp [at?, hx, hy, hy']
  · simp [hy]

theorem width_resize (s : Screen) (w h : Int64) : (s.resize w h).width = extent w := by
  unfold resize
  dsimp only
  split
  · next hsame => exact hsame.1.symm
  · rfl

theorem height_resize (s : Screen) (w h : Int64) : (s.resize w h).height = extent h := by
  unfold resize
  dsimp only
  split
  · next hsame => exact hsame.2.symm
  · rfl

/-- A cell that only the new size has is blank. -/
theorem at?_resize (s : Screen) (w h : Int64) (x y : Nat) :
    (s.resize w h).at? x y =
      if x < extent w ∧ y < extent h then some ((s.at? x y).getD .blank) else none := by
  unfold resize
  dsimp only
  split
  · next hsame =>
    rw [hsame.1, hsame.2]
    split
    · next hinside => simp [at?, hinside.1, hinside.2]
    · next houtside => exact at?_eq_none s houtside
  · have hblank : (allocated (extent w) (extent h)).clear.at? x y =
        if x < extent w ∧ y < extent h then some .blank else none := at?_uniform _ _ _ x y
    rw [at?_copyRows, hblank]
    show (if x < extent w ∧ y < extent h then _ else none) = _
    split
    · cases s.at? x y <;> rfl
    · rfl

/-- Setting changes the cell it names and no other; a place that is not on the screen, also one with
a negative coordinate, names none. -/
theorem at?_set (s : Screen) (i j : Int64) (c : Cell) (x y : Nat) :
    (s.set i j c).at? x y =
      if (x : Int) = i.toInt ∧ (y : Int) = j.toInt ∧ x < s.width ∧ y < s.height then some c
      else s.at? x y := by
  have hzero : (0 : Int64).toInt = 0 := rfl
  unfold set
  split
  · next h =>
    have hi := Int64.cast_toNatClampNeg i h.1
    have hj := Int64.cast_toNatClampNeg j h.2
    rw [at?_put]
    congr 1
    apply propext
    constructor
    · rintro ⟨rfl, rfl, hx, hy⟩
      exact ⟨hi, hj, hx, hy⟩
    · rintro ⟨hxi, hyj, hx, hy⟩
      have hx' : x = i.toNatClampNeg := by omega
      have hy' : y = j.toNatClampNeg := by omega
      exact ⟨hx', hy', hx' ▸ hx, hy' ▸ hy⟩
  · next h =>
    rw [if_neg]
    rintro ⟨hxi, hyj, -, -⟩
    apply h
    rw [Int64.le_iff_toInt_le, Int64.le_iff_toInt_le, hzero]
    omega

end Screensaver.Screen

namespace Screensaver.Buffer

theorem advance_frame (b : Buffer) :
    b.advance = { b with col := b.advance.col, row := b.advance.row } := by
  unfold advance
  dsimp only
  split <;> rfl

/-- A write moves the cursor and changes the cells, but not how many there are. -/
theorem write_frame (b : Buffer) (g : Int32) :
    (b.write g).screen.width = b.screen.width ∧ (b.write g).screen.height = b.screen.height ∧
      (b.write g).pending = b.pending := by
  unfold write advance
  dsimp only
  split <;> simp

end Screensaver.Buffer
