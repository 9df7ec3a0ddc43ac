import Mathlib.Data.List.Forall2
import Mathlib.Data.List.OfFn
import Mathlib.Data.List.SplitBy
import Screensaver.Styled

/-! A row is written in as few swatches as its colours allow.

A row falls into pieces, and each piece has one pair of colours. There are many ways to cut a row like
this, down to single cells. `Groups` asks for more: no piece is empty, and neighbouring pieces differ in
a colour, so that no two of them could be one. `stretches` finds such a cut in one pass from left to
right. Each piece takes its first cell, whatever that is, and then all that follow in the same colours;
since it takes a cell, the rest of the row is shorter.

Two facts about this pass carry the rest. What a piece of one pair of colours begins, the pass
completes (`stretches_append`), so a cut with `Groups` is the one that the pass finds. And the pass
needs no more pieces for a row without its first cells of one pair of colours
(`length_stretches_dropWhile`), so by induction over any cut it never needs more pieces than that cut. -/
namespace Screensaver

/-! ### Characters -/

/-- The character that is shown for a cell: the one that has its code, and a replacement character if
there is none. -/
def Cell.Shows (c : Cell) (char : Char) : Prop :=
  (char.toNat : Int) = c.glyph.toInt ∨
    (char = '\uFFFD' ∧ ∀ d : Char, (d.toNat : Int) ≠ c.glyph.toInt)

theorem Cell.shows_charOf (c : Cell) : c.Shows (Styled.charOf c.glyph) := by
  unfold Shows Styled.charOf
  split
  · next h =>
    refine .inl ?_
    rw [← Int32.cast_toNatClampNeg c.glyph h.1, Char.ofNat, dif_pos h.2]
    rfl
  · next h =>
    refine .inr ⟨rfl, fun d hd => h ?_⟩
    have hpos : 0 ≤ c.glyph := Int32.le_iff_toInt_le.mpr (hd ▸ Int.natCast_nonneg d.toNat)
    have hcast := Int32.cast_toNatClampNeg c.glyph hpos
    have hcode : c.glyph.toNatClampNeg = d.toNat := by omega
    exact ⟨hpos, hcode ▸ d.valid⟩

namespace Styled

/-! ### Pieces -/

/-- Neighbouring cells, and the two colours in which they are written. -/
structure Piece where
  fg : Color
  bg : Color
  cells : List Cell

/-- Whether a cell has these two colours. -/
def colored (fg bg : Color) (c : Cell) : Bool :=
  c.fg = fg && c.bg = bg

theorem colored_iff {fg bg : Color} {c : Cell} :
    colored fg bg c = true ↔ c.fg = fg ∧ c.bg = bg := by
  simp [colored]

namespace Piece

/-- All its cells have the colours of the piece. -/
def Uniform (p : Piece) : Prop :=
  ∀ c ∈ p.cells, c.fg = p.fg ∧ c.bg = p.bg

/-- Two pieces that cannot be one. -/
def Differs (p q : Piece) : Prop :=
  p.fg ≠ q.fg ∨ p.bg ≠ q.bg

/-- The text is written for the piece: the characters of its cells, in order and in its colours. -/
def Writes (pen : Style → String → String) (p : Piece) (text : String) : Prop :=
  ∃ chars : List Char, List.Forall₂ Cell.Shows p.cells chars ∧
    text = swatch pen (.ofList chars) p.fg p.bg

theorem Uniform.colored {p : Piece} (h : p.Uniform) {c : Cell} (hc : c ∈ p.cells) :
    colored p.fg p.bg c = true :=
  colored_iff.2 (h c hc)

/-- No cell of a piece has the colours of a piece that differs from it. -/
theorem Differs.not_colored {p q : Piece} (h : p.Differs q) (hq : q.Uniform) {c : Cell}
    (hc : c ∈ q.cells) : ¬ Styled.colored p.fg p.bg c = true := by
  intro hp
  obtain ⟨hfg, hbg⟩ := colored_iff.1 hp
  obtain ⟨hfg', hbg'⟩ := hq c hc
  rcases h with h | h
  · exact h (hfg.symm.trans hfg')
  · exact h (hbg.symm.trans hbg')

end Piece

/-- The row falls into these pieces, from left to right, and each has one pair of colours. -/
structure Splits (row : List Cell) (pieces : List Piece) : Prop where
  joins : pieces.flatMap Piece.cells = row
  uniform : ∀ p ∈ pieces, p.Uniform

/-- The pieces are as long as they can be. -/
structure Groups (row : List Cell) (pieces : List Piece) : Prop extends Splits row pieces where
  nonempty : ∀ p ∈ pieces, p.cells ≠ []
  maximal : pieces.IsChain Piece.Differs

/-- What follows the first piece falls into the other ones. -/
theorem Splits.tail {row : List Cell} {p : Piece} {pieces : List Piece}
    (h : Splits row (p :: pieces)) : Splits (pieces.flatMap Piece.cells) pieces where
  joins := rfl
  uniform q hq := h.uniform q (List.mem_cons_of_mem _ hq)

theorem Groups.tail {row : List Cell} {p : Piece} {pieces : List Piece}
    (h : Groups row (p :: pieces)) : Groups (pieces.flatMap Piece.cells) pieces where
  toSplits := h.toSplits.tail
  nonempty q hq := h.nonempty q (List.mem_cons_of_mem _ hq)
  maximal := h.maximal.tail

/-! ### One pass over a row -/

/-- The first cell and all that follow in the same colours, and then the rest of the row likewise. -/
def stretches (row : List Cell) : List Piece :=
  match row with
  | [] => []
  | c :: rest =>
    ⟨c.fg, c.bg, c :: rest.takeWhile (colored c.fg c.bg)⟩ ::
      stretches (rest.dropWhile (colored c.fg c.bg))
termination_by row.length
decreasing_by
  have hrest := (List.dropWhile_suffix (l := rest) (colored c.fg c.bg)).length_le
  simp only [List.length_cons]
  omega

/-- The next piece begins where the colours change. -/
theorem differs_of_mem_head? {p q : Piece} {rest : List Cell}
    (hq : q ∈ (stretches (rest.dropWhile (colored p.fg p.bg))).head?) : p.Differs q := by
  have hfirst := List.head?_dropWhile_not (colored p.fg p.bg) rest
  cases hrest : rest.dropWhile (colored p.fg p.bg) with
  | nil => simp [hrest, stretches] at hq
  | cons d ds =>
    rw [hrest] at hfirst
    have hd : ¬ (d.fg = p.fg ∧ d.bg = p.bg) := by
      rw [← colored_iff, Bool.not_eq_true]
      exact hfirst
    rw [hrest, stretches, List.head?_cons, Option.mem_some_iff] at hq
    subst hq
    by_cases hfg : d.fg = p.fg
    · exact .inr fun hbg => hd ⟨hfg, hbg.symm⟩
    · exact .inl fun h => hfg h.symm

theorem stretches_groups (row : List Cell) : Groups row (stretches row) := by
  fun_induction stretches row with
  | case1 => exact ⟨⟨rfl, by simp⟩, by simp, .nil⟩
  | case2 c rest ih =>
    refine ⟨⟨?_, ?_⟩, ?_, ?_⟩
    · rw [List.flatMap_cons, ih.joins, List.cons_append, List.takeWhile_append_dropWhile]
    · refine List.forall_mem_cons.2 ⟨fun d hd => ?_, ih.uniform⟩
      rcases List.mem_cons.1 hd with rfl | hd
      · exact ⟨rfl, rfl⟩
      · exact colored_iff.1 (List.all_eq_true.1 List.all_takeWhile d hd)
    · exact List.forall_mem_cons.2 ⟨List.cons_ne_nil _ _, ih.nonempty⟩
    · exact List.isChain_cons.2 ⟨fun q hq => differs_of_mem_head? hq, ih.maximal⟩

/-- A piece that begins a row goes on as far as its colours reach. -/
theorem stretches_append {p : Piece} (huniform : p.Uniform) (hcells : p.cells ≠ [])
    (rest : List Cell) :
    stretches (p.cells ++ rest) =
      ⟨p.fg, p.bg, p.cells ++ rest.takeWhile (colored p.fg p.bg)⟩ ::
        stretches (rest.dropWhile (colored p.fg p.bg)) := by
  obtain ⟨fg, bg, cells⟩ := p
  cases cells with
  | nil => exact absurd rfl hcells
  | cons c cells =>
    obtain ⟨rfl, rfl⟩ := huniform c List.mem_cons_self
    have hall : ∀ d ∈ cells, colored c.fg c.bg d = true :=
      fun d hd => huniform.colored (List.mem_cons_of_mem c hd)
    rw [List.cons_append, stretches, List.takeWhile_append_of_pos hall,
      List.dropWhile_append_of_pos hall, List.cons_append]

/-! ### No other way to group a row -/

/-- After the first piece the row does not go on in its colours. -/
theorem Groups.first_ends {row : List Cell} {p : Piece} {pieces : List Piece}
    (h : Groups row (p :: pieces)) :
    (pieces.flatMap Piece.cells).takeWhile (colored p.fg p.bg) = [] ∧
      (pieces.flatMap Piece.cells).dropWhile (colored p.fg p.bg) =
        pieces.flatMap Piece.cells := by
  cases pieces with
  | nil => exact ⟨rfl, rfl⟩
  | cons q pieces =>
    have hdiffers : p.Differs q := (List.isChain_cons_cons.1 h.maximal).1
    have hq : q.Uniform := h.uniform q (by simp)
    obtain ⟨d, ds, hcells⟩ := List.exists_cons_of_ne_nil (h.nonempty q (by simp))
    have hd : ¬ colored p.fg p.bg d = true := hdiffers.not_colored hq (by simp [hcells])
    rw [List.flatMap_cons, hcells, List.cons_append]
    exact ⟨List.takeWhile_cons_of_neg hd, List.dropWhile_cons_of_neg hd⟩

theorem Groups.eq_stretches {row : List Cell} {pieces : List Piece} (h : Groups row pieces) :
    pieces = stretches row := by
  induction pieces generalizing row with
  | nil => rw [← h.joins, List.flatMap_nil, stretches]
  | cons p pieces ih =>
    obtain ⟨htake, hdrop⟩ := h.first_ends
    rw [← h.joins, List.flatMap_cons,
      stretches_append (h.uniform p List.mem_cons_self) (h.nonempty p List.mem_cons_self),
      htake, hdrop, List.append_nil, ← ih h.tail]

/-! ### No shorter way to split a row -/

/-- A row needs no more pieces without its first cells of one pair of colours. -/
theorem length_stretches_dropWhile (fg bg : Color) (row : List Cell) :
    (stretches (row.dropWhile (colored fg bg))).length ≤ (stretches row).length := by
  cases row with
  | nil => exact Nat.le_refl _
  | cons c rest =>
    by_cases hc : colored fg bg c = true
    · obtain ⟨rfl, rfl⟩ := colored_iff.1 hc
      rw [List.dropWhile_cons_of_pos hc, stretches.eq_def (c :: rest), List.length_cons]
      exact Nat.le_succ _
    · rw [List.dropWhile_cons_of_neg hc]

theorem Splits.length_stretches_le {row : List Cell} {pieces : List Piece}
    (h : Splits row pieces) : (stretches row).length ≤ pieces.length := by
  induction pieces generalizing row with
  | nil => simp [← h.joins, stretches]
  | cons p pieces ih =>
    have htail := ih h.tail
    rw [← h.joins, List.flatMap_cons, List.length_cons]
    by_cases hcells : p.cells = []
    · rw [hcells, List.nil_append]
      exact Nat.le_succ_of_le htail
    · rw [stretches_append (h.uniform p List.mem_cons_self) hcells, List.length_cons]
      exact Nat.succ_le_succ ((length_stretches_dropWhile _ _ _).trans htail)

/-! ### Written rows and screens -/

/-- To compare with a cell of a piece is to compare with the piece. -/
theorem Piece.Uniform.sameColors_eq {p : Piece} (h : p.Uniform) {a : Cell} (ha : a ∈ p.cells)
    (b : Cell) : sameColors a b = Styled.colored p.fg p.bg b := by
  obtain ⟨hfg, hbg⟩ := h a ha
  simp [sameColors, Styled.colored, hfg, hbg, eq_comm]

theorem Piece.Uniform.isChain {p : Piece} (h : p.Uniform) :
    p.cells.IsChain fun a b => sameColors a b = true := by
  apply List.Pairwise.isChain
  apply List.pairwise_of_forall_mem_list
  intro a ha b hb
  rw [h.sameColors_eq ha]
  exact h.colored hb

/-- The pass finds the stretches that are written. -/
theorem Groups.runs_eq {row : List Cell} {pieces : List Piece} (h : Groups row pieces) :
    runs row = pieces.map Piece.cells := by
  rw [runs, ← h.joins, List.flatMap_def]
  apply List.splitBy_flatten
  · intro hmem
    obtain ⟨p, hp, hcells⟩ := List.mem_map.1 hmem
    exact h.nonempty p hp hcells
  · intro cells hmem
    obtain ⟨p, hp, rfl⟩ := List.mem_map.1 hmem
    exact (h.uniform p hp).isChain
  · rw [List.isChain_map]
    refine h.maximal.imp_of_mem_imp fun p q hp hq hdiffers => ?_
    refine ⟨h.nonempty p hp, h.nonempty q hq, ?_⟩
    rw [(h.uniform p hp).sameColors_eq (List.getLast_mem _), ← Bool.not_eq_true]
    exact hdiffers.not_colored (h.uniform q hq) (List.head_mem _)

section
variable (pen : Style → String → String)

theorem Piece.Uniform.writes {p : Piece} (h : p.Uniform) (hcells : p.cells ≠ []) :
    p.Writes pen (renderRun pen p.cells) := by
  obtain ⟨c, cells, hp⟩ := List.exists_cons_of_ne_nil hcells
  obtain ⟨hfg, hbg⟩ := h c (by simp [hp])
  refine ⟨p.cells.map fun c => charOf c.glyph, ?_, ?_⟩
  · exact List.forall₂_map_right_iff.2 (List.forall₂_same.2 fun c _ => c.shows_charOf)
  · rw [← hfg, ← hbg, hp]
    rfl

/-- Each stretch of a row is written for the piece that it is. -/
theorem Groups.writes {row : List Cell} {pieces : List Piece} (h : Groups row pieces) :
    List.Forall₂ (Piece.Writes pen) pieces ((runs row).map (renderRun pen)) := by
  rw [h.runs_eq, List.map_map]
  exact List.forall₂_map_right_iff.2 (List.forall₂_same.2 fun p hp =>
    (h.uniform p hp).writes pen (h.nonempty p hp))

/-- A screen is written row by row. -/
theorem renderScreen_eq (s : Screen) :
    renderScreen pen s =
      String.intercalate "\n" (List.ofFn fun y => renderRow pen s.rows[y].toList) := by
  rw [renderScreen]
  congr 1
  apply List.ext_getElem
  · simp
  · intro y hy hy'
    simp

end

/-- Only the newlines between them are left of empty lines. -/
theorem intercalate_replicate_empty (n : Nat) :
    String.intercalate "\n" (List.replicate n "") = String.ofList (List.replicate (n - 1) '\n') := by
  apply String.toList_injective
  rw [String.toList_intercalate, List.map_replicate]
  induction n with
  | zero => rfl
  | succ n ih =>
    cases n with
    | zero => rfl
    | succ n =>
      rw [List.replicate_succ, List.replicate_succ, List.intercalate_cons_cons,
        ← List.replicate_succ, ih]
      simp [List.replicate_succ]

/-- The text of a screen is made of its rows, one on each line. A row is cut into pieces of one pair of
colours that are not empty and differ from their neighbours, and each piece is written as one swatch,
whose text is made of the characters of its cells. There is only one such cut, and no cut of the row
into pieces of one pair of colours has fewer pieces. Without rows there is no text, and without columns
there are only the newlines between the rows. All this holds whatever pen is used. -/
theorem screen_grouped (pen : Style → String → String) (s : Screen) :
    ∃ (pieces : Fin s.height → List Piece) (swatches : Fin s.height → List String),
      renderScreen pen s = String.intercalate "\n" (List.ofFn fun y => String.join (swatches y)) ∧
        (∀ y, List.Forall₂ (Piece.Writes pen) (pieces y) (swatches y)) ∧
        (∀ y, Groups s.rows[y].toList (pieces y)) ∧
        (∀ y other, Groups s.rows[y].toList other → other = pieces y) ∧
        (∀ y other, Splits s.rows[y].toList other → (pieces y).length ≤ other.length) ∧
        (s.height = 0 → renderScreen pen s = "") ∧
        (s.width = 0 → renderScreen pen s = String.ofList (List.replicate (s.height - 1) '\n')) := by
  refine ⟨fun y => stretches s.rows[y].toList, fun y => (runs s.rows[y].toList).map (renderRun pen),
    renderScreen_eq pen s, fun y => (stretches_groups _).writes pen, fun y => stretches_groups _,
    fun y other h => h.eq_stretches, fun y other h => h.length_stretches_le, ?_, ?_⟩
  · intro hheight
    rw [renderScreen_eq, List.ofFn_eq_nil_iff.2 hheight]
    rfl
  · intro hwidth
    have hrow : ∀ y : Fin s.height, renderRow pen s.rows[y].toList = "" := by
      intro y
      have hcells : s.rows[y].toList = [] := List.eq_nil_of_length_eq_zero (by simp [hwidth])
      rw [hcells]
      rfl
    simp only [renderScreen_eq, hrow, List.ofFn_const, intercalate_replicate_empty]

end Styled

end Screensaver
