import Screensaver.Proofs.Coverage

/-! What a rectangle contains, whether its edges wrap around or not.

A rectangle is two axes, each with a start and a length. What lies on an axis is what lies between the
start and the end that their sum comes out as in 64 bits (`span`), and that need not be where the length
leads to: past the greatest number the sum comes out low, and past the least number high.

Whether a rectangle counts as empty is read off its lengths, and what it contains off its edges. So the
two agree where no edge wraps around, and elsewhere they need not (`contains_settled`). -/
namespace Screensaver

/-! ### An axis -/

/-- What lies between the start of an axis and its end, as that comes out in 64 bits. -/
def span (start length : Int64) : Set Int64 :=
  {c | start ≤ c ∧ c < start + length}

/-- The length leads past the greatest number. -/
def WrapsUp (start length : Int64) : Prop :=
  0x8000000000000000 ≤ start.toInt + length.toInt

/-- The length leads past the least number. -/
def WrapsDown (start length : Int64) : Prop :=
  start.toInt + length.toInt < -0x8000000000000000

/-- The length is positive and does not lead past the greatest number, or it is negative and leads past
the least. -/
def AxisOpen (start length : Int64) : Prop :=
  0 < length.toInt ∧ start.toInt + length.toInt ≤ 0x7FFFFFFFFFFFFFFF ∨
    length.toInt < 0 ∧ start.toInt + length.toInt < -0x8000000000000000

section Axis
variable {start length : Int64}

theorem mem_span {c : Int64} :
    c ∈ span start length ↔ start.toInt ≤ c.toInt ∧ c.toInt < (start + length).toInt := by
  show start ≤ c ∧ c < start + length ↔ _
  rw [Int64.le_iff_toInt_le, Int64.lt_iff_toInt_lt]

theorem toInt_add_of_wrapsUp (h : WrapsUp start length) :
    (start + length).toInt = start.toInt + length.toInt - 0x10000000000000000 := by
  have hstart := start.toInt_lt
  have hlength := length.toInt_lt
  unfold WrapsUp at h
  rw [Int64.toInt_add, ← Int.sub_bmod_right]
  exact Int.bmod_eq_of_le (by omega) (by omega)

theorem toInt_add_of_wrapsDown (h : WrapsDown start length) :
    (start + length).toInt = start.toInt + length.toInt + 0x10000000000000000 := by
  have hstart := start.le_toInt
  have hlength := length.le_toInt
  unfold WrapsDown at h
  rw [Int64.toInt_add, ← Int.add_bmod_right]
  exact Int.bmod_eq_of_le (by omega) (by omega)

/-- The end is where the length leads to, unless that is out of range. -/
theorem toInt_add_eq_iff : (start + length).toInt = start.toInt + length.toInt ↔
    ¬WrapsUp start length ∧ ¬WrapsDown start length := by
  constructor
  · intro h
    refine ⟨fun hup => ?_, fun hdown => ?_⟩
    · have := toInt_add_of_wrapsUp hup
      omega
    · have := toInt_add_of_wrapsDown hdown
      omega
  · rintro ⟨hup, hdown⟩
    unfold WrapsUp at hup
    unfold WrapsDown at hdown
    exact toInt_add_of_fits (by omega) (by omega)

/-- Without wrapping around, what lies on an axis are as many coordinates as it is long. -/
theorem span_eq_coordinates (h : (start + length).toInt = start.toInt + length.toInt) :
    span start length = coordinates start length := by
  ext c
  rw [mem_span, h]
  rfl

theorem ncard_span (h : (start + length).toInt = start.toInt + length.toInt) :
    (span start length).ncard = length.toInt.toNat := by
  rw [span_eq_coordinates h, ← (bijOn_coordinates h).ncard_eq, ncard_numbersBelow]

/-- Something lies on an axis if its end comes out after its start, and then the start does. -/
theorem span_nonempty_iff_lt : (span start length).Nonempty ↔ start.toInt < (start + length).toInt := by
  constructor
  · rintro ⟨c, hc⟩
    obtain ⟨hlo, hhi⟩ := mem_span.mp hc
    omega
  · exact fun h => ⟨start, mem_span.mpr ⟨Int.le_refl _, h⟩⟩

theorem span_nonempty_iff : (span start length).Nonempty ↔ AxisOpen start length := by
  have hstart := start.toInt_lt
  have hlength := length.toInt_lt
  have hstart' := start.le_toInt
  have hlength' := length.le_toInt
  rw [span_nonempty_iff_lt]
  -- Past either limit, and between the two, the end is known as an integer.
  by_cases hup : WrapsUp start length
  · rw [toInt_add_of_wrapsUp hup]
    unfold WrapsUp at hup
    unfold AxisOpen
    omega
  · by_cases hdown : WrapsDown start length
    · rw [toInt_add_of_wrapsDown hdown]
      unfold WrapsDown at hdown
      unfold AxisOpen
      omega
    · rw [toInt_add_eq_iff.mpr ⟨hup, hdown⟩]
      unfold WrapsUp at hup
      unfold WrapsDown at hdown
      unfold AxisOpen
      omega

namespace AxisOpen

/-- A positive length keeps an open axis in range. -/
theorem toInt_add_of_pos (h : AxisOpen start length) (hpos : 0 < length.toInt) :
    (start + length).toInt = start.toInt + length.toInt := by
  have hstart := start.le_toInt
  refine toInt_add_of_fits (by omega) ?_
  rcases h with ⟨-, hle⟩ | ⟨hneg, -⟩ <;> omega

/-- An open axis without a positive length is one that wraps around downwards. -/
theorem wrapsDown_iff (h : AxisOpen start length) : WrapsDown start length ↔ length.toInt ≤ 0 := by
  have hstart := start.le_toInt
  unfold WrapsDown
  rcases h with ⟨hpos, -⟩ | ⟨hneg, hless⟩ <;> omega

end AxisOpen

/-- Without wrapping around, an axis is open if its length is positive. -/
theorem axisOpen_iff_pos (h : (start + length).toInt = start.toInt + length.toInt) :
    AxisOpen start length ↔ 0 < length.toInt := by
  rw [← span_nonempty_iff, span_nonempty_iff_lt, h]
  omega

end Axis

/-! ### Rectangles -/

namespace Rect

/-- The points of a rectangle. -/
def points (r : Rect) : Set (Int64 × Int64) :=
  {p | r.contains p.1 p.2 = true}

variable (r : Rect)

theorem points_eq : r.points = span r.x r.w ×ˢ span r.y r.h := by
  ext ⟨px, py⟩
  show r.contains px py = true ↔ (r.x ≤ px ∧ px < r.right) ∧ (r.y ≤ py ∧ py < r.bottom)
  simp only [contains, Bool.and_eq_true, decide_eq_true_eq, and_assoc]

/-- A rectangle contains a point just if both of its axes are open. -/
theorem exists_contains_iff :
    (∃ px py, r.contains px py = true) ↔ AxisOpen r.x r.w ∧ AxisOpen r.y r.h := by
  rw [← span_nonempty_iff, ← span_nonempty_iff, ← Set.prod_nonempty_iff, ← points_eq]
  exact ⟨fun ⟨px, py, h⟩ => ⟨(px, py), h⟩, fun ⟨p, h⟩ => ⟨p.1, p.2, h⟩⟩

theorem contains_nothing_iff :
    (∀ px py, r.contains px py = false) ↔ ¬(AxisOpen r.x r.w ∧ AxisOpen r.y r.h) := by
  rw [← exists_contains_iff]
  simp only [not_exists, Bool.not_eq_true]

theorem isEmpty_iff : r.isEmpty = true ↔ r.w.toInt ≤ 0 ∨ r.h.toInt ≤ 0 := by
  have hzero : (0 : Int64).toInt = 0 := rfl
  rw [isEmpty, Bool.or_eq_true, decide_eq_true_eq, decide_eq_true_eq, Int64.le_iff_toInt_le,
    Int64.le_iff_toInt_le, hzero]

namespace Unwrapped
variable {r} (h : r.Unwrapped)
include h

theorem contains_iff (px py : Int64) : r.contains px py = true ↔
    (r.x.toInt ≤ px.toInt ∧ px.toInt < r.x.toInt + r.w.toInt) ∧
      (r.y.toInt ≤ py.toInt ∧ py.toInt < r.y.toInt + r.h.toInt) := by
  have hmem : (px, py) ∈ r.points ↔ (px, py) ∈ coordinates r.x r.w ×ˢ coordinates r.y r.h := by
    rw [points_eq, span_eq_coordinates h.right, span_eq_coordinates h.bottom]
  exact hmem

theorem ncard_points : (r.points.ncard : Int) = max r.w.toInt 0 * max r.h.toInt 0 := by
  rw [points_eq, Set.ncard_prod, ncard_span h.right, ncard_span h.bottom, Int.natCast_mul,
    Int.ofNat_toNat, Int.ofNat_toNat]

/-- A rectangle whose edges do not wrap around counts as empty just if it contains nothing. -/
theorem isEmpty_iff_contains_nothing : r.isEmpty = true ↔ ∀ px py, r.contains px py = false := by
  rw [contains_nothing_iff, axisOpen_iff_pos h.right, axisOpen_iff_pos h.bottom, isEmpty_iff]
  omega

end Unwrapped

/-- Lengths that are positive and lead to some point lead to no edge that wraps around. -/
theorem unwrapped_of_contains (hsize : r.isEmpty = false)
    (hopen : AxisOpen r.x r.w ∧ AxisOpen r.y r.h) : r.Unwrapped := by
  have hpos : ¬(r.w.toInt ≤ 0 ∨ r.h.toInt ≤ 0) := by
    rw [← isEmpty_iff, hsize]
    exact Bool.false_ne_true
  exact ⟨hopen.1.toInt_add_of_pos (by omega), hopen.2.toInt_add_of_pos (by omega)⟩

/-- **What a rectangle contains.** If neither edge wraps around, a rectangle contains the points that lie
between its edges as integers, as many of them as its width times its height (where a negative length
counts as none), and it counts as empty just if it contains none. Whether or not an edge wraps around, it
contains a point just if both of its axes are open. So a rectangle that does not count as empty contains
nothing once an edge wraps around, and one that counts as empty contains points just if both axes are
open and one of them wraps around downwards. -/
theorem contains_settled :
    (r.Unwrapped →
      (∀ px py, r.contains px py = true ↔
        (r.x.toInt ≤ px.toInt ∧ px.toInt < r.x.toInt + r.w.toInt) ∧
          (r.y.toInt ≤ py.toInt ∧ py.toInt < r.y.toInt + r.h.toInt)) ∧
      (r.points.ncard : Int) = max r.w.toInt 0 * max r.h.toInt 0 ∧
      (r.isEmpty = true ↔ ∀ px py, r.contains px py = false)) ∧
    ((∃ px py, r.contains px py = true) ↔ AxisOpen r.x r.w ∧ AxisOpen r.y r.h) ∧
    (r.isEmpty = false → ¬r.Unwrapped → ∀ px py, r.contains px py = false) ∧
    (r.isEmpty = true ∧ (∃ px py, r.contains px py = true) ↔
      (AxisOpen r.x r.w ∧ AxisOpen r.y r.h) ∧ (WrapsDown r.x r.w ∨ WrapsDown r.y r.h)) := by
  refine ⟨fun h => ⟨h.contains_iff, h.ncard_points, h.isEmpty_iff_contains_nothing⟩,
    r.exists_contains_iff, fun hsize hwraps => ?_, ?_⟩
  · rw [contains_nothing_iff]
    exact fun hopen => hwraps (r.unwrapped_of_contains hsize hopen)
  · rw [exists_contains_iff, isEmpty_iff, and_comm]
    refine and_congr_right fun ⟨hx, hy⟩ => ?_
    rw [hx.wrapsDown_iff, hy.wrapsDown_iff]

/-- The edges of one rectangle are in range, those of the next lead past the greatest number, and the
width of the last is negative and leads past the least. -/
theorem contains_settled_three :
    ((⟨-3, 5, 4, 2⟩ : Rect).points.ncard : Int) = 8 ∧
    (∀ px py, (⟨9223372036854775800, 0, 8, 1⟩ : Rect).contains px py = false) ∧
    (⟨-9223372036854775808, 0, -1, 1⟩ : Rect).isEmpty = true ∧
    ∃ px py, (⟨-9223372036854775808, 0, -1, 1⟩ : Rect).contains px py = true := by
  obtain ⟨hinside, -⟩ := contains_settled ⟨-3, 5, 4, 2⟩
  obtain ⟨-, -, hpast, -⟩ := contains_settled ⟨9223372036854775800, 0, 8, 1⟩
  obtain ⟨-, -, -, hbelow⟩ := contains_settled ⟨-9223372036854775808, 0, -1, 1⟩
  refine ⟨(hinside ⟨by decide, by decide⟩).2.1, hpast (by decide) fun h => ?_,
    hbelow.mpr ⟨⟨.inr (by decide), .inl (by decide)⟩, .inl ?_⟩⟩
  · exact absurd h.right (by decide)
  · unfold WrapsDown
    decide

end Rect

end Screensaver
