import Mathlib.Data.List.Induction
import Screensaver.Proofs.Cells

/-! A screen shows what was last put at each place.

A screen can be made anew, resized, set cell by cell, filled and cleared, in any order and with any
arguments. `Edit.leaves?` says which places an edit touches and what it leaves there; a resize touches
what it cuts off and what it adds, and nothing else. `screen_shows_latest` says that this is all there
is to know: the size is the one last asked for, and each place on the screen shows what the latest edit
to touch it has left, which is `latest?`. What a chain of resizes keeps follows, and it is never more
than what all of its sizes have. -/
namespace Screensaver

/-! ### Places -/

/-- The place lies on a screen of the size asked for. If either extent is not positive, none does. -/
def Inside (size : Int64 × Int64) (x y : Int64) : Prop :=
  (0 ≤ x ∧ x < size.1) ∧ 0 ≤ y ∧ y < size.2

instance (size : Int64 × Int64) (x y : Int64) : Decidable (Inside size x y) :=
  inferInstanceAs (Decidable ((0 ≤ x ∧ x < size.1) ∧ 0 ≤ y ∧ y < size.2))

/-- The place lies inside each of the sizes. -/
def InsideAll (sizes : List (Int64 × Int64)) (x y : Int64) : Prop :=
  ∀ size ∈ sizes, Inside size x y

instance (sizes : List (Int64 × Int64)) (x y : Int64) : Decidable (InsideAll sizes x y) :=
  List.decidableBAll (fun size => Inside size x y) sizes

theorem insideAll_cons {size : Int64 × Int64} {sizes : List (Int64 × Int64)} {x y : Int64} :
    InsideAll (size :: sizes) x y ↔ Inside size x y ∧ InsideAll sizes x y :=
  List.forall_mem_cons

theorem toNatClampNeg_lt_extent {x n : Int64} (hx : 0 ≤ x) : x.toNatClampNeg < extent n ↔ x < n := by
  have hcast := Int64.cast_toNatClampNeg x hx
  rw [extent, Int64.lt_iff_toInt_lt]
  omega

theorem inside_iff (size : Int64 × Int64) {x y : Int64} (hx : 0 ≤ x) (hy : 0 ≤ y) :
    Inside size x y ↔ x.toNatClampNeg < extent size.1 ∧ y.toNatClampNeg < extent size.2 := by
  rw [toNatClampNeg_lt_extent hx, toNatClampNeg_lt_extent hy, Inside]
  exact ⟨fun h => ⟨h.1.2, h.2.2⟩, fun h => ⟨⟨hx, h.1⟩, hy, h.2⟩⟩

namespace Screen
variable {s : Screen} {size : Int64 × Int64} {x y : Int64}

/-- The screen has the size asked for. -/
structure Sized (s : Screen) (size : Int64 × Int64) : Prop where
  width : s.width = extent size.1
  height : s.height = extent size.2

theorem isSome_at? (s : Screen) (i j : Nat) : (s.at? i j).isSome ↔ i < s.width ∧ j < s.height := by
  constructor
  · intro hsome
    by_contra hout
    rw [s.at?_eq_none hout] at hsome
    cases hsome
  · rintro ⟨hi, hj⟩
    simp [at?, hi, hj]

theorem get_inside (s : Screen) (h : Inside size x y) :
    s.get x y = (s.at? x.toNatClampNeg y.toNatClampNeg).getD .blank :=
  if_pos ⟨h.1.1, h.2.1⟩

theorem Sized.get_outside (hs : s.Sized size) (h : ¬Inside size x y) : s.get x y = .blank := by
  unfold get
  split
  · next hpos =>
    rw [inside_iff size hpos.1 hpos.2, ← hs.width, ← hs.height] at h
    rw [s.at?_eq_none h]
    rfl
  · rfl

theorem Sized.get_fill (hs : s.Sized size) (c : Cell) (h : Inside size x y) :
    (s.fill c).get x y = c := by
  have hin := (inside_iff size h.1.1 h.2.1).mp h
  rw [← hs.width, ← hs.height] at hin
  rw [get_inside _ h, at?_fill, if_pos hin]
  rfl

theorem new_sized (w h : Int64) : (new w h).Sized (w, h) :=
  ⟨rfl, rfl⟩

theorem get_new (w h x y : Int64) : (new w h).get x y = .blank := by
  by_cases hin : Inside (w, h) x y
  · exact (new_sized w h).get_fill .blank hin
  · exact (new_sized w h).get_outside hin

theorem Sized.set (hs : s.Sized size) (i j : Int64) (c : Cell) : (s.set i j c).Sized size :=
  ⟨(width_set s i j c).trans hs.width, (height_set s i j c).trans hs.height⟩

theorem Sized.get_set (hs : s.Sized size) (i j : Int64) (c : Cell) (x y : Int64) :
    (s.set i j c).get x y = if (i = x ∧ j = y) ∧ Inside size x y then c else s.get x y := by
  by_cases h : Inside size x y
  · have hin := (inside_iff size h.1.1 h.2.1).mp h
    rw [← hs.width, ← hs.height] at hin
    have hx := Int64.cast_toNatClampNeg x h.1.1
    have hy := Int64.cast_toNatClampNeg y h.2.1
    rw [get_inside _ h, get_inside _ h, at?_set]
    by_cases hat : i = x ∧ j = y
    · obtain ⟨rfl, rfl⟩ := hat
      rw [if_pos ⟨hx, hy, hin⟩, if_pos ⟨⟨rfl, rfl⟩, h⟩]
      rfl
    · have hother : ¬((x.toNatClampNeg : Int) = i.toInt ∧ (y.toNatClampNeg : Int) = j.toInt ∧
          x.toNatClampNeg < s.width ∧ y.toNatClampNeg < s.height) := by
        rintro ⟨hxi, hyj, -⟩
        exact hat ⟨Int64.toInt_inj.mp (hxi.symm.trans hx), Int64.toInt_inj.mp (hyj.symm.trans hy)⟩
      rw [if_neg hother, if_neg fun hc => hat hc.1]
  · rw [(hs.set i j c).get_outside h, hs.get_outside h, if_neg fun hc => h hc.2]

theorem resize_sized (s : Screen) (w h : Int64) : (s.resize w h).Sized (w, h) :=
  ⟨width_resize s w h, height_resize s w h⟩

/-- What lies inside the new size is what was there before, which is a blank if it lay outside the
old one. -/
theorem get_resize (s : Screen) (w h x y : Int64) :
    (s.resize w h).get x y = if Inside (w, h) x y then s.get x y else .blank := by
  by_cases hin : Inside (w, h) x y
  · rw [if_pos hin, get_inside _ hin, get_inside _ hin, at?_resize,
      if_pos ((inside_iff (w, h) hin.1.1 hin.2.1).mp hin)]
    rfl
  · rw [if_neg hin]
    exact (resize_sized s w h).get_outside hin

end Screen

/-! ### Edits -/

/-- What is done to a screen. -/
inductive Edit where
  /-- A new screen takes the place of the old one. -/
  | renew (width height : Int64)
  | resize (width height : Int64)
  | set (x y : Int64) (c : Cell)
  | fill (c : Cell)
  | clear
deriving DecidableEq

namespace Edit

def perform : Edit → Screen → Screen
  | .renew w h, _ => .new w h
  | .resize w h, s => s.resize w h
  | .set x y c, s => s.set x y c
  | .fill c, s => s.fill c
  | .clear, s => s.clear

/-- The screen after edits, the first one first. -/
def performAll : List Edit → Screen → Screen
  | [], s => s
  | e :: rest, s => performAll rest (e.perform s)

theorem performAll_append (es fs : List Edit) (s : Screen) :
    performAll (es ++ fs) s = performAll fs (performAll es s) := by
  induction es generalizing s with
  | nil => rfl
  | cons e rest ih => exact ih (e.perform s)

/-- The size that an edit asks for. -/
def request? : Edit → Option (Int64 × Int64)
  | .renew w h | .resize w h => some (w, h)
  | _ => none

/-- What an edit leaves at a place of a screen that has the given size; nothing if it does not touch
the place. -/
def leaves? (size : Int64 × Int64) (x y : Int64) : Edit → Option Cell
  | .renew _ _ => some .blank
  | .resize w h => if Inside size x y ∧ Inside (w, h) x y then none else some .blank
  | .set i j c => if (i = x ∧ j = y) ∧ Inside size x y then some c else none
  | .fill c => some c
  | .clear => some .blank

/-! ### Histories, the latest edit first -/

/-- The size last asked for. -/
def lastSize (history : List Edit) : Int64 × Int64 :=
  (history.findSome? request?).getD (0, 0)

/-- What the latest edit to touch a place has left there. -/
def latest? (x y : Int64) : List Edit → Option Cell
  | [] => none
  | e :: earlier => (e.leaves? (lastSize earlier) x y).or (latest? x y earlier)

theorem lastSize_cons (e : Edit) (earlier : List Edit) :
    lastSize (e :: earlier) = e.request?.getD (lastSize earlier) := by
  unfold lastSize
  rw [List.findSome?_cons]
  cases e.request? <;> rfl

/-! ### Single edits -/

section Steps
variable {s : Screen} {size : Int64 × Int64} {x y : Int64}

theorem perform_sized (hs : s.Sized size) (e : Edit) : (e.perform s).Sized (e.request?.getD size) := by
  cases e with
  | renew w h => exact Screen.new_sized w h
  | resize w h => exact Screen.resize_sized s w h
  | set i j c => exact hs.set i j c
  | fill c => exact ⟨hs.width, hs.height⟩
  | clear => exact ⟨hs.width, hs.height⟩

/-- Of the places that are on the screen afterwards, an edit changes those it touches and no other. -/
theorem get_perform (hs : s.Sized size) (e : Edit) (h : Inside (e.request?.getD size) x y) :
    (e.perform s).get x y = (e.leaves? size x y).getD (s.get x y) := by
  cases e with
  | renew w k => exact Screen.get_new w k x y
  | resize w k =>
    have hnew : Inside (w, k) x y := h
    rw [perform, Screen.get_resize, if_pos hnew]
    by_cases hold : Inside size x y
    · rw [leaves?, if_pos ⟨hold, hnew⟩]
      rfl
    · rw [leaves?, if_neg fun hc => hold hc.1, hs.get_outside hold]
      rfl
  | set i j c =>
    rw [perform, hs.get_set, leaves?]
    split <;> rfl
  | fill c => exact hs.get_fill c h
  | clear => exact hs.get_fill .blank h

/-- A place that an edit has not touched was on the screen before. -/
theorem inside_of_leaves?_eq_none {e : Edit} (h : Inside (e.request?.getD size) x y)
    (hnone : e.leaves? size x y = none) : Inside size x y := by
  cases e with
  | resize w k =>
    rw [leaves?] at hnone
    by_contra hout
    rw [if_neg fun hc => hout hc.1] at hnone
    cases hnone
  | set i j c => exact h
  | renew w k => cases hnone
  | fill c => cases hnone
  | clear => cases hnone

end Steps

/-! ### Whole histories -/

/-- The edits so far, the latest first, of a screen that was made new and then edited. -/
def historyOf (w h : Int64) (es : List Edit) : List Edit :=
  (.renew w h :: es).reverse

theorem historyOf_concat (w h : Int64) (es : List Edit) (e : Edit) :
    historyOf w h (es ++ [e]) = e :: historyOf w h es := by
  simp [historyOf]

theorem performAll_sized (w h : Int64) (es : List Edit) :
    (performAll es (.new w h)).Sized (lastSize (historyOf w h es)) := by
  induction es using List.reverseRecOn with
  | nil => exact Screen.new_sized w h
  | append_singleton es e ih =>
    rw [performAll_append, historyOf_concat, lastSize_cons]
    exact perform_sized ih e

theorem latest?_historyOf (w h : Int64) (es : List Edit) {x y : Int64}
    (hin : Inside (lastSize (historyOf w h es)) x y) :
    latest? x y (historyOf w h es) = some ((performAll es (.new w h)).get x y) := by
  induction es using List.reverseRecOn with
  | nil => exact congrArg some (Screen.get_new w h x y).symm
  | append_singleton es e ih =>
    rw [historyOf_concat, lastSize_cons] at hin
    rw [historyOf_concat, latest?, performAll_append]
    show _ = some ((e.perform (performAll es (.new w h))).get x y)
    rw [get_perform (performAll_sized w h es) e hin]
    cases hleft : e.leaves? (lastSize (historyOf w h es)) x y with
    | some c => rfl
    | none => exact ih (inside_of_leaves?_eq_none hin hleft)

/-- Resizing to one size after another. -/
def resizes (sizes : List (Int64 × Int64)) : List Edit :=
  sizes.map fun size => .resize size.1 size.2

theorem get_resizes (sizes : List (Int64 × Int64)) (s : Screen) (x y : Int64) :
    (performAll (resizes sizes) s).get x y =
      if InsideAll sizes x y then s.get x y else .blank := by
  induction sizes generalizing s with
  | nil => simp [resizes, performAll, InsideAll]
  | cons size rest ih =>
    show (performAll (resizes rest) (s.resize size.1 size.2)).get x y = _
    rw [ih, Screen.get_resize]
    simp only [insideAll_cons]
    by_cases hfirst : Inside size x y
    · simp only [hfirst, true_and, if_true]
    · simp only [hfirst, false_and, if_false, ite_self]

end Edit

/-- **A screen shows the latest edit at each place.** Whatever is done to a screen that was made new:
it has the size last asked for, a negative extent counting as none, and stores that many rows of that
many cells, so that exactly the places inside that size find a cell. Each of them shows what the latest
edit to touch it has left, and all others show blanks. Of what a screen shows, a chain of resizes keeps
what lies inside every size of the chain, and everything else is blank from then on. -/
theorem screen_shows_latest (w h : Int64) (es : List Edit) :
    let s := Edit.performAll es (.new w h)
    let size := Edit.lastSize (Edit.historyOf w h es)
    ((s.width : Int) = max size.1.toInt 0 ∧ (s.height : Int) = max size.2.toInt 0) ∧
    (s.rows.toList.length = s.height ∧ ∀ row ∈ s.rows.toList, row.toList.length = s.width) ∧
    (∀ i j : Nat, (s.at? i j).isSome ↔ i < s.width ∧ j < s.height) ∧
    (∀ x y, Inside size x y →
      Edit.latest? x y (Edit.historyOf w h es) = some (s.get x y)) ∧
    (∀ x y, ¬Inside size x y → s.get x y = .blank) ∧
    ∀ (sizes : List (Int64 × Int64)) (x y : Int64),
      (Edit.performAll (Edit.resizes sizes) s).get x y =
        if Inside size x y ∧ InsideAll sizes x y then s.get x y else .blank := by
  intro s size
  have hs : s.Sized size := Edit.performAll_sized w h es
  refine ⟨⟨?_, ?_⟩, ⟨by simp, by simp⟩, fun i j => ?_, fun x y hin => Edit.latest?_historyOf w h es hin,
    fun x y hout => hs.get_outside hout, fun sizes x y => ?_⟩
  · rw [hs.width, extent]
    omega
  · rw [hs.height, extent]
    omega
  · exact s.isSome_at? i j
  · rw [Edit.get_resizes]
    by_cases hin : Inside size x y
    · simp only [hin, true_and]
    · simp only [hin, false_and, hs.get_outside hin, ite_self]

-- A cell that was cut off is not brought back by growing again.
example : Edit.latest? 1 0
    (Edit.historyOf 2 1 [.set 1 0 ⟨65, .red, .default⟩, .resize 1 1, .resize 2 1]) = some .blank := by
  decide

end Screensaver
