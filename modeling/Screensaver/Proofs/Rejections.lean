import Mathlib.Algebra.Group.Nat.Defs
import Screensaver.Random

/-! Draws come to an end.

To draw a number below a bound, numbers of bits are drawn until one is not rejected. What is rejected
lies in the upper half of all numbers. A generator could be stuck there for ever; this one cannot.

Let the `gap` of a word be what its low 63 bits lack to the next power of two. A word that is rejected
has a gap of less than half, and two such words add up to one whose gap is the sum of theirs. Once the
places have gone around the ring with nothing but rejections, all its words are of this kind, so with
every further round of rejections the least gap of a word doubles (`gaps_double`). It starts at one and
cannot pass the half. So within `patience` draws a number is accepted (`exists_le_top`), and what a draw
gives is the remainder of the first one that is (`below_first`). -/
namespace Screensaver.Random.Source

/-! ### Words one after the other -/

/-- The source when so many words have been drawn. -/
def after (s : Source) : Nat → Source
  | 0 => s
  | k + 1 => (s.after k).next.2

/-- The words that a source draws, counted from zero. -/
def word (s : Source) (k : Nat) : UInt64 :=
  (s.after k).next.1

theorem after_add (s : Source) (k j : Nat) : s.after (k + j) = (s.after k).after j := by
  induction j with
  | zero => rfl
  | succ j ih => rw [← Nat.add_assoc, after, after, ih]

theorem word_add (s : Source) (k j : Nat) : s.word (k + j) = (s.after k).word j := by
  rw [word, after_add]
  rfl

theorem val_sub_one (i : Fin 607) : (i - 1).val = (606 + i.val) % 607 := by
  rw [Fin.sub_def]
  rfl

/-- The places of the ring that the second place comes by. -/
theorem val_feed_after (s : Source) (k : Nat) :
    (s.after k).feed.val = (s.feed.val + 606 * k) % 607 := by
  induction k with
  | zero => exact (Nat.mod_eq_of_lt s.feed.isLt).symm
  | succ k ih =>
    show ((s.after k).feed - 1).val = _
    rw [val_sub_one, ih]
    omega

/-- A word that is drawn takes the place of one of the two it is the sum of. -/
theorem get_after_succ (s : Source) (k : Nat) (i : Fin 607) :
    (s.after (k + 1)).words.get i =
      if i.val = (s.feed.val + 606 * (k + 1)) % 607 then s.word k else (s.after k).words.get i := by
  have hplace : ((s.after k).feed - 1).val = (s.feed.val + 606 * (k + 1)) % 607 :=
    s.val_feed_after (k + 1)
  show ((s.after k).words.set ((s.after k).feed - 1).val (s.word k))[i.val] = _
  rw [Vector.getElem_set, hplace]
  by_cases hi : i.val = (s.feed.val + 606 * (k + 1)) % 607
  · rw [if_pos hi, if_pos hi.symm]
  · rw [if_neg hi, if_neg (Ne.symm hi)]
    rfl

theorem exists_sum (s : Source) (k : Nat) :
    ∃ i j, s.word k = (s.after k).words.get i + (s.after k).words.get j :=
  ⟨(s.after k).feed - 1, (s.after k).tap - 1, rfl⟩

section Rounds
variable {P Q : UInt64 → Prop} {s : Source} (hall : ∀ i, P (s.words.get i))
  (hdrawn : ∀ k < 607, ∀ v w, P v → P w → s.word k = v + w → Q (s.word k))
  (hkind : ∀ w, Q w → P w)
include hall hdrawn hkind

/-- Within a round, all words are of the first kind, and those drawn are of the second. -/
theorem forall_within_round {j : Nat} (hj : j ≤ 607) :
    (∀ i, P ((s.after j).words.get i)) ∧
      ∀ k < j, ∀ i : Fin 607, i.val = (s.feed.val + 606 * (k + 1)) % 607 →
        Q ((s.after j).words.get i) := by
  induction j with
  | zero => exact ⟨hall, fun k hk => absurd hk (Nat.not_lt_zero k)⟩
  | succ j ih =>
    obtain ⟨hfirst, hsecond⟩ := ih (Nat.le_of_succ_le hj)
    have hword : Q (s.word j) := by
      obtain ⟨v, w, hsum⟩ := s.exists_sum j
      exact hdrawn j hj _ _ (hfirst v) (hfirst w) hsum
    refine ⟨fun i => ?_, fun k hk i hi => ?_⟩
    · rw [get_after_succ]
      split
      · exact hkind _ hword
      · exact hfirst i
    · rw [get_after_succ]
      split
      · exact hword
      · next hother =>
        have hk : k < j := by
          refine Nat.lt_of_le_of_ne (Nat.le_of_lt_succ hk) fun heq => ?_
          exact hother (heq ▸ hi)
        exact hsecond k hk i hi

/-- After a round all words are of the second kind, since the second place has come by all of them. -/
theorem forall_after_round (i : Fin 607) : Q ((s.after 607).words.get i) := by
  refine (forall_within_round hall hdrawn hkind (Nat.le_refl 607)).2
    ((s.feed.val + 606 - i.val) % 607) (Nat.mod_lt _ (by decide)) i ?_
  have hi := i.isLt
  have hfeed := s.feed.isLt
  omega

end Rounds

/-! ### Gaps -/

/-- What the low 63 bits of a word lack to the next power of two. -/
def gap (w : UInt64) : Nat :=
  0x8000000000000000 - w.toNat % 0x8000000000000000

/-- A word whose gap is less than half, and at least `m`. -/
structure Gapped (m : Nat) (w : UInt64) : Prop where
  least : m ≤ gap w
  less : gap w < 0x4000000000000000

theorem gap_pos (w : UInt64) : 1 ≤ gap w := by
  unfold gap
  omega

theorem gap_add {m : Nat} {v w : UInt64} (hv : Gapped m v) (hw : Gapped m w) :
    2 * m ≤ gap (v + w) := by
  obtain ⟨hvleast, hvless⟩ := hv
  obtain ⟨hwleast, hwless⟩ := hw
  unfold gap at *
  rw [UInt64.toNat_add]
  omega

/-- With each round of words whose gap is less than half, the least gap doubles. -/
theorem gaps_double {s : Source} {m : Nat} (hall : ∀ i, Gapped m (s.words.get i))
    (hless : ∀ k < 607, gap (s.word k) < 0x4000000000000000) (i : Fin 607) :
    Gapped (2 * m) ((s.after 607).words.get i) := by
  refine forall_after_round hall (fun k hk v w hv hw hsum => ⟨?_, hless k hk⟩)
    (fun w hw => ⟨Nat.le_trans (Nat.le_mul_of_pos_left m (by decide)) hw.least, hw.less⟩) i
  rw [hsum]
  exact gap_add hv hw

theorem gapped_after {s : Source} (r : Nat)
    (hless : ∀ k < 607 * (r + 1), gap (s.word k) < 0x4000000000000000) (i : Fin 607) :
    Gapped (2 ^ r) ((s.after (607 * (r + 1))).words.get i) := by
  induction r generalizing i with
  | zero =>
    exact forall_after_round (P := fun _ => True) (fun _ => trivial)
      (fun k hk _ _ _ _ _ => ⟨gap_pos _, hless k hk⟩) (fun _ _ => trivial) i
  | succ r ih =>
    have hbefore := ih fun k hk => hless k (by omega)
    have hround : ∀ k < 607, gap ((s.after (607 * (r + 1))).word k) < 0x4000000000000000 := by
      intro k hk
      rw [← word_add]
      exact hless _ (by omega)
    rw [Nat.pow_succ', Nat.mul_succ, after_add]
    exact gaps_double hbefore hround i

/-- Of so many words, one has a gap of half at least. -/
theorem exists_wide (s : Source) : ∃ k < patience, 0x4000000000000000 ≤ gap (s.word k) := by
  apply Classical.byContradiction
  intro hnone
  have hless : ∀ k < 607 * (62 + 1), gap (s.word k) < 0x4000000000000000 :=
    fun k hk => Nat.lt_of_not_le fun hle => hnone ⟨k, hk, hle⟩
  obtain ⟨hleast, hless⟩ := gapped_after 62 hless 0
  exact absurd hless (Nat.not_lt.mpr hleast)

/-! ### Numbers -/

/-- The numbers of bits that a source draws, counted from zero. -/
def number (s : Source) (width k : Nat) : Nat :=
  ((s.after k).bits width).1

theorem mod_le_sub {m n : Nat} (hle : n ≤ m) : m % n ≤ m - n := by
  rw [Nat.mod_eq_sub_mod hle]
  exact Nat.mod_le _ _

/-- A number that is rejected comes from a word whose gap is less than half. -/
theorem gap_of_rejected {width n : Nat} (hwidth : width ≤ 63) (hn : 0 < n) (hle : n ≤ 1 <<< width)
    {w : UInt64} (h : top width n < (w.toNat % 1 <<< 63) >>> (63 - width)) :
    gap w < 0x4000000000000000 := by
  have hrest := mod_le_sub hle
  have hfew := Nat.mod_lt (1 <<< width) hn
  rw [top, Nat.one_shiftLeft, Nat.one_shiftLeft, Nat.shiftRight_eq_div_pow] at *
  have hhalf : 2 ^ width < 2 * (w.toNat % 2 ^ 63 / 2 ^ (63 - width)) := by omega
  have hbits : w.toNat % 2 ^ 63 / 2 ^ (63 - width) * 2 ^ (63 - width) ≤ w.toNat % 2 ^ 63 :=
    Nat.div_mul_le_self _ _
  have hupper : 2 ^ 63 < 2 * (w.toNat % 2 ^ 63) := by
    calc 2 ^ 63 = 2 ^ width * 2 ^ (63 - width) := by rw [← Nat.pow_add, Nat.add_sub_cancel' hwidth]
      _ < 2 * (w.toNat % 2 ^ 63 / 2 ^ (63 - width)) * 2 ^ (63 - width) :=
        Nat.mul_lt_mul_of_pos_right hhalf (Nat.two_pow_pos _)
      _ ≤ 2 * (w.toNat % 2 ^ 63) := by
        rw [Nat.mul_assoc]
        exact Nat.mul_le_mul_left 2 hbits
  unfold gap
  omega

/-- A number is accepted before patience is at an end. -/
theorem exists_le_top {width n : Nat} (hwidth : width ≤ 63) (hn : 0 < n) (hle : n ≤ 1 <<< width)
    (s : Source) : ∃ k < patience, s.number width k ≤ top width n := by
  obtain ⟨k, hk, hwide⟩ := s.exists_wide
  refine ⟨k, hk, Nat.le_of_not_lt fun hrejected => ?_⟩
  exact absurd (gap_of_rejected hwidth hn hle hrejected) (Nat.not_lt.mpr hwide)

/-- If one of so many numbers is at most `top`, the first of them is taken. -/
theorem accepted_first {width n top tries : Nat} {s : Source}
    (h : ∃ k < tries, s.number width k ≤ top) :
    ∃ k, (∀ j < k, top < s.number width j) ∧ s.number width k ≤ top ∧
      accepted width n top tries s = (s.number width k % n, s.after (k + 1)) := by
  induction tries generalizing s with
  | zero =>
    obtain ⟨k, hk, -⟩ := h
    exact absurd hk (Nat.not_lt_zero k)
  | succ tries ih =>
    have hafter (k : Nat) : s.after (k + 1) = s.next.2.after k := by
      rw [Nat.add_comm, after_add]
      rfl
    have hnext (k : Nat) : s.number width (k + 1) = s.next.2.number width k := by
      rw [number, hafter]
      rfl
    by_cases hzero : s.number width 0 ≤ top
    · exact ⟨0, fun j hj => absurd hj (Nat.not_lt_zero j), hzero, if_pos hzero⟩
    · have hrest : ∃ k < tries, s.next.2.number width k ≤ top := by
        obtain ⟨k, hk, hle⟩ := h
        cases k with
        | zero => exact absurd hle hzero
        | succ k => exact ⟨k, Nat.lt_of_succ_lt_succ hk, hnext k ▸ hle⟩
      obtain ⟨k, hbefore, hle, haccepted⟩ := ih hrest
      refine ⟨k + 1, fun j hj => ?_, (hnext k).symm ▸ hle, ?_⟩
      · cases j with
        | zero => exact Nat.lt_of_not_le hzero
        | succ j =>
          rw [hnext]
          exact hbefore j (Nat.lt_of_succ_lt_succ hj)
      · rw [hnext, hafter]
        exact (if_neg hzero).trans haccepted

theorem width_le (n : Int64) : width n ≤ 63 := by
  unfold width
  split <;> decide

theorem toNatClampNeg_le_width {n : Int64} (hn : 0 < n) : n.toNatClampNeg ≤ 1 <<< width n := by
  have hcast := Int64.cast_toNatClampNeg n (Int64.le_of_lt hn)
  have hlt := n.toNatClampNeg_lt
  unfold width
  split
  · show n.toNatClampNeg ≤ 2147483648
    omega
  · exact Nat.le_of_lt hlt

/-- A number below a bound is the remainder of the first number of bits that is not rejected, and there
always is one. -/
theorem below_first {n : Int64} (hn : 0 < n) (s : Source) :
    ∃ k, (∀ j < k, top (width n) n.toNatClampNeg < s.number (width n) j) ∧
      s.number (width n) k ≤ top (width n) n.toNatClampNeg ∧
      below n s = .ok (.ofNat (s.number (width n) k % n.toNatClampNeg)) (s.after (k + 1)) := by
  have hpos : 0 < n.toNatClampNeg := (Int64.toNatClampNeg_pos_iff n).mpr hn
  obtain ⟨k, hbefore, hle, haccepted⟩ := accepted_first (n := n.toNatClampNeg)
    (s.exists_le_top (width_le n) hpos (toNatClampNeg_le_width hn))
  refine ⟨k, hbefore, hle, ?_⟩
  rw [below, if_neg (Int64.not_le.mpr hn), uniform, haccepted]

end Screensaver.Random.Source
