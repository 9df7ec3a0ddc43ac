import Screensaver.Proofs.Strokes

/-! What a source can be made to draw.

A source draws the sums of the words at its two places, as the places move on. A ring that holds zeros
wherever the first place comes by draws the words that the second place passes (`next_primed`). With the
right words there it draws any numbers one likes, within the bounds they are asked for
(`exists_draws`). So nothing that is said of all numbers below their bounds is about numbers that never
come up. -/
namespace Screensaver.Random.Source

/-! ### Words -/

/-- Where the first place meets a zero, the ring stays as it is. -/
theorem next_of_zero (s : Source) (h : s.words.get (s.tap - 1) = 0) :
    s.next = (s.words.get (s.feed - 1), { s with tap := s.tap - 1, feed := s.feed - 1 }) := by
  have htap : s.words[s.tap - 1] = 0 := h
  have hfeed : s.words.get (s.feed - 1) = s.words[s.feed - 1] := rfl
  have hset : s.words.set (s.feed - 1).val s.words[s.feed - 1] = s.words :=
    Vector.set_getElem_self (s.feed - 1).isLt
  simp only [next, htap, UInt64.add_zero, hset, hfeed]

/-- A source whose next words are `f k`, `f (k + 1)` and so on: they lie in the way of the second place,
and there are zeros in the way of the first. -/
def primed (f : Nat → UInt64) (k : Nat) : Source where
  words := .ofFn fun i => if i.val < 334 then f (333 - i.val) else 0
  tap := ⟨(607 - k) % 607, Nat.mod_lt _ (by decide)⟩
  feed := ⟨334 - k, by omega⟩

theorem next_primed (f : Nat → UInt64) {k : Nat} (hk : k < 273) :
    (primed f k).next = (f k, primed f (k + 1)) := by
  have htap : (primed f k).tap - 1 = (primed f (k + 1)).tap := by
    apply Fin.ext
    rw [val_sub_one]
    show (606 + (607 - k) % 607) % 607 = (607 - (k + 1)) % 607
    omega
  have hfeed : (primed f k).feed - 1 = (primed f (k + 1)).feed := by
    apply Fin.ext
    rw [val_sub_one]
    show (606 + (334 - k)) % 607 = 334 - (k + 1)
    omega
  have hword (i : Fin 607) :
      (primed f k).words.get i = if i.val < 334 then f (333 - i.val) else 0 :=
    Vector.getElem_ofFn i.isLt
  have hzero : (primed f k).words.get ((primed f k).tap - 1) = 0 := by
    rw [hword, htap, if_neg]
    show ¬(607 - (k + 1)) % 607 < 334
    omega
  have hnext : (primed f k).words.get ((primed f k).feed - 1) = f k := by
    have hback : 333 - (334 - (k + 1)) = k := by omega
    rw [hword, hfeed, if_pos]
    · exact congrArg f hback
    · show 334 - (k + 1) < 334
      omega
  rw [next_of_zero _ hzero, hnext, htap, hfeed]
  rfl

/-! ### Numbers below a bound -/

/-- Every number below a bound is accepted at once. -/
theorem le_top {width v n : Nat} (hv : v < n) (hn : n ≤ 1 <<< width) : v ≤ top width n := by
  have hrest := mod_le_sub hn
  unfold top
  omega

/-- A word that is read as `v` where a number below `n` is drawn. -/
def wordFor (n v : Int64) : UInt64 :=
  .ofNat (v.toNatClampNeg <<< (63 - width n))

theorem toNatClampNeg_lt_of_lt {n v : Int64} (hv0 : 0 ≤ v) (hvn : v < n) :
    v.toNatClampNeg < n.toNatClampNeg := by
  have hv := Int64.cast_toNatClampNeg v hv0
  have hn := Int64.cast_toNatClampNeg n (Int64.le_trans hv0 (Int64.le_of_lt hvn))
  rw [Int64.lt_iff_toInt_lt] at hvn
  omega

theorem bits_wordFor {n v : Int64} (hv0 : 0 ≤ v) (hvn : v < n) :
    ((wordFor n v).toNat % 1 <<< 63) >>> (63 - width n) = v.toNatClampNeg := by
  have hlt := toNatClampNeg_lt_of_lt hv0 hvn
  have hle := toNatClampNeg_le_width (Int64.lt_of_le_of_lt hv0 hvn)
  have hpow : 2 ^ width n * 2 ^ (63 - width n) = 2 ^ 63 := by
    rw [← Nat.pow_add, Nat.add_sub_cancel' (width_le n)]
  have hshift : v.toNatClampNeg * 2 ^ (63 - width n) < 2 ^ 63 := by
    rw [← hpow]
    refine Nat.mul_lt_mul_of_pos_right ?_ (Nat.two_pow_pos _)
    rw [Nat.one_shiftLeft] at hle
    exact Nat.lt_of_lt_of_le hlt hle
  rw [wordFor, Nat.shiftLeft_eq, UInt64.toNat_ofNat_of_lt' (Nat.lt_trans hshift (by decide)),
    Nat.one_shiftLeft, Nat.mod_eq_of_lt hshift, Nat.shiftRight_eq_div_pow]
  exact Nat.mul_div_cancel _ (Nat.two_pow_pos _)

theorem below_primed (f : Nat → UInt64) {k : Nat} (hk : k < 273) {n v : Int64} (hv0 : 0 ≤ v)
    (hvn : v < n) (hf : f k = wordFor n v) :
    below n (primed f k) = .ok v (primed f (k + 1)) := by
  have hn : 0 < n := Int64.lt_of_le_of_lt hv0 hvn
  have hlt := toNatClampNeg_lt_of_lt hv0 hvn
  have hbits : (primed f k).bits (width n) = (v.toNatClampNeg, primed f (k + 1)) := by
    rw [← bits_wordFor hv0 hvn, ← hf, bits, next_primed f hk]
  obtain ⟨j, hbefore, -, hbelow⟩ := below_first hn (primed f k)
  have hfirst : (primed f k).number (width n) 0 = v.toNatClampNeg := congrArg Prod.fst hbits
  have hzero : j = 0 := by
    rcases Nat.eq_zero_or_pos j with hj | hj
    · exact hj
    · have hrejected := hbefore 0 hj
      rw [hfirst] at hrejected
      exact absurd (le_top hlt (toNatClampNeg_le_width hn)) (Nat.not_le.mpr hrejected)
  have hnext : (primed f k).after (0 + 1) = primed f (k + 1) := by
    rw [after, after, next_primed f hk]
  have hback : Int64.ofNat v.toNatClampNeg = v := by
    rw [← Int64.toInt_inj, Int64.toInt_ofNat_of_lt v.toNatClampNeg_lt,
      Int64.cast_toNatClampNeg v hv0]
  rw [hbelow, hzero, hfirst, Nat.mod_eq_of_lt hlt, hback, hnext]

/-- Draws one after the other, taken apart. -/
theorem mapM_below_cons {n v : Int64} {ns vs : List Int64} {s t : Source} :
    (n :: ns).mapM below s = .ok (v :: vs) t ↔
      ∃ u, below n s = .ok v u ∧ ns.mapM below u = .ok vs t := by
  rw [List.mapM_cons]
  constructor
  · intro h
    obtain ⟨a, u, ha, h⟩ := bind_eq_ok h
    obtain ⟨as, w, has, h⟩ := bind_eq_ok h
    cases h
    exact ⟨u, ha, has⟩
  · rintro ⟨u, hn, hns⟩
    rw [bind_ok hn, bind_ok hns]
    rfl

theorem mapM_below_primed (f : Nat → UInt64) (draws : List (Int64 × Int64)) (k : Nat)
    (hk : k + draws.length ≤ 273) (hdraws : ∀ d ∈ draws, 0 ≤ d.2 ∧ d.2 < d.1)
    (hf : ∀ i (h : i < draws.length), f (k + i) = wordFor draws[i].1 draws[i].2) :
    (draws.map Prod.fst).mapM below (primed f k) =
      .ok (draws.map Prod.snd) (primed f (k + draws.length)) := by
  induction draws generalizing k with
  | nil => rfl
  | cons d draws ih =>
    obtain ⟨hd0, hdn⟩ := hdraws d List.mem_cons_self
    rw [List.length_cons] at hk
    have hfirst : below d.1 (primed f k) = .ok d.2 (primed f (k + 1)) :=
      below_primed f (by omega) hd0 hdn (hf 0 (Nat.zero_lt_succ _))
    have hrest := ih (k + 1) (by omega) (fun e he => hdraws e (List.mem_cons_of_mem _ he)) (by
      intro i h
      have hi := hf (i + 1) (Nat.succ_lt_succ h)
      rw [Nat.add_assoc, Nat.add_comm 1 i]
      exact hi)
    rw [List.map_cons, List.map_cons, mapM_below_cons, List.length_cons, Nat.add_comm _ 1,
      ← Nat.add_assoc]
    exact ⟨primed f (k + 1), hfirst, hrest⟩

/-- Numbers that are drawn one after the other can be any numbers below their bounds. -/
theorem exists_draws (draws : List (Int64 × Int64)) (hlen : draws.length ≤ 273)
    (hdraws : ∀ d ∈ draws, 0 ≤ d.2 ∧ d.2 < d.1) :
    ∃ s t, (draws.map Prod.fst).mapM below s = .ok (draws.map Prod.snd) t := by
  refine ⟨_, _, mapM_below_primed (fun i => (draws[i]?).elim 0 fun d => wordFor d.1 d.2) draws 0
    (by omega) hdraws ?_⟩
  intro i h
  rw [Nat.zero_add, List.getElem?_eq_getElem h]
  rfl

end Screensaver.Random.Source
