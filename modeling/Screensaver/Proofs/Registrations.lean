import Mathlib.Data.List.Induction
import Mathlib.Data.List.Pairwise
import Screensaver.Backends
import Screensaver.Proofs.Steps

/-! Registering backends, over any number of calls.

Calls to register come one after the other, each on the registry that the one before has left behind. A
call either succeeds and adds its backend at the end, or raises a fault and has changed nothing by then
(`attempt_error`). `registrations_settled` says what that makes of the whole: a call
succeeds just if it has a name and a runner and no call before it has taken the name; a name leads to
the backend of the call that has taken it; and the list has one entry for each name taken, in the order
of the bytes.

Distinct names can be put in order in one way only (`eq_list`). So it does not show in the list in which
order the successful calls were made, in which order the backends were gone through to make it, or
how they were sorted. -/
namespace Screensaver

/-! ### The list of a registry -/

namespace Registry
variable {ρ : Type} {r : Registry ρ}

/-- No two backends have the same name. -/
def Distinct (r : Registry ρ) : Prop :=
  r.backends.Pairwise fun a b => a.name ≠ b.name

/-- What the list says of a backend. -/
def entry (b : Backend ρ) : ByteText × ByteText :=
  (b.name, b.description)

theorem register_some (name description : ByteText) (runner : ρ) (r : Registry ρ) :
    register name description (some runner) r =
      if name.isEmpty then .error (.raised "registry: backend needs a name and a runner") r
      else if (r.find? name).isSome then
        .error (.raised ("registry: backend " ++ name.quoted ++ " already registered")) r
      else .ok () ⟨r.backends ++ [⟨name, description, runner⟩]⟩ := by
  unfold register
  cases name.isEmpty with
  | true => rfl
  | false =>
    refine (bind_ok (get_ok r)).trans ?_
    cases (r.find? name).isSome <;> rfl

theorem find?_eq_none {name : ByteText} : r.find? name = none ↔ ∀ b ∈ r.backends, b.name ≠ name := by
  simp [find?]

theorem Distinct.eq_of_name (h : r.Distinct) {a b : Backend ρ} (ha : a ∈ r.backends)
    (hb : b ∈ r.backends) (hname : a.name = b.name) : a = b := by
  have : Std.Symm fun a b : Backend ρ => a.name ≠ b.name := ⟨fun _ _ hne => hne.symm⟩
  by_contra hne
  exact h.forall ha hb hne hname

theorem found {name : ByteText} {b : Backend ρ} (h : r.find? name = some b) :
    b ∈ r.backends ∧ b.name = name :=
  ⟨List.mem_of_find?_eq_some h, by simpa using List.find?_some h⟩

theorem Distinct.find?_eq_some (h : r.Distinct) {name : ByteText} {b : Backend ρ} :
    r.find? name = some b ↔ b ∈ r.backends ∧ b.name = name := by
  refine ⟨found, fun ⟨hmem, hname⟩ => ?_⟩
  cases hfind : r.find? name with
  | none => exact absurd hname (find?_eq_none.mp hfind b hmem)
  | some a =>
    obtain ⟨ha, haname⟩ := found hfind
    rw [h.eq_of_name ha hmem (haname.trans hname.symm)]

theorem nameLE_iff {a b : ByteText} : nameLE a b = true ↔ a.bytes ≤ b.bytes := by
  rw [nameLE, Bool.not_eq_true', decide_eq_false_iff_not, List.not_lt]

theorem list_perm (r : Registry ρ) : r.list.Perm (r.backends.map entry) :=
  List.mergeSort_perm _ _

theorem list_sorted (r : Registry ρ) :
    r.list.Pairwise fun a b => a.1.bytes ≤ b.1.bytes := by
  have hsorted : r.list.Pairwise fun a b => nameLE a.1 b.1 = true := by
    refine List.pairwise_mergeSort (fun a b c hab hbc => ?_) (fun a b => ?_) _
    · rw [nameLE_iff] at hab hbc ⊢
      exact List.le_trans hab hbc
    · rw [Bool.or_eq_true, nameLE_iff, nameLE_iff]
      exact List.le_total _ _
  exact hsorted.imp nameLE_iff.mp

theorem Distinct.entries (h : r.Distinct) {x y : ByteText × ByteText} (hx : x ∈ r.backends.map entry)
    (hy : y ∈ r.backends.map entry) (hname : x.1 = y.1) : x = y := by
  obtain ⟨a, ha, rfl⟩ := List.mem_map.mp hx
  obtain ⟨b, hb, rfl⟩ := List.mem_map.mp hy
  rw [h.eq_of_name ha hb hname]

/-- However the entries are arranged, in order they are the list. -/
theorem Distinct.eq_list (h : r.Distinct) {entries : List (ByteText × ByteText)}
    (hperm : entries.Perm (r.backends.map entry))
    (hsorted : entries.Pairwise fun a b => a.1.bytes ≤ b.1.bytes) : entries = r.list := by
  refine List.Perm.eq_of_pairwise (fun x y hx hy hxy hyx => ?_) hsorted r.list_sorted
    (hperm.trans r.list_perm.symm)
  exact h.entries (hperm.mem_iff.mp hx) (r.list_perm.mem_iff.mp hy)
    (congrArg ByteText.mk (List.le_antisymm hxy hyx))

/-- The order in which the backends are gone through makes no difference to the list. -/
theorem Distinct.list_of_perm (h : r.Distinct) {order : List (Backend ρ)}
    (hperm : order.Perm r.backends) : (⟨order⟩ : Registry ρ).list = r.list :=
  h.eq_list ((list_perm _).trans (hperm.map entry)) (list_sorted _)

theorem Distinct.list_increasing (h : r.Distinct) :
    r.list.Pairwise fun a b => a.1.bytes < b.1.bytes := by
  have hnames : r.list.Pairwise fun a b => a.1 ≠ b.1 :=
    (r.list_perm.pairwise_iff fun hxy => hxy.symm).mpr (List.pairwise_map.mpr h)
  refine (r.list_sorted.and hnames).imp fun ⟨hle, hne⟩ => ?_
  rw [← List.not_le]
  exact fun hge => hne (congrArg ByteText.mk (List.le_antisymm hle hge))

theorem Distinct.mem_list (h : r.Distinct) {name description : ByteText} :
    (name, description) ∈ r.list ↔ ∃ b, r.get name = .ok b ∧ b.description = description := by
  have hget : ∀ b, r.get name = .ok b ↔ r.find? name = some b := by
    intro b
    unfold get
    cases r.find? name <;> simp
  simp only [r.list_perm.mem_iff, List.mem_map, hget, h.find?_eq_some, entry, Prod.mk.injEq]
  constructor
  · rintro ⟨b, hmem, hname, hdescription⟩
    exact ⟨b, ⟨hmem, hname⟩, hdescription⟩
  · rintro ⟨b, ⟨hmem, hname⟩, hdescription⟩
    exact ⟨b, hmem, hname, hdescription⟩

end Registry

/-! ### Calls -/

/-- A call to register a backend. It may come without a runner. -/
structure Registration (ρ : Type) where
  name : ByteText
  description : ByteText
  runner : Option ρ

namespace Registration
variable {ρ : Type}

/-- Makes the call. -/
def attempt (c : Registration ρ) : EStateM Fault (Registry ρ) Unit :=
  Registry.register c.name c.description c.runner

/-- The registry that a call leaves behind. -/
def after (r : Registry ρ) (c : Registration ρ) : Registry ρ :=
  leftBehind (c.attempt r)

/-- The registry after calls in order. -/
def registry (calls : List (Registration ρ)) : Registry ρ :=
  calls.foldl after .empty

/-- The call succeeds when it is made after these. -/
def Succeeds (before : List (Registration ρ)) (c : Registration ρ) : Prop :=
  ∃ r, c.attempt (registry before) = .ok () r

/-- The calls that succeed on a registry and what becomes of it. -/
def successesFrom (r : Registry ρ) : List (Registration ρ) → List (Registration ρ)
  | [] => []
  | c :: rest =>
    match c.attempt r with
    | .ok _ r => c :: successesFrom r rest
    | .error _ r => successesFrom r rest

/-- The calls that succeed. -/
def successes (calls : List (Registration ρ)) : List (Registration ρ) :=
  successesFrom .empty calls

/-- The backend that a call is about, if it has a name and a runner. -/
def backend? (c : Registration ρ) : Option (Backend ρ) :=
  if c.name.isEmpty then none
  else c.runner.map fun runner => { name := c.name, description := c.description, runner }

theorem backend?_eq_some {c : Registration ρ} {b : Backend ρ} :
    c.backend? = some b ↔
      c.name.bytes ≠ [] ∧ ∃ runner, c.runner = some runner ∧ ⟨c.name, c.description, runner⟩ = b := by
  unfold backend? ByteText.isEmpty
  split <;> simp_all

theorem name_of_backend? {c : Registration ρ} {b : Backend ρ} (h : c.backend? = some b) :
    b.name = c.name := by
  obtain ⟨-, runner, -, rfl⟩ := backend?_eq_some.mp h
  rfl

/-- What a call does: it adds its backend if the name is new, and else it fails before it has changed
anything. -/
theorem attempt_cases (c : Registration ρ) (r : Registry ρ) :
    (∃ b, c.backend? = some b ∧ r.find? c.name = none ∧ c.attempt r = .ok () ⟨r.backends ++ [b]⟩) ∨
      (c.backend? = none ∨ r.find? c.name ≠ none) ∧ ∃ f, c.attempt r = .error f r := by
  unfold attempt backend?
  cases c.runner with
  | none =>
    refine .inr ⟨.inl ?_, _, rfl⟩
    split <;> rfl
  | some runner =>
    rw [Registry.register_some]
    cases c.name.isEmpty with
    | true => exact .inr ⟨.inl rfl, _, rfl⟩
    | false =>
      cases r.find? c.name with
      | none => exact .inl ⟨_, rfl, rfl, rfl⟩
      | some b => exact .inr ⟨.inr (Option.some_ne_none b), _, rfl⟩

/-- A call that succeeds adds its backend, whose name is new. -/
theorem attempt_eq_ok {c : Registration ρ} {r r' : Registry ρ} :
    c.attempt r = .ok () r' ↔
      ∃ b, c.backend? = some b ∧ r.find? c.name = none ∧ ⟨r.backends ++ [b]⟩ = r' := by
  obtain ⟨b, hb, hfind, hok⟩ | ⟨hwhy, f, herror⟩ := attempt_cases c r
  · simp [hb, hfind, hok]
  · rw [herror]
    simp only [reduceCtorEq, false_iff]
    rintro ⟨b, hb, hfind, -⟩
    simp [hb, hfind] at hwhy

theorem attempt_error {c : Registration ρ} {r r' : Registry ρ} {f : Fault}
    (h : c.attempt r = .error f r') : r' = r := by
  obtain ⟨b, -, -, hok⟩ | ⟨-, f', herror⟩ := attempt_cases c r
  · rw [hok] at h
    cases h
  · rw [herror] at h
    cases h
    rfl

/-! ### One call after another -/

theorem registry_concat (calls : List (Registration ρ)) (c : Registration ρ) :
    registry (calls ++ [c]) = after (registry calls) c := by
  rw [registry, List.foldl_append]
  rfl

theorem successesFrom_append (r : Registry ρ) (as bs : List (Registration ρ)) :
    successesFrom r (as ++ bs) = successesFrom r as ++ successesFrom (as.foldl after r) bs := by
  induction as generalizing r with
  | nil => rfl
  | cons c rest ih =>
    simp only [List.cons_append, successesFrom, List.foldl_cons, after]
    cases c.attempt r with
    | ok _ r' => exact congrArg (c :: ·) (ih r')
    | error e r' => exact ih r'

theorem successes_concat (calls : List (Registration ρ)) (c : Registration ρ) :
    successes (calls ++ [c]) = successes calls ++ successesFrom (registry calls) [c] :=
  successesFrom_append _ _ _

section Step
variable {calls : List (Registration ρ)} {c : Registration ρ}

theorem Succeeds.step (h : Succeeds calls c) :
    ∃ b, c.backend? = some b ∧ registry (calls ++ [c]) = ⟨(registry calls).backends ++ [b]⟩ ∧
      successes (calls ++ [c]) = successes calls ++ [c] := by
  obtain ⟨r, hr⟩ := h
  obtain ⟨b, hb, -, rfl⟩ := attempt_eq_ok.mp hr
  refine ⟨b, hb, ?_, ?_⟩
  · rw [registry_concat, after, hr]
    rfl
  · rw [successes_concat, successesFrom, hr]
    rfl

theorem step_of_not_succeeds (h : ¬Succeeds calls c) :
    registry (calls ++ [c]) = registry calls ∧ successes (calls ++ [c]) = successes calls := by
  rw [registry_concat, successes_concat, after, successesFrom]
  cases hr : c.attempt (registry calls) with
  | ok _ r => exact absurd ⟨r, hr⟩ h
  | error e r => exact ⟨attempt_error hr, List.append_nil _⟩

end Step

/-- The registry holds the backends of the calls that have succeeded. -/
theorem backends_registry (calls : List (Registration ρ)) :
    (registry calls).backends = (successes calls).filterMap backend? := by
  induction calls using List.reverseRecOn with
  | nil => rfl
  | append_singleton calls c ih =>
    by_cases h : Succeeds calls c
    · obtain ⟨b, hb, hregistry, hsuccesses⟩ := h.step
      rw [hregistry, hsuccesses, List.filterMap_append, ← ih]
      simp [hb]
    · obtain ⟨hregistry, hsuccesses⟩ := step_of_not_succeeds h
      rw [hregistry, hsuccesses, ih]

/-- The calls that succeed are those that succeed when their turn has come. -/
theorem mem_successes {calls : List (Registration ρ)} {d : Registration ρ} :
    d ∈ successes calls ↔
      ∃ earlier later, calls = earlier ++ d :: later ∧ Succeeds earlier d := by
  induction calls using List.reverseRecOn with
  | nil => simp [successes, successesFrom]
  | append_singleton calls c ih =>
    constructor
    · intro hd
      by_cases h : Succeeds calls c
      · obtain ⟨b, -, -, hsuccesses⟩ := h.step
        rw [hsuccesses, List.mem_append, List.mem_singleton, ih] at hd
        rcases hd with ⟨earlier, later, rfl, hd⟩ | rfl
        · exact ⟨earlier, later ++ [c], by simp, hd⟩
        · exact ⟨calls, [], rfl, h⟩
      · rw [(step_of_not_succeeds h).2, ih] at hd
        obtain ⟨earlier, later, rfl, hd⟩ := hd
        exact ⟨earlier, later ++ [c], by simp, hd⟩
    · rintro ⟨earlier, later, hsplit, hd⟩
      rcases later.eq_nil_or_concat with rfl | ⟨later, e, rfl⟩
      · obtain ⟨rfl, hlast⟩ := List.append_inj' hsplit rfl
        obtain rfl := List.singleton_inj.mp hlast
        obtain ⟨b, -, -, hsuccesses⟩ := hd.step
        rw [hsuccesses]
        simp
      · rw [List.concat_eq_append, ← List.cons_append, ← List.append_assoc] at hsplit
        obtain ⟨hcalls, -⟩ := List.append_inj' hsplit rfl
        have hmem := ih.mpr ⟨earlier, later, hcalls, hd⟩
        rw [successes_concat]
        exact List.mem_append_left _ hmem

theorem backend?_of_mem_successes {calls : List (Registration ρ)} {d : Registration ρ}
    (h : d ∈ successes calls) : ∃ b, d.backend? = some b := by
  obtain ⟨earlier, later, -, r, hr⟩ := mem_successes.mp h
  obtain ⟨b, hb, -⟩ := attempt_eq_ok.mp hr
  exact ⟨b, hb⟩

/-- A name is registered if a call with this name has succeeded. -/
theorem find?_registry_eq_none {calls : List (Registration ρ)} {name : ByteText} :
    (registry calls).find? name = none ↔ ∀ d ∈ successes calls, d.name ≠ name := by
  simp only [Registry.find?_eq_none, backends_registry, List.mem_filterMap]
  constructor
  · intro h d hd
    obtain ⟨b, hb⟩ := backend?_of_mem_successes hd
    rw [← name_of_backend? hb]
    exact h b ⟨d, hd, hb⟩
  · rintro h b ⟨d, hd, hb⟩
    rw [name_of_backend? hb]
    exact h d hd

theorem succeeds_iff {before : List (Registration ρ)} {c : Registration ρ} :
    Succeeds before c ↔
      c.name.bytes ≠ [] ∧ c.runner ≠ none ∧ ∀ d ∈ successes before, d.name ≠ c.name := by
  unfold Succeeds
  simp only [attempt_eq_ok, find?_registry_eq_none]
  constructor
  · rintro ⟨-, b, hb, hnew, -⟩
    obtain ⟨hname, runner, hrunner, -⟩ := backend?_eq_some.mp hb
    exact ⟨hname, by rw [hrunner]; exact Option.some_ne_none runner, hnew⟩
  · rintro ⟨hname, hrunner, hnew⟩
    obtain ⟨runner, hrunner⟩ := Option.ne_none_iff_exists'.mp hrunner
    exact ⟨_, _, backend?_eq_some.mpr ⟨hname, runner, hrunner, rfl⟩, hnew, rfl⟩

/-- The reasons for which a call fails: no name, no runner, or a name that is taken. -/
theorem not_succeeds_iff {before : List (Registration ρ)} {c : Registration ρ} :
    ¬Succeeds before c ↔ c.name.bytes = [] ∨ c.runner = none ∨
      ∃ earlier d later, before = earlier ++ d :: later ∧ d.name = c.name ∧ Succeeds earlier d := by
  rw [succeeds_iff]
  simp only [not_and_or, not_ne_iff, not_forall, exists_prop, mem_successes]
  refine or_congr_right (or_congr_right ⟨?_, ?_⟩)
  · rintro ⟨d, ⟨earlier, later, hsplit, hd⟩, hname⟩
    exact ⟨earlier, d, later, hsplit, hname, hd⟩
  · rintro ⟨earlier, d, later, hsplit, hname, hd⟩
    exact ⟨d, ⟨earlier, later, hsplit, hd⟩, hname⟩

/-! ### Calls that succeed together -/

/-- Calls with a name and a runner each, and with distinct names. -/
structure Compatible (calls : List (Registration ρ)) : Prop where
  backends : ∀ d ∈ calls, ∃ b, d.backend? = some b
  names : calls.Pairwise fun c d => c.name ≠ d.name

/-- Every name is taken once. -/
theorem successes_compatible (calls : List (Registration ρ)) : Compatible (successes calls) := by
  refine ⟨fun _ => backend?_of_mem_successes, ?_⟩
  induction calls using List.reverseRecOn with
  | nil => exact .nil
  | append_singleton calls c ih =>
    by_cases h : Succeeds calls c
    · obtain ⟨b, -, -, hsuccesses⟩ := h.step
      rw [hsuccesses, List.pairwise_append]
      refine ⟨ih, List.pairwise_singleton _ _, fun d hd e he => ?_⟩
      rw [List.mem_singleton.mp he]
      exact (succeeds_iff.mp h).2.2 d hd
    · rw [(step_of_not_succeeds h).2]
      exact ih

theorem registry_distinct (calls : List (Registration ρ)) : (registry calls).Distinct := by
  rw [Registry.Distinct, backends_registry, List.pairwise_filterMap]
  refine (successes_compatible calls).names.imp fun hne b hb b' hb' => ?_
  rw [name_of_backend? hb, name_of_backend? hb']
  exact hne

namespace Compatible
variable {calls again before after : List (Registration ρ)} {c : Registration ρ}

theorem perm (h : Compatible calls) (hperm : again.Perm calls) : Compatible again :=
  ⟨fun d hd => h.backends d (hperm.mem_iff.mp hd),
    (hperm.pairwise_iff fun hne => hne.symm).mpr h.names⟩

theorem succeeds (h : Compatible (before ++ c :: after)) : Succeeds before c := by
  obtain ⟨b, hb⟩ := h.backends c (by simp)
  obtain ⟨hname, runner, hrunner, -⟩ := backend?_eq_some.mp hb
  refine succeeds_iff.mpr ⟨hname, by rw [hrunner]; exact Option.some_ne_none runner, fun d hd => ?_⟩
  obtain ⟨earlier, later, rfl, -⟩ := mem_successes.mp hd
  exact (List.pairwise_append.mp h.names).2.2 d (by simp) c List.mem_cons_self

theorem successes_eq (h : Compatible calls) : successes calls = calls := by
  induction calls using List.reverseRecOn with
  | nil => rfl
  | append_singleton calls c ih =>
    have hfront : Compatible calls :=
      ⟨fun d hd => h.backends d (List.mem_append_left _ hd), (List.pairwise_append.mp h.names).1⟩
    obtain ⟨b, -, -, hsuccesses⟩ := h.succeeds.step
    rw [hsuccesses, ih hfront]

end Compatible

/-- Made again in another order, the calls that have succeeded lead to the same list. -/
theorem list_of_perm {calls again : List (Registration ρ)} (h : again.Perm (successes calls)) :
    (registry again).list = (registry calls).list := by
  have hagain := (successes_compatible calls).perm h
  have hbackends : (registry again).backends.Perm (registry calls).backends := by
    rw [backends_registry, backends_registry, hagain.successes_eq]
    exact h.filterMap backend?
  exact (registry_distinct calls).list_of_perm hbackends

/-! ### Names -/

/-- What a name leads to: the backend of the call that has taken it. -/
theorem get_of_mem_successes {calls : List (Registration ρ)} {d : Registration ρ}
    (h : d ∈ successes calls) :
    ∃ runner, d.runner = some runner ∧
      (registry calls).get d.name = .ok ⟨d.name, d.description, runner⟩ := by
  obtain ⟨b, hb⟩ := backend?_of_mem_successes h
  obtain ⟨-, runner, hrunner, rfl⟩ := backend?_eq_some.mp hb
  have hmem : (⟨d.name, d.description, runner⟩ : Backend ρ) ∈ (registry calls).backends := by
    rw [backends_registry]
    exact List.mem_filterMap.mpr ⟨d, h, hb⟩
  refine ⟨runner, hrunner, ?_⟩
  rw [Registry.get, (registry_distinct calls).find?_eq_some.mpr ⟨hmem, rfl⟩]

/-- **Registering, whatever calls are made.** A call fails just if it has no name, has no runner, or has
a name that a call before it has taken, and a call that fails changes nothing. A name that a call has
taken leads to its backend, with its own description and runner, and any other name is unknown. The list
is strictly increasing by the bytes of the names and has one entry for each backend there is. It is the
same in whatever order the backends are gone through and however they are then sorted, and the same if
the calls that have succeeded are made in another order, in which they succeed again. -/
theorem registrations_settled (calls : List (Registration ρ)) :
    (∀ before c after, calls = before ++ c :: after →
      (¬Succeeds before c ↔ c.name.bytes = [] ∨ c.runner = none ∨
        ∃ earlier d later, before = earlier ++ d :: later ∧ d.name = c.name ∧ Succeeds earlier d) ∧
      (¬Succeeds before c → registry (before ++ [c]) = registry before)) ∧
    (∀ before c after, calls = before ++ c :: after → Succeeds before c →
      ∃ runner, c.runner = some runner ∧
        (registry calls).get c.name = .ok ⟨c.name, c.description, runner⟩) ∧
    (∀ name, (∀ before c after, calls = before ++ c :: after → c.name = name → ¬Succeeds before c) →
      (registry calls).get name = .error ⟨name⟩) ∧
    ((registry calls).list.Pairwise fun a b => a.1.bytes < b.1.bytes) ∧
    (∀ name description, (name, description) ∈ (registry calls).list ↔
      ∃ b, (registry calls).get name = .ok b ∧ b.description = description) ∧
    (∀ order : List (Backend ρ), order.Perm (registry calls).backends →
      (⟨order⟩ : Registry ρ).list = (registry calls).list ∧
      ∀ entries : List (ByteText × ByteText),
        entries.Perm (order.map fun b => (b.name, b.description)) →
        (entries.Pairwise fun a b => ¬b.1.bytes < a.1.bytes) →
        entries = (registry calls).list) ∧
    (∀ again : List (Registration ρ), again.Perm (successes calls) →
      (∀ before c after, again = before ++ c :: after → Succeeds before c) ∧
      (registry again).list = (registry calls).list) := by
  have hdistinct := registry_distinct calls
  refine ⟨fun before c after _ => ⟨not_succeeds_iff, fun h => (step_of_not_succeeds h).1⟩,
    fun before c after hsplit hc => get_of_mem_successes (mem_successes.mpr ⟨before, after, hsplit, hc⟩),
    fun name hname => ?_, hdistinct.list_increasing, fun _ _ => hdistinct.mem_list,
    fun order horder => ⟨hdistinct.list_of_perm horder, fun entries hperm hsorted => ?_⟩,
    fun again hagain => ⟨fun before c after hsplit => ?_, list_of_perm hagain⟩⟩
  · have hfind : (registry calls).find? name = none := by
      refine find?_registry_eq_none.mpr fun d hd hdname => ?_
      obtain ⟨before, after, hsplit, hsucceeds⟩ := mem_successes.mp hd
      exact hname before d after hsplit hdname hsucceeds
    rw [Registry.get, hfind]
  · exact hdistinct.eq_list (hperm.trans (horder.map _)) (hsorted.imp List.not_lt.mp)
  · have hcompatible := (successes_compatible calls).perm hagain
    rw [hsplit] at hcompatible
    exact hcompatible.succeeds

/-- A name that is taken stays with the call that has taken it, also if its bytes are no characters. -/
theorem registrations_settled_twice :
    let name : ByteText := ⟨[0x74, 0xFF]⟩
    let one : Registration Nat := ⟨name, .ofString "One", some 1⟩
    let two : Registration Nat := ⟨name, .ofString "Two", some 2⟩
    Succeeds [] one ∧ ¬Succeeds [one] two ∧
      (registry [one, two]).get name = .ok ⟨name, .ofString "One", 1⟩ := by
  intro name one two
  obtain ⟨hfails, hget, -⟩ := registrations_settled [one, two]
  have hfirst : Succeeds [] one := ⟨_, rfl⟩
  obtain ⟨hsecond, -⟩ := hfails [one] two [] rfl
  obtain ⟨runner, hrunner, hfound⟩ := hget [] one [two] rfl hfirst
  cases hrunner
  exact ⟨hfirst, hsecond.mpr (.inr (.inr ⟨[], one, [], rfl, rfl, hfirst⟩)), hfound⟩

/-- The backends that come with the screensaver are registered one after the other. -/
example (console tui : Nat) :
    registry [⟨.ofString "console", .ofString "Paint straight onto the terminal through tcell", some console⟩,
      ⟨.ofString "tui", .ofString "Render through Bubble Tea on the alternate screen", some tui⟩] =
      Backends.registryOf console tui :=
  rfl

end Registration

end Screensaver
