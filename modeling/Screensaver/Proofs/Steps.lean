import Screensaver.Fault

/-! Steps that can fail, one after the other.

A step answers with a value or with an error, and in both cases with the state it leaves behind. Steps in
a row go on from the state that the one before has left, and the first that fails ends the row there. -/
namespace Screensaver

section Steps
variable {ε σ α β : Type} {x : EStateM ε σ α} {f : α → EStateM ε σ β} {s t : σ}

theorem bind_ok {a : α} (h : x s = .ok a t) : (x >>= f) s = f a t := by
  show EStateM.bind x f s = f a t
  rw [EStateM.bind, h]

theorem bind_error {e : ε} (h : x s = .error e t) : (x >>= f) s = .error e t := by
  show EStateM.bind x f s = .error e t
  rw [EStateM.bind, h]

theorem bind_eq_ok {b : β} (h : (x >>= f) s = .ok b t) :
    ∃ a u, x s = .ok a u ∧ f a u = .ok b t := by
  cases hx : x s with
  | ok a u => exact ⟨a, u, rfl, (bind_ok hx).symm.trans h⟩
  | error e u => rw [bind_error hx] at h; cases h

theorem adaptExcept_ok {ε' : Type} {g : ε → ε'} {a : α} (h : x s = .ok a t) :
    x.adaptExcept g s = .ok a t := by
  rw [EStateM.adaptExcept, h]

theorem adaptExcept_error {ε' : Type} {g : ε → ε'} {e : ε} (h : x s = .error e t) :
    x.adaptExcept g s = .error (g e) t := by
  rw [EStateM.adaptExcept, h]

theorem get_ok (s : σ) : (get : EStateM ε σ σ) s = .ok s s :=
  rfl

theorem modify_ok (g : σ → σ) (s : σ) : (modify g : EStateM ε σ Unit) s = .ok () (g s) :=
  rfl

end Steps

/-- What holds of the state that two steps leave behind: either the second one has left it, or the first
one has failed. -/
theorem leftBehind_bind {σ α β : Type} {x : EStateM Fault σ α} {f : α → EStateM Fault σ β} {s : σ}
    {P : σ → Prop} (hok : ∀ a t, x s = .ok a t → P (leftBehind (f a t)))
    (herror : ∀ e t, x s = .error e t → P t) : P (leftBehind ((x >>= f) s)) := by
  cases hx : x s with
  | ok a t => rw [bind_ok hx]; exact hok a t hx
  | error e t => rw [bind_error hx]; exact herror e t hx

end Screensaver
