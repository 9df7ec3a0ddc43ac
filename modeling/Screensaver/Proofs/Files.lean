import Screensaver.FileTree
import Screensaver.Proofs.Steps

/-! Writing at the end of a file.

A file that is to be written to is first opened, which makes it if it is not there, and then written
to at its end. `Grown` is what the two have in common: nothing changes but at the place of the file,
and what was in the file stays in front. -/
namespace Screensaver.FileTree

/-- From `t` to `u` nothing has changed but at a place, where there is now a file that starts with
what was in it before, if it was there. -/
structure Grown (place : List String) (t u : FileTree) : Prop where
  elsewhere : ∀ q, q ≠ place → u.find? q = t.find? q
  longer : ∃ old added, (t.find? place = some (.file old) ∨ t.find? place = none ∧ old = []) ∧
    u.find? place = some (.file (old ++ added))

theorem Grown.trans {place : List String} {t u v : FileTree} (h : Grown place t u)
    (h' : Grown place u v) : Grown place t v := by
  obtain ⟨old, added, hold, hmiddle⟩ := h.longer
  obtain ⟨middle, added', hmiddle', hnew⟩ := h'.longer
  have heq : old ++ added = middle := by
    rcases hmiddle' with hfile | ⟨hnone, -⟩
    · exact FileEntry.file.inj (Option.some.inj (hmiddle.symm.trans hfile))
    · cases hmiddle.symm.trans hnone
  refine ⟨fun q hq => (h'.elsewhere q hq).trans (h.elsewhere q hq), old, added ++ added', hold, ?_⟩
  rw [hnew, ← heq, List.append_assoc]

/-! ### Putting something at a place -/

theorem lookup_map_replace (entries : List (List String × FileEntry)) (p q : List String)
    (e : FileEntry) :
    (entries.map fun (p', old) => if p' = p then (p', e) else (p', old)).lookup q =
      if q = p then (entries.lookup q).map fun _ => e else entries.lookup q := by
  induction entries with
  | nil => simp
  | cons head rest ih =>
    obtain ⟨p', old⟩ := head
    by_cases hq : q = p'
    · subst hq
      by_cases hp : q = p <;> simp [hp]
    · have hne : (q == p') = false := beq_false_of_ne hq
      by_cases hp : p' = p
      · simpa [List.lookup_cons, hp, hp ▸ hne] using ih
      · simpa [List.lookup_cons, hp, hne] using ih

theorem lookup_put (t : FileTree) (p q : List String) (e : FileEntry) :
    (t.put p e).entries.lookup q = if q = p then some e else t.entries.lookup q := by
  unfold put
  split
  · next hthere =>
    rw [lookup_map_replace]
    by_cases hq : q = p
    · obtain ⟨old, hold⟩ := Option.isSome_iff_exists.mp hthere
      rw [if_pos hq, if_pos hq, hq, hold]
      rfl
    · rw [if_neg hq, if_neg hq]
  · next hmissing =>
    rw [Option.not_isSome_iff_eq_none] at hmissing
    by_cases hq : q = p
    · simp [List.lookup_append, hq, hmissing]
    · simp [List.lookup_append, List.lookup_cons, hq, beq_false_of_ne hq]

/-- Only at places that are not always directories can something else be found. -/
theorem find?_put (t : FileTree) {p : List String} (h : t.find? p ≠ some .directory)
    (q : List String) (e : FileEntry) :
    (t.put p e).find? q = if q = p then some e else t.find? q := by
  unfold find? at h ⊢
  by_cases hq : isAbove q ∨ q = ["/"]
  · have hne : q ≠ p := by
      rintro rfl
      exact h (if_pos hq)
    rw [if_pos hq, if_neg hne, if_pos hq]
  · rw [if_neg hq, if_neg hq, lookup_put]

theorem grown_put {t : FileTree} {place : List String} {old added : List UInt8}
    (h : t.find? place = some (.file old) ∨ t.find? place = none ∧ old = []) :
    Grown place t (t.put place (.file (old ++ added))) := by
  have hfile : t.find? place ≠ some .directory := by
    rcases h with h | ⟨h, -⟩ <;> rw [h] <;> simp
  refine ⟨fun q hq => ?_, old, added, h, ?_⟩
  · rw [find?_put t hfile, if_neg hq]
  · rw [find?_put t hfile, if_pos rfl]

/-! ### Opening and writing -/

theorem locateToWrite_not_directory {t : FileTree} {path : String} {place : List String}
    (h : t.locateToWrite path = .ok place) : t.find? place ≠ some .directory := by
  unfold locateToWrite at h
  split at h
  · split at h <;> cases h
  · split at h
    · cases h
    · split at h
      · cases h
      · next hne => cases h; exact hne

theorem openToAppend_eq (path : String) (t : FileTree) :
    openToAppend path t = match t.locateToWrite path with
      | .error p => .error ⟨"open", path, p⟩ t
      | .ok place => .ok place (if (t.find? place).isNone then t.put place (.file []) else t) := by
  unfold openToAppend
  rw [bind_ok (get_ok t)]
  cases t.locateToWrite path with
  | error p => rfl
  | ok place =>
    simp only
    rw [bind_ok (get_ok t)]
    split <;> rfl

/-- A file that has been opened is there. -/
theorem openToAppend_grown {t u : FileTree} {path : String} {place : List String}
    (h : openToAppend path t = .ok place u) :
    t.locateToWrite path = .ok place ∧ Grown place t u := by
  rw [openToAppend_eq] at h
  cases hp : t.locateToWrite path with
  | error p => rw [hp] at h; cases h
  | ok p =>
    rw [hp] at h
    cases h
    refine ⟨rfl, ?_⟩
    cases hentry : t.find? place with
    | none =>
      have hmade : Grown place t (t.put place (.file ([] ++ []))) := grown_put (.inr ⟨hentry, rfl⟩)
      exact hmade
    | some entry =>
      cases entry with
      | directory => exact absurd hentry (locateToWrite_not_directory hp)
      | file content =>
        exact ⟨fun _ _ => rfl, content, [], .inl hentry, hentry.trans (by rw [List.append_nil])⟩

theorem append_grown {t : FileTree} {place : List String} {content : List UInt8}
    (h : t.find? place = some (.file content)) (bytes : List UInt8) :
    Grown place t (t.append place bytes) := by
  rw [append, h]
  exact grown_put (.inl h)

/-- Whatever is written to a file that has grown, it has grown. -/
theorem Grown.append {t u : FileTree} {place : List String} (h : Grown place t u)
    (bytes : List UInt8) : Grown place t (u.append place bytes) := by
  obtain ⟨old, added, -, hfile⟩ := h.longer
  exact h.trans (append_grown hfile bytes)

end Screensaver.FileTree
