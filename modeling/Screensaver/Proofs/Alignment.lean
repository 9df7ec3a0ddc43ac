import Mathlib.Data.List.Forall2
import Mathlib.Order.Bounds.Basic
import Screensaver.CommandLine
import Screensaver.Proofs.Characters
import Screensaver.Proofs.Registrations

/-! The table of backends is aligned.

The column of names is as wide as the longest name has bytes, but a name is filled up by characters. A
character takes at least one byte (`ByteText.length_le_bytes`), so no name is longer than the column is
wide, and filled up all of them are equally long. Hence all descriptions begin at the same place,
whatever is registered and in whatever script the names are written (`backends_aligned`), up to the
width at which filling up is refused. -/
namespace Screensaver

namespace Tables

/-! ### Rows -/

/-- How an entry is shown in a row whose names take `m` characters: two spaces, the name followed by
spaces, two spaces, and the description. -/
structure Aligned (m : Nat) (entry : ByteText × ByteText) (row : ByteText) : Prop where
  margin : row.text.toList.take 2 = [' ', ' ']
  /-- The name is all there and takes, with the spaces that follow it, `m` characters. -/
  field : ∃ spaces, (row.text.toList.drop 2).take m = entry.1.text.toList ++ List.replicate spaces ' ' ∧
    entry.1.length + spaces = m
  gap : (row.text.toList.drop (m + 2)).take 2 = [' ', ' ']
  description : row.text.toList.drop (m + 4) = entry.2.text.toList ++ ['\n']

theorem toList_pushn (s : String) (c : Char) (n : Nat) :
    (s.pushn c n).toList = s.toList ++ List.replicate n c := by
  induction n with
  | zero => exact (List.append_nil _).symm
  | succ n ih =>
    have hpush : s.pushn c (n + 1) = (s.pushn c n).push c := rfl
    rw [hpush, String.toList_push, ih, List.append_assoc, List.replicate_succ']

/-- The spaces around a name keep it apart from what stands before and after it, so the row shows its
characters whatever its bytes are. -/
theorem toList_backendRow {m : Nat} (hm : m ≤ widthLimit) (entry : ByteText × ByteText) :
    (backendRow m entry).text.toList =
      [' ', ' '] ++ (entry.1.text.toList ++ List.replicate (m - entry.1.length) ' ') ++ [' ', ' '] ++
        (entry.2.text.toList ++ ['\n']) := by
  let spaces : String := "".pushn ' ' (m - entry.1.length)
  have hspaces : (spaces ++ "  ").toList = List.replicate (m - entry.1.length + 2) ' ' := by
    rw [String.toList_append, toList_pushn, List.replicate_add]
    rfl
  have hrow : backendRow m entry =
      .ofString "  " ++ (entry.1 ++ (.ofString (spaces ++ "  ") ++ (entry.2 ++ .ofString "\n"))) := by
    have hboth : Text.bytes (spaces ++ "  ") = Text.bytes spaces ++ Text.bytes "  " := by
      rw [Text.bytes_eq, String.toList_append, List.flatMap_append, ← Text.bytes_eq, ← Text.bytes_eq]
    apply congrArg ByteText.mk
    simp [hboth, spaces, padded, hm, ByteText.join, ByteText.ofString]
  have hnext : ∀ b ∈ (ByteText.ofString (spaces ++ "  ") ++ (entry.2 ++ .ofString "\n")).bytes.head?,
      b < 0x80 := by
    rw [ByteText.bytes_append, ByteText.ofString, Text.bytes_eq, hspaces]
    rintro b ⟨⟩
    decide
  have hend : ∀ b ∈ (ByteText.ofString "\n").bytes.head?, b < 0x80 := by
    rintro b ⟨⟩
    decide
  rw [hrow, ByteText.toList_text_ofString_append, ByteText.toList_text_append hnext,
    ByteText.toList_text_ofString_append, hspaces, ByteText.toList_text_append hend,
    ByteText.text_ofString, List.replicate_add]
  simp

/-- A row is aligned if its name is not longer than the column is wide. -/
theorem backendRow_aligned {m : Nat} (hm : m ≤ widthLimit) {entry : ByteText × ByteText}
    (hname : entry.1.length ≤ m) : Aligned m entry (backendRow m entry) := by
  have hrow := toList_backendRow hm entry
  have hfield : (entry.1.text.toList ++ List.replicate (m - entry.1.length) ' ').length = m := by
    rw [List.length_append, List.length_replicate, String.length_toList]
    exact Nat.add_sub_cancel' hname
  generalize hspaces : entry.1.text.toList ++ List.replicate (m - entry.1.length) ' ' = field
    at hrow hfield
  have hgap : ([' ', ' '] ++ field).length = m + 2 := by
    rw [List.length_append, hfield, Nat.add_comm]
    rfl
  have hbefore : ([' ', ' '] ++ field ++ [' ', ' ']).length = m + 4 := by
    rw [List.length_append, hgap]
    rfl
  refine ⟨?_, ⟨m - entry.1.length, ?_, Nat.add_sub_cancel' hname⟩, ?_, ?_⟩
  · rw [hrow]
    rfl
  · rw [hspaces, hrow, List.append_assoc, List.append_assoc]
    exact List.take_left' hfield
  · rw [hrow, List.append_assoc, List.drop_left' hgap]
    rfl
  · rw [hrow, List.drop_left' hbefore]

/-! ### The width of the column -/

theorem nameWidth_isGreatest (names : List ByteText) :
    IsGreatest (insert 4 {n | ∃ name ∈ names, n = name.bytes.length}) (nameWidth names) := by
  have hmax : (4 :: names.map fun name => name.bytes.length).max? = some (nameWidth names) :=
    List.max?_cons'
  obtain ⟨hmem, hle⟩ := List.max?_eq_some_iff.mp hmax
  refine ⟨?_, ?_⟩
  · rcases List.mem_cons.mp hmem with hfour | hname
    · exact .inl hfour
    · obtain ⟨s, hs, hlength⟩ := List.mem_map.mp hname
      exact .inr ⟨s, hs, hlength.symm⟩
  · rintro n (rfl | ⟨s, hs, rfl⟩)
    · exact hle 4 List.mem_cons_self
    · exact hle _ (List.mem_cons_of_mem 4 (List.mem_map_of_mem hs))

/-- The column is as wide as the longest name of a registered backend has bytes, and at least as wide as
its heading. -/
theorem width_isGreatest {ρ : Type} (r : Registry ρ) :
    IsGreatest (insert 4 {n | ∃ b ∈ r.backends, n = b.name.bytes.length})
      (nameWidth (r.list.map Prod.fst)) := by
  have hnames : (r.list.map Prod.fst).Perm (r.backends.map Backend.name) := by
    have hperm := r.list_perm.map Prod.fst
    rw [List.map_map] at hperm
    exact hperm
  have hgreatest := nameWidth_isGreatest (r.list.map Prod.fst)
  simp only [hnames.mem_iff, List.mem_map, exists_exists_and_eq_and] at hgreatest
  exact hgreatest

/-! ### The table -/

theorem backends_eq {ρ : Type} {r : Registry ρ} (h : r.backends ≠ []) :
    backends r = .ofString "Available backends:\n\n" ++ .join (backendRows r.list) ++
      .ofString "\nRun 'randscreen --backend <name>' to use one.\n" := by
  have hlist : r.list ≠ [] := fun hnil => by
    have hperm := r.list_perm
    rw [hnil, List.nil_perm, List.map_eq_nil_iff] at hperm
    exact h hperm
  unfold backends
  split
  · next hnil => exact absurd hnil hlist
  · rfl

/-- The headings and all the names fit into the column, which can be filled up to. -/
theorem backendRows_aligned {ρ : Type} {r : Registry ρ}
    (hnames : ∀ b ∈ r.backends, b.name.bytes.length ≤ widthLimit) :
    List.Forall₂ (Aligned (nameWidth (r.list.map Prod.fst))) (backendHeadings ++ r.list)
      (backendRows r.list) := by
  obtain ⟨hmem, hle⟩ := width_isGreatest r
  have hlimit : nameWidth (r.list.map Prod.fst) ≤ widthLimit := by
    rcases hmem with hfour | ⟨b, hb, hlength⟩
    · rw [hfour]
      decide
    · rw [hlength]
      exact hnames b hb
  have hfour : 4 ≤ nameWidth (r.list.map Prod.fst) := hle (.inl rfl)
  refine List.forall₂_map_right_iff.mpr (List.forall₂_same.mpr fun entry hentry => ?_)
  refine backendRow_aligned hlimit ?_
  have hheadings : ∀ entry ∈ backendHeadings, entry.1.bytes.length = 4 := by decide
  rcases List.mem_append.mp hentry with hheading | hentry
  · exact Nat.le_trans entry.1.length_le_bytes (hheadings entry hheading ▸ hfour)
  · obtain ⟨b, hb, rfl⟩ := List.mem_map.mp (r.list_perm.mem_iff.mp hentry)
    exact Nat.le_trans b.name.length_le_bytes (hle (.inr ⟨b, hb, rfl⟩))

end Tables

theorem CommandLine.run_backends (w : World) :
    run w ["backends"] = shows w (Tables.backends w.registry) := by
  have hfind : find ["backends"] = (.backends, []) := by
    simp [find, plainWords, takesNext, Command.ofName?, without]
  rw [run, hfind]
  rfl

/-- **The table of backends is aligned.** Whatever backends are registered, at least one of them and none
with a name of more than a million bytes: with `m` the greatest number of bytes of a name, and at least
four, the command shows two rows of headings and then one row for each backend, in strictly increasing
order of the bytes of their names. In each of these rows, headings included, the name is followed by
spaces up to `m` characters, and the description begins at character `m + 4`. -/
theorem backends_aligned (w : CommandLine.World) (calls : List (Registration Runner))
    (hsome : (Registration.registry calls).backends ≠ [])
    (hnames : ∀ b ∈ (Registration.registry calls).backends, b.name.bytes.length ≤ 1000000) :
    ∃ m entries rows,
      IsGreatest (insert 4 {n | ∃ b ∈ (Registration.registry calls).backends,
        n = b.name.bytes.length}) m ∧
      entries.Perm ((Registration.registry calls).backends.map fun b => (b.name, b.description)) ∧
      (entries.Pairwise fun a b => a.1.bytes < b.1.bytes) ∧
      (CommandLine.run { w with registry := Registration.registry calls } ["backends"]).output =
        .ofString "Available backends:\n\n" ++ .join rows ++
          .ofString "\nRun 'randscreen --backend <name>' to use one.\n" ∧
      List.Forall₂ (Tables.Aligned m)
        ((.ofString "Name", .ofString "Description") :: (.ofString "----", .ofString "-----------") ::
          entries) rows := by
  refine ⟨_, _, _, Tables.width_isGreatest _, Registry.list_perm _,
    (Registration.registry_distinct calls).list_increasing, ?_, Tables.backendRows_aligned hnames⟩
  rw [CommandLine.run_backends]
  exact Tables.backends_eq hsome

/-- A name of five characters that take six bytes, beside one whose only byte belongs to no character. -/
theorem backends_aligned_accented :
    let accented : ByteText := .ofString "écran"
    let broken : ByteText := ⟨[0xFF]⟩
    let calls : List (Registration Runner) :=
      [⟨accented, .ofString "Cell by cell", some (Backends.console .none 0 0)⟩,
        ⟨broken, .ofString "Whole screens", some (Backends.tui .none 0 0)⟩]
    (Registration.registry calls).backends ≠ [] ∧
    (∀ b ∈ (Registration.registry calls).backends, b.name.bytes.length ≤ 1000000) ∧
    ∃ entries rows, (accented, .ofString "Cell by cell") ∈ entries ∧
      (broken, .ofString "Whole screens") ∈ entries ∧
      (CommandLine.run ⟨⟨.empty, none⟩, .plain, Registration.registry calls, ""⟩ ["backends"]).output =
        .ofString "Available backends:\n\n" ++ .join rows ++
          .ofString "\nRun 'randscreen --backend <name>' to use one.\n" ∧
      List.Forall₂ (Tables.Aligned 6)
        ((.ofString "Name", .ofString "Description") :: (.ofString "----", .ofString "-----------") ::
          entries) rows := by
  intro accented broken calls
  have hregistry : (Registration.registry calls).backends =
      [⟨accented, .ofString "Cell by cell", Backends.console .none 0 0⟩,
        ⟨broken, .ofString "Whole screens", Backends.tui .none 0 0⟩] := rfl
  have hsome : (Registration.registry calls).backends ≠ [] := by simp [hregistry]
  have hnames : ∀ b ∈ (Registration.registry calls).backends, b.name.bytes.length ≤ 1000000 := by
    rw [hregistry]
    simp only [List.forall_mem_cons]
    decide
  obtain ⟨m, entries, rows, hm, hperm, -, hshown, hrows⟩ :=
    backends_aligned ⟨⟨.empty, none⟩, .plain, .empty, ""⟩ calls hsome hnames
  have hsix : m = 6 := by
    rw [hregistry] at hm
    have hle : 6 ≤ m := hm.2 (.inr ⟨_, List.mem_cons_self, rfl⟩)
    obtain hfour | ⟨b, hb, rfl⟩ := hm.1
    · omega
    · simp only [List.mem_cons, List.not_mem_nil, or_false] at hb
      obtain rfl | rfl := hb
      · rfl
      · exact absurd hle (by decide)
  refine ⟨hsome, hnames, entries, rows, ?_, ?_, hshown, hsix ▸ hrows⟩
  · rw [hperm.mem_iff, hregistry]
    simp
  · rw [hperm.mem_iff, hregistry]
    simp

end Screensaver
