import Screensaver.Settings.Load

/-! Settings come from one source.

How a file is understood is any function here: it takes bytes and settings to new settings and possibly
an error, and with an error it may have changed the settings in any way. `load_takes_one_source` says
what can come of loading with it. A given file is loaded if it is usable, and otherwise there is an error
and the default settings; the other files do not matter. Without a given file it is the first usable one
of the usual places, or else the built-in text, and there is never an error. What a rejected file has done
to the settings is not to be seen in any of this: another function that rejects the same files, whatever
settings it leaves behind then, loads the same. -/
namespace Screensaver.Settings
variable {ε : Type}

/-- Takes bytes and settings to new settings, and to an error if something is wrong. -/
abbrev Reader (ε : Type) := List UInt8 → Settings → Settings × Option ε

/-- The decoder that is this function and raises no fault. -/
def Reader.decoder (d : Reader ε) : Decoder ε := fun bytes s => .ok (d bytes s)

/-- A file that may hold settings: a path below a directory. -/
structure Source where
  tree : FileTree
  path : String

/-- The file can be read and understood, and gives these settings on top of the default ones. -/
def Source.Gives (d : Reader ε) (f : Source) (s : Settings) : Prop :=
  ∃ bytes, f.tree.read f.path = .ok bytes ∧ d bytes .default = (s, none)

/-- Why a file is not usable: it cannot be read, or cannot be understood. -/
inductive Source.Refused (d : Reader ε) (f : Source) : LoadError ε → Prop where
  | unreadable {e : FileError} : f.tree.read f.path = .error e → Refused d f (.unreadable f.path e)
  | malformed {bytes : List UInt8} {s : Settings} {e : ε} : f.tree.read f.path = .ok bytes →
      d bytes .default = (s, some e) → Refused d f (.malformed f.path e)

/-- The files that are tried when none is given, in order. The user's comes first, if it is known
where to look. -/
def Place.sources (place : Place) : List Source :=
  (place.home.map fun home => ⟨home, userPath⟩).toList ++ [⟨place.work, localPath⟩]

/-- The two readings accept the same bytes with the same settings, and reject the others with the same
errors. -/
def Reader.Alike (d d' : Reader ε) : Prop :=
  ∀ bytes, (d' bytes .default).2 = (d bytes .default).2 ∧
    ((d bytes .default).2 = none → (d' bytes .default).1 = (d bytes .default).1)

/-! ### One file -/

/-- What bytes say on top of the default settings. With an error, the settings that come with it are
dropped. -/
def Reader.verdict (d : Reader ε) (bytes : List UInt8) : Except ε Settings :=
  match d bytes .default with
  | (s, none) => .ok s
  | (_, some e) => .error e

/-- The settings of a usable file. -/
def Source.settings? (d : Reader ε) (f : Source) : Option Settings :=
  (f.tree.read f.path).toOption.bind fun bytes => (d.verdict bytes).toOption

/-- What comes of loading a given file. -/
def Source.loaded (d : Reader ε) (f : Source) : Settings × Option (LoadError ε) :=
  match f.tree.read f.path with
  | .error e => (.default, some (.unreadable f.path e))
  | .ok bytes =>
    match d.verdict bytes with
    | .ok s => (s, none)
    | .error e => (.default, some (.malformed f.path e))

/-- The settings when no file is usable. -/
def Reader.lastResort (d : Reader ε) : Settings :=
  (d.verdict (Text.bytes builtIn)).toOption.getD .default

theorem Reader.Alike.verdict_eq {d d' : Reader ε} (h : d.Alike d') (bytes : List UInt8) :
    d'.verdict bytes = d.verdict bytes := by
  obtain ⟨herror, hsettings⟩ := h bytes
  unfold verdict
  rcases hd : d bytes .default with ⟨s, _ | e⟩ <;> rcases hd' : d' bytes .default with ⟨s', _ | e'⟩
  · rw [hd, hd'] at hsettings
    exact congrArg Except.ok (hsettings rfl)
  · rw [hd, hd'] at herror
    cases herror
  · rw [hd, hd'] at herror
    cases herror
  · rw [hd, hd'] at herror
    cases herror
    rfl

section Files
variable {d : Reader ε} {f : Source}

theorem Reader.verdict_eq_ok {bytes : List UInt8} {s : Settings} :
    d.verdict bytes = .ok s ↔ d bytes .default = (s, none) := by
  unfold verdict
  rcases d bytes .default with ⟨r, _ | e⟩ <;> simp

theorem Source.settings?_eq_some {s : Settings} : f.settings? d = some s ↔ f.Gives d s := by
  unfold settings? Gives
  cases f.tree.read f.path with
  | error e => simp [Except.toOption]
  | ok bytes =>
    simp only [← Reader.verdict_eq_ok]
    cases hv : d.verdict bytes <;> simp [Except.toOption, hv]

theorem Source.settings?_eq_none : f.settings? d = none ↔ ∀ s, ¬f.Gives d s := by
  simp only [← settings?_eq_some, Option.eq_none_iff_forall_ne_some, ne_eq]

/-- Of a file that is not understood nothing is kept. -/
theorem usable?_decoder (d : Reader ε) (tree : FileTree) (path : String) :
    usable? d.decoder tree path = .ok (Source.settings? d ⟨tree, path⟩) := by
  unfold usable? Source.settings? parse Reader.decoder
  cases tree.read path with
  | error e => rfl
  | ok bytes =>
    simp only [Except.toOption, Option.bind_some, Reader.verdict]
    rcases d bytes .default with ⟨s, _ | e⟩ <;> rfl

theorem loadFile_decoder (d : Reader ε) (f : Source) :
    loadFile d.decoder f.tree f.path = .ok (f.loaded d) := by
  unfold loadFile Source.loaded parse Reader.decoder
  cases f.tree.read f.path with
  | error e => rfl
  | ok bytes =>
    simp only [Reader.verdict]
    rcases d bytes .default with ⟨s, _ | e⟩ <;> rfl

theorem loaded_of_gives {s : Settings} (h : f.Gives d s) : f.loaded d = (s, none) := by
  obtain ⟨bytes, hread, hd⟩ := h
  simp only [Source.loaded, hread, Reader.verdict_eq_ok.mpr hd]

theorem loaded_of_not_gives (h : ∀ s, ¬f.Gives d s) :
    ∃ e, f.Refused d e ∧ f.loaded d = (.default, some e) := by
  cases hread : f.tree.read f.path with
  | error e =>
    refine ⟨_, .unreadable hread, ?_⟩
    simp only [Source.loaded, hread]
  | ok bytes =>
    rcases hd : d bytes .default with ⟨s, _ | e⟩
    · exact absurd ⟨bytes, hread, hd⟩ (h s)
    · refine ⟨_, .malformed hread hd, ?_⟩
      simp only [Source.loaded, hread, Reader.verdict, hd]

end Files

/-! ### All of them -/

theorem Reader.lastResort_eq (d : Reader ε) :
    d (Text.bytes builtIn) .default = (d.lastResort, none) ∨
      (d (Text.bytes builtIn) .default).2 ≠ none ∧ d.lastResort = .default := by
  unfold lastResort verdict
  rcases d (Text.bytes builtIn) .default with ⟨s, _ | e⟩
  · exact .inl rfl
  · exact .inr ⟨nofun, rfl⟩

theorem lastResort_decoder (d : Reader ε) : lastResort d.decoder = .ok d.lastResort := by
  unfold Settings.lastResort parse Reader.decoder Reader.lastResort Reader.verdict
  rcases d (Text.bytes builtIn) .default with ⟨s, _ | e⟩ <;> rfl

/-- Searching goes through the usual places and takes the first usable file. -/
theorem search_decoder (d : Reader ε) (place : Place) :
    search d.decoder place =
      .ok ((place.sources.findSome? (Source.settings? d)).getD d.lastResort) := by
  unfold search userSettings? Place.sources
  simp only [usable?_decoder, lastResort_decoder]
  cases place.home with
  | none =>
    simp only [Option.map_none, Option.toList_none, List.nil_append, List.findSome?_singleton]
    cases Source.settings? d ⟨place.work, localPath⟩ <;> rfl
  | some home =>
    simp only [Option.map_some, Option.toList_some, List.singleton_append, List.findSome?_cons,
      List.findSome?_nil]
    cases Source.settings? d ⟨home, userPath⟩ with
    | some s => rfl
    | none => cases Source.settings? d ⟨place.work, localPath⟩ <;> rfl

theorem load_decoder (d : Reader ε) (place : Place) (path : String) :
    load d.decoder place path = .ok (if path = "" then
        ((place.sources.findSome? (Source.settings? d)).getD d.lastResort, none)
      else Source.loaded d ⟨place.work, path⟩) := by
  unfold load
  split
  · rw [search_decoder]
    rfl
  · exact loadFile_decoder d ⟨place.work, path⟩

/-- Loading looks at the verdicts on bytes, and at nothing else that a reading does. -/
theorem load_congr {d d' : Reader ε} (h : ∀ bytes, d'.verdict bytes = d.verdict bytes) (place : Place)
    (path : String) : load d'.decoder place path = load d.decoder place path := by
  have hsettings : Source.settings? d' = Source.settings? d := by
    funext f
    simp only [Source.settings?, h]
  simp only [load_decoder, Source.loaded, Reader.lastResort, h, hsettings]

/-- **Settings are loaded from one source.** A given file that is usable gives its settings, and they
come without an error. If it is not, the error says why, and with it come the default settings. Without
a given file there is no error: the settings are those of the first usable file of the usual places, or
else those of the built-in text if it is understood, or else the default ones. In every case, settings
that a reading leaves behind together with an error make no difference. -/
theorem load_takes_one_source (d : Reader ε) (place : Place) (path : String) :
    (path ≠ "" →
      (∀ s, load d.decoder place path = .ok (s, none) ↔ Source.Gives d ⟨place.work, path⟩ s) ∧
      ((∀ s, ¬Source.Gives d ⟨place.work, path⟩ s) → ∃ e,
        Source.Refused d ⟨place.work, path⟩ e ∧ load d.decoder place path = .ok (.default, some e))) ∧
    (path = "" → ∃ s, load d.decoder place path = .ok (s, none) ∧
      ((∃ before f after, place.sources = before ++ f :: after ∧ f.Gives d s ∧
          ∀ g ∈ before, ∀ r, ¬g.Gives d r) ∨
        (∀ g ∈ place.sources, ∀ r, ¬g.Gives d r) ∧
          (d (Text.bytes builtIn) .default = (s, none) ∨
            (d (Text.bytes builtIn) .default).2 ≠ none ∧ s = .default))) ∧
    ∀ d' : Reader ε, d.Alike d' → load d'.decoder place path = load d.decoder place path := by
  refine ⟨fun hpath => ?_, fun hpath => ?_, fun d' halike => load_congr halike.verdict_eq place path⟩
  · rw [load_decoder, if_neg hpath]
    refine ⟨fun s => ⟨fun hload => ?_, fun hs => by rw [loaded_of_gives hs]⟩, fun hnone => ?_⟩
    · by_cases hgives : ∃ r, Source.Gives d ⟨place.work, path⟩ r
      · obtain ⟨r, hr⟩ := hgives
        rw [loaded_of_gives hr] at hload
        cases hload
        exact hr
      · obtain ⟨e, -, he⟩ := loaded_of_not_gives (not_exists.mp hgives)
        rw [he] at hload
        cases hload
    · obtain ⟨e, hrefused, he⟩ := loaded_of_not_gives hnone
      exact ⟨e, hrefused, by rw [he]⟩
  · rw [load_decoder, if_pos hpath]
    refine ⟨_, rfl, ?_⟩
    cases hfirst : place.sources.findSome? (Source.settings? d) with
    | some s =>
      obtain ⟨before, f, after, hsplit, hf, hbefore⟩ := List.findSome?_eq_some_iff.mp hfirst
      exact .inl ⟨before, f, after, hsplit, Source.settings?_eq_some.mp hf,
        fun g hg => Source.settings?_eq_none.mp (hbefore g hg)⟩
    | none =>
      refine .inr ⟨fun g hg => Source.settings?_eq_none.mp (List.findSome?_eq_none_iff.mp hfirst g hg), ?_⟩
      exact d.lastResort_eq

end Screensaver.Settings
