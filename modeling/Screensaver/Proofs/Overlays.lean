import Screensaver.Proofs.Characters
import Screensaver.Proofs.Handover

/-! Options over settings.

An option that was given replaces one setting, whatever its value, and an option that was not given
leaves it alone (`overlay_overlaid`). What is checked is the result. Each check looks at one setting, so
whether it is passed is up to the option for this setting if it was given, and otherwise up to the
settings that were loaded (`passes_overlay`): a good option mends a bad setting, a bad option spoils a
good one, and neither has to do with any other setting.

`settings_overlaid` puts this together with loading, which comes first: if it fails, the options do not
matter. -/
namespace Screensaver

/-! ### Checks -/

/-- What settings are checked for. -/
inductive Check where
  | backend
  | interval
  | count
  | glyphs
  | logLevel
deriving DecidableEq

/-- Settings pass a check, where `level?` knows the names of log levels. -/
def Check.Passes (level? : ByteText → Option Log.Level) (s : Settings) : Check → Prop
  | .backend => s.backend.bytes ≠ []
  | .interval => 0 < s.interval
  | .count => 0 ≤ s.count
  | .glyphs => 32 ≤ s.glyphMin ∧ s.glyphMin ≤ s.glyphMax ∧ s.glyphMax ≤ 126
  | .logLevel => ∃ level, level? s.logLevel = some level

/-- The check that has found something wrong. -/
def Unfit.check : Unfit → Check
  | .noBackend => .backend
  | .interval _ => .interval
  | .count _ => .count
  | .unprintable _ _ => .glyphs
  | .inverted _ _ => .glyphs
  | .logLevel _ => .logLevel

namespace Settings
variable {level? : ByteText → Option Log.Level} {s : Settings}

theorem isEmpty_backend : s.backend.isEmpty = false ↔ Check.backend.Passes level? s := by
  rw [ByteText.isEmpty, List.isEmpty_eq_false_iff]
  rfl

theorem isSome_level : (level? s.logLevel).isSome = true ↔ Check.logLevel.Passes level? s :=
  Option.isSome_iff_exists

theorem fit_iff : s.Fit level? ↔ ∀ c : Check, c.Passes level? s := by
  constructor
  · intro h c
    cases c with
    | backend => exact isEmpty_backend.mp h.backend
    | interval => exact h.interval
    | count => exact h.count
    | glyphs => exact ⟨h.low, h.order, h.high⟩
    | logLevel => exact isSome_level.mp h.logLevel
  · intro h
    obtain ⟨hlow, horder, hhigh⟩ := h .glyphs
    exact ⟨isEmpty_backend.mpr (h .backend), h .interval, h .count, hlow, hhigh, horder,
      isSome_level.mpr (h .logLevel)⟩

/-- One step of a check that reports the first thing that is wrong. -/
theorem ite_some_eq_some {α : Type} {c : Prop} [Decidable c] {a b : α} {rest : Option α} :
    (if c then some a else rest) = some b ↔ c ∧ a = b ∨ ¬c ∧ rest = some b := by
  split <;> simp [*]

/-- What is reported is something that is wrong. -/
theorem not_passes_of_unfit? {u : Unfit} (h : s.unfit? level? = some u) :
    ¬u.check.Passes level? s := by
  simp only [unfit?, ite_some_eq_some] at h
  rcases h with ⟨hempty, rfl⟩ | ⟨-, h⟩
  · intro hpass
    rw [isEmpty_backend.mpr hpass] at hempty
    cases hempty
  rcases h with ⟨hle, rfl⟩ | ⟨-, h⟩
  · exact Int64.not_lt.mpr hle
  rcases h with ⟨hlt, rfl⟩ | ⟨-, h⟩
  · exact Int64.not_le.mpr hlt
  rcases h with ⟨hout, rfl⟩ | ⟨-, h⟩
  · rintro ⟨hlow, -, hhigh⟩
    exact hout.elim (Int64.not_lt.mpr hlow) (Int64.not_lt.mpr hhigh)
  rcases h with ⟨hlt, rfl⟩ | ⟨-, h⟩
  · exact fun hpass => Int64.not_lt.mpr hpass.2.1 hlt
  rcases h with ⟨hnone, rfl⟩ | ⟨-, h⟩
  · rintro ⟨level, hlevel⟩
    rw [hlevel] at hnone
    cases hnone
  · cases h

end Settings

/-! ### Options -/

/-- The new value is that of the option if it was given, whatever it is, and the old one otherwise. -/
structure Takes {α β : Type} (option : Option α) (valueOf : α → β) (old new : β) : Prop where
  given : ∀ v, option = some v → new = valueOf v
  spared : option = none → new = old

namespace Options

/-- The settings `c` are the settings `s` with the options in place of what they are for. There is no
option for the glyphs. -/
structure Overlaid (o : Options) (s c : Settings) : Prop where
  backend : Takes o.backend ByteText.ofString s.backend c.backend
  interval : Takes o.interval id s.interval c.interval
  count : Takes o.count id s.count c.count
  title : Takes o.title id s.title c.title
  seed : Takes o.seed id s.seed c.seed
  logLevel : Takes o.logLevel ByteText.ofString s.logLevel c.logLevel
  glyphMin : c.glyphMin = s.glyphMin
  glyphMax : c.glyphMax = s.glyphMax

theorem takes_getD {α : Type} (option : Option α) (old : α) :
    Takes option id old (option.getD old) :=
  ⟨fun v hv => by rw [hv]; rfl, fun hv => by rw [hv]; rfl⟩

theorem takes_map_getD {α β : Type} (option : Option α) (valueOf : α → β) (old : β) :
    Takes option valueOf old ((option.map valueOf).getD old) :=
  ⟨fun v hv => by rw [hv]; rfl, fun hv => by rw [hv]; rfl⟩

theorem overlay_overlaid (o : Options) (s : Settings) : o.Overlaid s (o.overlay s) where
  backend := takes_map_getD _ _ _
  interval := takes_getD _ _
  count := takes_getD _ _
  title := takes_getD _ _
  seed := takes_getD _ _
  logLevel := takes_map_getD _ _ _
  glyphMin := rfl
  glyphMax := rfl

/-- What the option for a setting has to say to the check of it, if the option was given. -/
def verdict? (level? : ByteText → Option Log.Level) (o : Options) : Check → Option Prop
  | .backend => o.backend.map fun name => name ≠ ""
  | .interval => o.interval.map fun ns => 0 < ns
  | .count => o.count.map fun n => 0 ≤ n
  | .glyphs => Option.none
  | .logLevel => o.logLevel.map fun name => ∃ level, level? (.ofString name) = some level

/-- Each check is up to one option, or to one setting. -/
theorem passes_overlay (level? : ByteText → Option Log.Level) (o : Options) (s : Settings) (c : Check) :
    c.Passes level? (o.overlay s) ↔ (o.verdict? level? c).getD (c.Passes level? s) := by
  cases c with
  | backend =>
    cases hv : o.backend with
    | none => simp [Check.Passes, overlay, verdict?, hv]
    | some name => simp [Check.Passes, overlay, verdict?, hv, ByteText.ofString, Text.bytes_eq_nil]
  | interval => cases hv : o.interval <;> simp [Check.Passes, overlay, verdict?, hv]
  | count => cases hv : o.count <;> simp [Check.Passes, overlay, verdict?, hv]
  | glyphs => rfl
  | logLevel =>
    cases hv : o.logLevel with
    | none => simp [Check.Passes, overlay, verdict?, hv]
    | some name => simp [Check.Passes, overlay, verdict?, hv]

end Options

/-! ### The settings of a run -/

/-- With an error of loading come the default settings, whatever a decoder has left. -/
theorem Settings.loadFile_error {ε : Type} {decode : Decoder ε} {tree : FileTree} {path : String}
    {s : Settings} {e : LoadError ε} (h : loadFile decode tree path = .ok (s, some e)) : s = .default := by
  unfold loadFile at h
  cases hread : tree.read path with
  | error p =>
    rw [hread] at h
    cases h
    rfl
  | ok bytes =>
    rw [hread] at h
    rcases hparse : parse decode bytes with f | ⟨left, _ | p⟩
    · simp only [hparse] at h
      cases h
    · simp only [hparse] at h
      cases h
    · simp only [hparse] at h
      cases h
      rfl

theorem Settings.load_error {ε : Type} {decode : Decoder ε} {place : Place} {path : String}
    {s : Settings} {e : LoadError ε} (h : load decode place path = .ok (s, some e)) : s = .default := by
  unfold load at h
  split at h
  · cases hsearch : search decode place with
    | error f => rw [hsearch] at h; cases h
    | ok r => rw [hsearch] at h; cases h
  · exact loadFile_error h

namespace Saver
variable {ε : Type} {reading : Settings.Reading ε} {place : Settings.Place} {o : Options}

theorem settings_of_load {s : Settings}
    (h : Settings.load reading.decode place (o.config.getD "") = .ok (s, none)) :
    settings reading place o =
      .ok (o.overlay s, ((o.overlay s).unfit? reading.level?).map .unfit) := by
  unfold settings
  rw [h]
  rfl

/-- **Options are laid over what was loaded, setting by setting, and the result is checked.** If loading
succeeds, the settings of the run are those of the options that were given and otherwise the loaded ones.
They are reported to be unfit exactly if they fail a check, and what is reported is a check that they
fail. Each check is decided by the option for it, if that was given, and by the loaded settings if not.
If loading fails, the options are not looked at, and the default settings come with the error. -/
theorem settings_overlaid (reading : Settings.Reading ε) (place : Settings.Place) (o : Options) :
    (∀ s, Settings.load reading.decode place (o.config.getD "") = .ok (s, none) →
      ∃ c e, settings reading place o = .ok (c, e) ∧ o.Overlaid s c ∧
        (e = none ↔ ∀ k : Check, k.Passes reading.level? c) ∧
        ((∃ u, e = some (.unfit u) ∧ ¬u.check.Passes reading.level? c) ↔
          ∃ k : Check, ¬k.Passes reading.level? c) ∧
        ∀ k : Check, k.Passes reading.level? c ↔
          (o.verdict? reading.level? k).getD (k.Passes reading.level? s)) ∧
    (∀ s e, Settings.load reading.decode place (o.config.getD "") = .ok (s, some e) →
      settings reading place o = .ok (.default, some (.load e))) ∧
    (∀ f, Settings.load reading.decode place (o.config.getD "") = .error f →
      settings reading place o = .error f) := by
  refine ⟨fun s hload => ⟨_, _, settings_of_load hload, o.overlay_overlaid s, ?_, ?_,
    o.passes_overlay reading.level? s⟩, fun s e hload => ?_, fun f hload => ?_⟩
  · rw [Option.map_eq_none_iff, Settings.unfit?_eq_none, Settings.fit_iff]
  · rw [← not_forall, ← Settings.fit_iff, ← Settings.unfit?_eq_none]
    cases hunfit : (o.overlay s).unfit? reading.level? with
    | none => simp
    | some u => simp [Settings.not_passes_of_unfit? hunfit]
  · obtain rfl := Settings.load_error hload
    unfold settings
    rw [hload]
    rfl
  · unfold settings
    rw [hload]
    rfl

/-- Reads a pause that is not allowed from any file. -/
def stalled : Settings.Reading Empty where
  decode _ s := .ok ({ s with interval := -2, seed := 5 }, none)
  level? := Log.Level.ofText?

/-- A pause of a file that is not allowed is mended by an option, and a seed is replaced by zero. -/
theorem settings_overlaid_stalled :
    Settings.load stalled.decode ⟨.empty, none⟩ "" =
      .ok ({ Settings.default with interval := -2, seed := 5 }, none) ∧
    ¬Check.interval.Passes stalled.level? { Settings.default with interval := -2, seed := 5 } ∧
    ∃ c, settings stalled ⟨.empty, none⟩ { Options.none with seed := some 0, interval := some 1 } =
      .ok (c, none) ∧ c.interval = 1 ∧ c.seed = 0 ∧ c.count = Settings.default.count := by
  have hload : Settings.load stalled.decode ⟨.empty, none⟩ "" =
      .ok ({ Settings.default with interval := -2, seed := 5 }, none) := by
    simp only [Settings.load, Settings.search, Settings.userSettings?, Settings.usable?]
    cases FileTree.empty.read Settings.localPath <;> rfl
  have hdefault : Settings.default.Fit stalled.level? := Settings.unfit?_eq_none.mp (by decide +kernel)
  obtain ⟨hloaded, -⟩ := settings_overlaid stalled ⟨.empty, none⟩
    { Options.none with seed := some 0, interval := some 1 }
  obtain ⟨c, e, hc, hoverlaid, hreport, -, hchecks⟩ := hloaded _ hload
  have hpasses : ∀ k : Check, k.Passes stalled.level? c := by
    intro k
    rw [hchecks]
    cases k with
    | interval => exact (by decide : (0 : Int64) < 1)
    | backend => exact Settings.fit_iff.mp hdefault .backend
    | count => exact Settings.fit_iff.mp hdefault .count
    | glyphs => exact Settings.fit_iff.mp hdefault .glyphs
    | logLevel => exact Settings.fit_iff.mp hdefault .logLevel
  have hstalled : ¬(0 : Int64) < -2 := by decide
  refine ⟨hload, hstalled, c, ?_, hoverlaid.interval.given 1 rfl, hoverlaid.seed.given 0 rfl,
    hoverlaid.count.spared rfl⟩
  rw [hc, hreport.mpr hpasses]

end Saver

end Screensaver
