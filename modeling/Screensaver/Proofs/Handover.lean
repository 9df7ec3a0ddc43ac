import Screensaver.Proofs.Launching
import Screensaver.Proofs.Watching

/-! From settings to strokes.

Four places have a say in what a run is like: the options, which replace settings; the check, which
turns settings away; the way to a run, which cuts glyph codes to 32 bits; and the loop, which puts its
own pause and its own glyphs in the place of those it cannot use. `backend_heeds_settings` says that
they agree. What the check lets through is not changed by the cut and is all usable for the loop, so a
backend is given the settings as they were checked, and a loop with what it was given pauses as long and
writes the glyphs that the settings say. -/
namespace Screensaver

/-! ### Settings that pass the check -/

/-- Settings that a run can start with, where `level?` knows the names of log levels. -/
structure Settings.Fit (level? : ByteText → Option Log.Level) (s : Settings) : Prop where
  backend : s.backend.isEmpty = false
  interval : 0 < s.interval
  count : 0 ≤ s.count
  low : 32 ≤ s.glyphMin
  high : s.glyphMax ≤ 126
  order : s.glyphMin ≤ s.glyphMax
  logLevel : (level? s.logLevel).isSome = true

/-- One step of a check that reports the first thing that is wrong. -/
theorem ite_some_eq_none {α : Type} {c : Prop} [Decidable c] {a : α} {rest : Option α} :
    (if c then some a else rest) = none ↔ ¬c ∧ rest = none := by
  split <;> simp [*]

theorem Settings.unfit?_eq_none {level? : ByteText → Option Log.Level} {s : Settings} :
    s.unfit? level? = none ↔ s.Fit level? := by
  simp only [unfit?, ite_some_eq_none, not_or, Int64.not_le, Int64.not_lt, Bool.not_eq_true,
    Option.isNone_eq_false_iff, and_true]
  constructor
  · rintro ⟨hbackend, hinterval, hcount, ⟨hlow, hhigh⟩, horder, hlevel⟩
    exact ⟨hbackend, hinterval, hcount, hlow, hhigh, horder, hlevel⟩
  · rintro ⟨hbackend, hinterval, hcount, hlow, hhigh, horder, hlevel⟩
    exact ⟨hbackend, hinterval, hcount, ⟨hlow, hhigh⟩, horder, hlevel⟩

/-- The settings of a run are those that have been checked, with the options laid over them. -/
theorem Saver.settings_fit {ε : Type} {reading : Settings.Reading ε} {place : Settings.Place}
    {o : Options} {s : Settings} (h : settings reading place o = .ok (s, none)) :
    s.Fit reading.level? := by
  unfold settings at h
  rcases hload : Settings.load reading.decode place (o.config.getD "") with f | ⟨loaded, _ | e⟩
  · rw [hload] at h
    cases h
  · rw [hload] at h
    obtain ⟨rfl, hunfit⟩ := Prod.mk.inj (Except.ok.inj h)
    exact Settings.unfit?_eq_none.mp (Option.map_eq_none_iff.mp hunfit)
  · rw [hload] at h
    cases h

/-! ### The way to a run -/

/-- A run is given these settings, number for number. -/
structure Settings.Carried (s : Settings) (given : RunSettings) : Prop where
  interval : given.interval = s.interval
  seed : given.seed = s.seed
  count : given.count = s.count
  glyphMin : given.glyphMin.toInt = s.glyphMin.toInt
  glyphMax : given.glyphMax.toInt = s.glyphMax.toInt
  title : given.title = s.title

/-- What a loop can use as it is. -/
structure RunSettings.Fit (given : RunSettings) : Prop where
  interval : 0 < given.interval
  count : 0 ≤ given.count
  low : 32 ≤ given.glyphMin
  order : given.glyphMin ≤ given.glyphMax
  high : given.glyphMax ≤ 126

/-- The cut to 32 bits loses nothing of a printable code. -/
theorem toInt_toInt32_of_printable {a : Int64} (hlow : 32 ≤ a) (hhigh : a ≤ 126) :
    a.toInt32.toInt = a.toInt := by
  have hthirtyTwo : (32 : Int64).toInt = 32 := rfl
  have hlast : (126 : Int64).toInt = 126 := rfl
  rw [Int64.le_iff_toInt_le] at hlow hhigh
  rw [Int64.toInt_toInt32]
  exact Int.bmod_eq_of_le (by omega) (by omega)

/-- A code that would be a letter after the cut does not get that far. -/
example : (4294967361 : Int64).toInt32 = 65 ∧
    { Settings.default with glyphMin := 4294967361 }.unfit? Log.Level.ofText? =
      some (.inverted 4294967361 126) := by
  decide

namespace Settings.Fit
variable {level? : ByteText → Option Log.Level} {s : Settings}

theorem carried (h : s.Fit level?) : s.Carried s.runSettings where
  interval := rfl
  seed := rfl
  count := rfl
  glyphMin := toInt_toInt32_of_printable h.low (Int64.le_trans h.order h.high)
  glyphMax := toInt_toInt32_of_printable (Int64.le_trans h.low h.order) h.high
  title := rfl

theorem runSettings (h : s.Fit level?) : s.runSettings.Fit := by
  have hmin : s.runSettings.glyphMin.toInt = s.glyphMin.toInt := h.carried.glyphMin
  have hmax : s.runSettings.glyphMax.toInt = s.glyphMax.toInt := h.carried.glyphMax
  refine ⟨h.interval, h.count, ?_, ?_, ?_⟩
  · rw [Int32.le_iff_toInt_le, hmin]
    exact Int64.le_iff_toInt_le.mp h.low
  · rw [Int32.le_iff_toInt_le, hmin, hmax]
    exact Int64.le_iff_toInt_le.mp h.order
  · rw [Int32.le_iff_toInt_le, hmax]
    exact Int64.le_iff_toInt_le.mp h.high

end Settings.Fit

namespace RunSettings.Fit
variable {given : RunSettings}

/-- No glyphs are put in the place of the given ones. -/
theorem glyphRange (h : given.Fit) :
    Picker.glyphRange given.glyphMin given.glyphMax = (given.glyphMin, given.glyphMax) := by
  refine if_neg ?_
  rintro (horder | hlow | hhigh)
  · exact Int32.not_lt.mpr h.order horder
  · exact Int32.not_lt.mpr h.low hlow
  · exact Int32.not_lt.mpr h.high hhigh

/-- No pause is put in the place of the given one. -/
theorem effective (h : given.Fit) (clock : Int64) :
    Loop.effective clock given =
      { given with seed := if given.seed = 0 then clock else given.seed } := by
  simp only [Loop.effective, if_neg (Int64.not_le.mpr h.interval)]

end RunSettings.Fit

/-! ### Runs -/

namespace Saver
variable {ε : Type}

/-- A backend runs with what the settings of an admitted run come to. -/
theorem mem_noted {reading : Settings.Reading ε} {registry : Registry Runner}
    {place : Settings.Place} {stamp : String} {o : Options} {name : ByteText} {given : RunSettings}
    (h : (name, given) ∈ (noted reading registry place stamp o).2) :
    ∃ s, settings reading place o = .ok (s, none) ∧ given = s.runSettings := by
  rcases admits_or_denies reading registry place o with ⟨s, b, hadmits⟩ | ⟨e, hdenies⟩
  · rw [hadmits.noted, List.mem_singleton] at h
    exact ⟨s, hadmits.settings, congrArg Prod.snd h⟩
  · rw [hdenies.noted] at h
    cases h

/-- **A backend is given settings that it can use, and they are heeded.** Whenever a backend runs, the
settings have passed the check, and what the backend is given is fit for a run and says the same, number
for number. A loop on any terminal, whatever is done with it, then keeps the pause of the settings and
their range of glyphs, and writes no glyph outside of it; with a seed of its own it takes everything as
given. -/
theorem backend_heeds_settings (reading : Settings.Reading ε) (registry : Registry Runner)
    (place : Settings.Place) (stamp : String) (o : Options) {name : ByteText} {given : RunSettings}
    (h : (name, given) ∈ (noted reading registry place stamp o).2) :
    ∃ s, settings reading place o = .ok (s, none) ∧ s.Carried given ∧ given.Fit ∧
      ∀ (τ : Type) [Terminal τ] (clock : Int64) (t : τ) (uses : List (Use τ)),
        (∀ l, Use.history uses (Loop.new clock t given) = some l →
          l.interval = s.interval ∧ (given.seed ≠ 0 → l.config = given) ∧
          l.picker.glyphMin.toInt = s.glyphMin.toInt ∧ l.picker.glyphMax.toInt = s.glyphMax.toInt) ∧
        ∀ g, Call.write g ∈ Use.calls uses (Loop.new clock t given) →
          s.glyphMin.toInt ≤ g.toInt ∧ g.toInt ≤ s.glyphMax.toInt := by
  obtain ⟨s, hs, rfl⟩ := mem_noted h
  have hfit := settings_fit hs
  have hcarried := hfit.carried
  have hgiven := hfit.runSettings
  refine ⟨s, hs, hcarried, hgiven, fun τ _ clock t uses => ?_⟩
  obtain ⟨hkept, hwritten⟩ := Loop.history_ranged clock t s.runSettings uses
  rw [hgiven.glyphRange] at hkept hwritten
  refine ⟨fun l hl => ?_, fun g hg => ?_⟩
  · obtain ⟨hconfig, hrange⟩ := hkept l hl
    obtain ⟨hmin, hmax⟩ := Prod.mk.inj hrange
    rw [hgiven.effective] at hconfig
    refine ⟨?_, fun hseed => ?_, ?_, ?_⟩
    · rw [Loop.interval, hconfig]
      exact hcarried.interval
    · rw [hconfig, if_neg hseed]
    · rw [hmin]
      exact hcarried.glyphMin
    · rw [hmax]
      exact hcarried.glyphMax
  · obtain ⟨hlow, hhigh⟩ := hwritten g hg
    rw [← hcarried.glyphMin, ← hcarried.glyphMax]
    exact ⟨Int32.le_iff_toInt_le.mp hlow, Int32.le_iff_toInt_le.mp hhigh⟩

/-! Capital letters from a file, and a seed from the options. -/

def capitals : Settings.Reading Empty where
  decode _ s := .ok ({ s with glyphMin := 65, glyphMax := 90 }, none)
  level? := Log.Level.ofText?

def idler : Backend Runner :=
  ⟨.ofString "console", .ofString "Does nothing", fun _ => ⟨[], .ok ⟨.count, 0⟩⟩⟩

theorem capitals_admitted :
    Admits capitals ⟨[idler]⟩ ⟨.empty, none⟩ { Options.none with seed := some 7 }
      { Settings.default with seed := 7, glyphMin := 65, glyphMax := 90 } idler := by
  have hload : Settings.load capitals.decode ⟨.empty, none⟩ "" =
      .ok ({ Settings.default with glyphMin := 65, glyphMax := 90 }, none) := by
    simp only [Settings.load, Settings.search, Settings.userSettings?, Settings.usable?]
    cases FileTree.empty.read Settings.localPath <;> rfl
  have hunfit : { Settings.default with seed := 7, glyphMin := 65, glyphMax := 90 }.unfit?
      capitals.level? = none := by
    decide +kernel
  refine ⟨?_, List.find?_cons_of_pos (decide_eq_true rfl), .inl rfl⟩
  show (Settings.load capitals.decode _ "" >>= _) = _
  rw [hload]
  exact congrArg (fun u => Except.ok (_, Option.map SaverError.unfit u)) hunfit

theorem backend_heeds_settings_capitals :
    (.ofString "console", ⟨5000000, 7, 0, 65, 90, ""⟩) ∈
      (noted capitals ⟨[idler]⟩ ⟨.empty, none⟩ "" { Options.none with seed := some 7 }).2 ∧
    ∃ s, settings capitals ⟨.empty, none⟩ { Options.none with seed := some 7 } = .ok (s, none) ∧
      s.Carried ⟨5000000, 7, 0, 65, 90, ""⟩ ∧ RunSettings.Fit ⟨5000000, 7, 0, 65, 90, ""⟩ := by
  have hmem : (.ofString "console", ⟨5000000, 7, 0, 65, 90, ""⟩) ∈
      (noted capitals ⟨[idler]⟩ ⟨.empty, none⟩ "" { Options.none with seed := some 7 }).2 := by
    rw [capitals_admitted.noted]
    exact List.mem_singleton.mpr rfl
  obtain ⟨s, hs, hcarried, hfit, -⟩ := backend_heeds_settings capitals ⟨[idler]⟩ ⟨.empty, none⟩ ""
    { Options.none with seed := some 7 } hmem
  exact ⟨hmem, s, hs, hcarried, hfit⟩

end Saver

end Screensaver
