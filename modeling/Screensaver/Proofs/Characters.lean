import Mathlib.Algebra.Group.Nat.Defs
import Screensaver.Text.ByteText

/-! Characters and their bytes.

`Text.firstChar?` takes the bytes of one character off the front, and it takes exactly what encoding
gives (`firstChar?_eq_some`): nothing longer than needed, nothing that stands for no character.

To be shown, bytes that are no text are read as well (`Lenient`). Where all bytes belong to characters
these are what is read (`text_ofString`), and two texts in bytes are shown one after the other wherever
the second one does not continue a character (`toList_text_append`). -/
namespace Screensaver.Text

theorem bytes_ofList (cs : List Char) : bytes (.ofList cs) = cs.flatMap String.utf8EncodeChar := by
  show (String.ofList cs).toByteArray.data.toList = _
  exact List.toList_data_toByteArray

theorem bytes_eq (s : String) : bytes s = s.toList.flatMap String.utf8EncodeChar := by
  rw [← bytes_ofList, String.ofList_toList]

/-! ### Bytes that continue a character -/

/-- The bytes with the last `n` digits of a number to the base 64. -/
def tail : (n : Nat) → Nat → List UInt8
  | 0, _ => []
  | n + 1, v => .ofNat (v / 64 ^ n % 64 + 0x80) :: tail n v

theorem le_of_mem_tail {n v : Nat} {b : UInt8} (h : b ∈ tail n v) : 0x80 ≤ b := by
  induction n with
  | zero => cases h
  | succ n ih =>
    rcases List.mem_cons.mp h with rfl | h
    · have hlt : v / 64 ^ n % 64 + 0x80 < 256 := by omega
      rw [UInt8.le_iff_toNat_le, UInt8.toNat_ofNat_of_lt' hlt]
      exact Nat.le_add_left _ _
    · exact ih h

theorem continuation?_eq_some {b : UInt8} {p : Nat} :
    continuation? b = some p ↔ p < 64 ∧ b = .ofNat (p + 0x80) := by
  have hlow : (0x80 : UInt8).toNat = 128 := rfl
  have hhigh : (0xC0 : UInt8).toNat = 192 := rfl
  simp only [continuation?, UInt8.le_iff_toNat_le, UInt8.lt_iff_toNat_lt, hlow, hhigh]
  constructor
  · split
    · intro h
      obtain rfl := Option.some.inj h
      refine ⟨by omega, ?_⟩
      apply UInt8.toNat_inj.mp
      rw [UInt8.toNat_ofNat_of_lt' (show _ < 256 by omega)]
      omega
    · nofun
  · rintro ⟨hp, rfl⟩
    rw [UInt8.toNat_ofNat_of_lt' (show _ < 256 by omega), if_pos (by omega), Nat.add_sub_cancel]

/-- Reading on from `u` gives `w` exactly if the bytes hold the last digits of `w` and `u` is what comes
before them. -/
theorem continuations_eq_some {n u w : Nat} {bs rest : List UInt8} :
    continuations n u bs = some (w, rest) ↔ bs = tail n w ++ rest ∧ w / 64 ^ n = u := by
  induction n generalizing u bs with
  | zero =>
    simp only [continuations, tail, Option.some.injEq, Prod.mk.injEq, List.nil_append, Nat.pow_zero,
      Nat.div_one]
    exact ⟨fun h => ⟨h.2, h.1.symm⟩, fun h => ⟨h.2.symm, h.1⟩⟩
  | succ n ih =>
    have hpow : w / 64 ^ (n + 1) = w / 64 ^ n / 64 := by rw [Nat.pow_succ, Nat.div_div_eq_div_mul]
    cases bs with
    | nil => simp [continuations, tail]
    | cons b bs =>
      simp only [continuations, Option.bind_eq_some_iff, continuation?_eq_some, ih, tail,
        List.cons_append, List.cons.injEq, hpow]
      constructor
      · rintro ⟨p, ⟨hp, rfl⟩, rfl, hw⟩
        have hdigit : w / 64 ^ n % 64 = p := by omega
        exact ⟨⟨by rw [hdigit], rfl⟩, by omega⟩
      · rintro ⟨⟨rfl, rfl⟩, rfl⟩
        exact ⟨w / 64 ^ n % 64, ⟨Nat.mod_lt _ (by decide), rfl⟩, rfl, by omega⟩

/-! ### Whole characters -/

theorem charFrom?_eq_some {least code : Nat} {c : Char} :
    charFrom? least code = some c ↔ least ≤ code ∧ c.toNat = code := by
  unfold charFrom?
  constructor
  · split
    · next h =>
      intro hc
      obtain rfl := Option.some.inj hc
      refine ⟨h.1, ?_⟩
      rw [Char.ofNat, dif_pos h.2]
      rfl
    · nofun
  · rintro ⟨hleast, rfl⟩
    rw [if_pos ⟨hleast, c.valid⟩, Char.ofNat_toNat]

theorem take_eq_some {n least start : Nat} {bs rest : List UInt8} {c : Char} :
    firstChar?.take n least start bs = some (c, rest) ↔
      bs = tail n c.toNat ++ rest ∧ c.toNat / 64 ^ n = start ∧ least ≤ c.toNat := by
  simp only [firstChar?.take, Option.bind_eq_some_iff, Option.map_eq_some_iff, Prod.exists,
    Prod.mk.injEq, continuations_eq_some, charFrom?_eq_some]
  constructor
  · rintro ⟨code, rest, ⟨rfl, hstart⟩, c, ⟨hleast, rfl⟩, rfl, rfl⟩
    exact ⟨rfl, hstart, hleast⟩
  · rintro ⟨rfl, hstart, hleast⟩
    exact ⟨c.toNat, rest, ⟨rfl, hstart⟩, c, ⟨hleast, rfl⟩, rfl, rfl⟩

/-- The number of bytes after the first one. -/
def extra (v : Nat) : Nat :=
  if v < 0x80 then 0 else if v < 0x800 then 1 else if v < 0x10000 then 2 else 3

/-- The first byte: what is left of the number, and a mark for how many bytes follow. -/
def lead (v : Nat) : Nat :=
  if v < 0x80 then v
  else if v < 0x800 then v / 64 + 0xC0
  else if v < 0x10000 then v / 4096 + 0xE0
  else v / 262144 + 0xF0

theorem toNat_lt (c : Char) : c.toNat < 0x110000 := by
  rcases c.valid with h | h
  · exact Nat.lt_trans h (by decide)
  · exact h.2

theorem lead_lt {v : Nat} (h : v < 0x110000) : lead v < 256 := by
  unfold lead
  split
  · omega
  · split
    · omega
    · split <;> omega

theorem utf8EncodeChar_eq (c : Char) :
    String.utf8EncodeChar c = .ofNat (lead c.toNat) :: tail (extra c.toNat) c.toNat := by
  have hval : c.val.toNat = c.toNat := rfl
  have hlt := toNat_lt c
  simp only [String.utf8EncodeChar, hval, lead, extra]
  generalize c.toNat = v at hlt
  by_cases h₁ : v < 0x80
  · rw [if_pos (by omega), if_pos h₁, if_pos h₁]
    rfl
  · by_cases h₂ : v < 0x800
    · rw [if_neg (by omega), if_pos (by omega), if_neg h₁, if_pos h₂, if_neg h₁, if_pos h₂]
      simp [tail, Nat.mod_eq_of_lt (show v / 64 < 32 by omega)]
    · by_cases h₃ : v < 0x10000
      · rw [if_neg (by omega), if_neg (by omega), if_pos (by omega), if_neg h₁, if_neg h₂, if_pos h₃,
          if_neg h₁, if_neg h₂, if_pos h₃]
        simp [tail, Nat.mod_eq_of_lt (show v / 4096 < 16 by omega)]
      · rw [if_neg (by omega), if_neg (by omega), if_neg (by omega), if_neg h₁, if_neg h₂, if_neg h₃,
          if_neg h₁, if_neg h₂, if_neg h₃]
        simp [tail, Nat.mod_eq_of_lt (show v / 262144 < 8 by omega)]

/-- The bytes begin with a character exactly if they begin with its encoding. -/
theorem firstChar?_eq_some {bs rest : List UInt8} {c : Char} :
    firstChar? bs = some (c, rest) ↔ bs = String.utf8EncodeChar c ++ rest := by
  rw [utf8EncodeChar_eq]
  cases bs with
  | nil => simp [firstChar?]
  | cons b bs =>
    have hlt := toNat_lt c
    have hbyte : b = .ofNat (lead c.toNat) ↔ b.toNat = lead c.toNat := by
      rw [← UInt8.toNat_inj, UInt8.toNat_ofNat_of_lt' (lead_lt hlt)]
    have h80 : (0x80 : UInt8).toNat = 0x80 := rfl
    have hC0 : (0xC0 : UInt8).toNat = 0xC0 := rfl
    have hE0 : (0xE0 : UInt8).toNat = 0xE0 := rfl
    have hF0 : (0xF0 : UInt8).toNat = 0xF0 := rfl
    have hF8 : (0xF8 : UInt8).toNat = 0xF8 := rfl
    simp only [List.cons_append, List.cons.injEq, hbyte, firstChar?, UInt8.lt_iff_toNat_lt, h80, hC0, hE0,
      hF0, hF8]
    -- The first byte tells how many follow. From 0x80 to 0xBF, and from 0xF8 on, it begins nothing, and
    -- no character's first byte is there.
    split
    · next hb =>
      have hlead : b.toNat = lead c.toNat ↔ c.toNat = b.toNat := by grind [lead]
      have hextra : c.toNat = b.toNat → extra c.toNat = 0 := by grind [extra]
      rw [hlead, Option.some.injEq, Prod.mk.injEq]
      constructor
      · rintro ⟨rfl, rfl⟩
        have hcode : (Char.ofNat b.toNat).toNat = b.toNat := by
          rw [Char.ofNat, dif_pos (.inl (by omega))]
          rfl
        exact ⟨hcode, by rw [hextra hcode]; rfl⟩
      · rintro ⟨hcode, rfl⟩
        exact ⟨by rw [← hcode, Char.ofNat_toNat], by rw [hextra hcode]; rfl⟩
    · split
      · grind [lead]
      · split
        · rw [take_eq_some]
          grind [lead, extra]
        · split
          · rw [take_eq_some]
            grind [lead, extra]
          · split
            · rw [take_eq_some]
              grind [lead, extra]
            · grind [lead]

/-! ### Texts -/

theorem flatMap_utf8EncodeChar_eq_nil {cs : List Char} :
    cs.flatMap String.utf8EncodeChar = [] ↔ cs = [] := by
  cases cs with
  | nil => simp
  | cons c rest => simp [String.utf8EncodeChar_ne_nil]

theorem bytes_eq_nil {s : String} : bytes s = [] ↔ s = "" := by
  rw [bytes_eq, flatMap_utf8EncodeChar_eq_nil, String.toList_eq_nil_iff]

/-- A character takes at least one byte. -/
theorem length_le_of_eq {b : UInt8} {bs rest : List UInt8} {c : Char}
    (h : b :: bs = String.utf8EncodeChar c ++ rest) : rest.length ≤ bs.length := by
  have hlength := congrArg List.length h
  have hpos := c.utf8Size_pos
  simp only [List.length_cons, List.length_append, String.length_utf8EncodeChar] at hlength
  omega

/-! ### Reading leniently -/

/-- The characters that bytes are read as, where those that begin no character are replaced one by
one. -/
inductive Lenient : List UInt8 → List Char → Prop where
  | nil : Lenient [] []
  | char (c : Char) {rest : List UInt8} {cs : List Char} :
      Lenient rest cs → Lenient (String.utf8EncodeChar c ++ rest) (c :: cs)
  | stray (b : UInt8) {bs : List UInt8} {cs : List Char} : firstChar? (b :: bs) = none →
      Lenient bs cs → Lenient (b :: bs) (Char.ofNat 0xFFFD :: cs)

namespace Lenient
variable {bs bs' : List UInt8} {cs cs' : List Char}

theorem exists_of_length (n : Nat) (bs : List UInt8) (h : bs.length ≤ n) : ∃ cs, Lenient bs cs := by
  induction n generalizing bs with
  | zero =>
    obtain rfl := List.length_eq_zero_iff.mp (Nat.le_zero.mp h)
    exact ⟨[], .nil⟩
  | succ n ih =>
    cases bs with
    | nil => exact ⟨[], .nil⟩
    | cons b bs =>
      have hbs := Nat.le_of_succ_le_succ h
      cases hfirst : firstChar? (b :: bs) with
      | none =>
        obtain ⟨cs, hcs⟩ := ih bs hbs
        exact ⟨_, .stray b hfirst hcs⟩
      | some found =>
        obtain ⟨c, rest⟩ := found
        have hbytes := firstChar?_eq_some.mp hfirst
        obtain ⟨cs, hcs⟩ := ih rest (Nat.le_trans (length_le_of_eq hbytes) hbs)
        exact ⟨c :: cs, hbytes ▸ .char c hcs⟩

/-- With as many steps as there are bytes, all of them are read. -/
theorem readLenient (h : Lenient bs cs) {fuel : Nat} {read : Array Char} (hfuel : bs.length ≤ fuel) :
    Text.readLenient fuel read bs = read ++ cs.toArray := by
  induction h generalizing fuel read with
  | nil => cases fuel <;> simp [Text.readLenient]
  | @char c rest cs _ ih =>
    generalize hbytes : String.utf8EncodeChar c ++ rest = bs at hfuel ⊢
    cases bs with
    | nil => simp [String.utf8EncodeChar_ne_nil] at hbytes
    | cons b bs =>
      cases fuel with
      | zero => simp at hfuel
      | succ fuel =>
        have hshort : rest.length ≤ fuel :=
          Nat.le_trans (length_le_of_eq hbytes.symm) (Nat.le_of_succ_le_succ hfuel)
        simp only [Text.readLenient, firstChar?_eq_some.mpr hbytes.symm, ih hshort]
        simp
  | @stray b bs cs hfirst _ ih =>
    cases fuel with
    | zero => simp at hfuel
    | succ fuel =>
      simp only [Text.readLenient, hfirst, ih (Nat.le_of_succ_le_succ hfuel)]
      simp

theorem decodeLenient (h : Lenient bs cs) : (Text.decodeLenient bs).toList = cs := by
  rw [Text.decodeLenient, h.readLenient (Nat.le_refl _)]
  simp

theorem length_le (h : Lenient bs cs) : cs.length ≤ bs.length := by
  induction h with
  | nil => exact Nat.le_refl 0
  | char c _ ih =>
    have hpos := c.utf8Size_pos
    rw [List.length_cons, List.length_append, String.length_utf8EncodeChar]
    omega
  | stray b _ _ ih => exact Nat.succ_le_succ ih

/-- Where all bytes belong to characters, nothing is replaced, whatever comes next. -/
theorem flatMap_append (cs : List Char) (h : Lenient bs' cs') :
    Lenient (cs.flatMap String.utf8EncodeChar ++ bs') (cs ++ cs') := by
  induction cs with
  | nil => exact h
  | cons c cs ih =>
    rw [List.flatMap_cons, List.append_assoc]
    exact .char c ih

/-- Bytes are read on their own if what comes next continues no character. -/
theorem append (h : Lenient bs cs) (h' : Lenient bs' cs') (hnext : ∀ b ∈ bs'.head?, b < 0x80) :
    Lenient (bs ++ bs') (cs ++ cs') := by
  induction h with
  | nil => exact h'
  | char c _ ih =>
    rw [List.append_assoc]
    exact .char c ih
  | @stray b bs cs hfirst _ ih =>
    have hnone (c : Char) (rest : List UInt8) : b :: bs ≠ String.utf8EncodeChar c ++ rest := by
      intro hbytes
      rw [firstChar?_eq_some.mpr hbytes] at hfirst
      cases hfirst
    refine .stray b (Option.eq_none_iff_forall_ne_some.mpr fun (c, rest) hfound => ?_) ih
    -- A character that begins with `b` would end in `bs` or reach into `bs'`.
    obtain ⟨reach, hchar, hbs'⟩ | ⟨left, hbytes, -⟩ :=
      List.append_eq_append_iff.mp ((List.cons_append ..).trans (firstChar?_eq_some.mp hfound))
    · cases reach with
      | nil => exact hnone c [] (by rw [hchar, List.append_nil, List.append_nil])
      | cons next reach =>
        have hlow : next < 0x80 := hnext next (by rw [hbs']; rfl)
        rw [utf8EncodeChar_eq, List.cons_append, List.cons.injEq] at hchar
        exact absurd (le_of_mem_tail (by rw [hchar.2]; simp)) (UInt8.not_le.mpr hlow)
    · exact hnone c left hbytes

end Lenient

end Screensaver.Text

namespace Screensaver.ByteText

@[simp] theorem bytes_append (t t' : ByteText) : (t ++ t').bytes = t.bytes ++ t'.bytes := rfl

/-- What a text in bytes is shown as. -/
theorem lenient (t : ByteText) : Text.Lenient t.bytes t.text.toList := by
  obtain ⟨cs, hcs⟩ := Text.Lenient.exists_of_length t.bytes.length t.bytes (Nat.le_refl _)
  rw [text, hcs.decodeLenient]
  exact hcs

theorem lenient_ofString (s : String) : Text.Lenient (ofString s).bytes s.toList := by
  have h := Text.Lenient.flatMap_append s.toList .nil
  rw [List.append_nil, List.append_nil, ← Text.bytes_eq] at h
  exact h

theorem text_ofString (s : String) : (ofString s).text = s := by
  rw [← String.toList_inj]
  exact (lenient_ofString s).decodeLenient

theorem toList_text_append {t t' : ByteText} (hnext : ∀ b ∈ t'.bytes.head?, b < 0x80) :
    (t ++ t').text.toList = t.text.toList ++ t'.text.toList :=
  (t.lenient.append t'.lenient hnext).decodeLenient

theorem toList_text_ofString_append (s : String) (t : ByteText) :
    (ofString s ++ t).text.toList = s.toList ++ t.text.toList := by
  have h := Text.Lenient.flatMap_append s.toList t.lenient
  rw [← Text.bytes_eq] at h
  exact h.decodeLenient

/-- A text has no more characters than bytes. -/
theorem length_le_bytes (t : ByteText) : t.length ≤ t.bytes.length := by
  rw [length, ← String.length_toList]
  exact t.lenient.length_le

end Screensaver.ByteText
