import Mathlib.Data.Fintype.Basic
import Mathlib.Data.List.SplitBy
import Mathlib.Tactic.FinCases
import Screensaver.Proofs.Displays
import Screensaver.Styled

/-! Nothing of a screen is lost when it is written as text.

`Teletype` reads such text as a terminal does: it follows the escape sequences that select colours,
starts a new line at a newline, and shows any other character in the colours selected last. A screen is
written in stretches of equal colours, and a pen that is `Lawful` closes each of them before the next
begins. So whatever comes before it, a stretch is read in its own colours and leaves none behind; this
carries over from stretches to rows and from rows to screens.

`screen_readable` says that reading a written screen gives its cells back, row by row and column by
column, each with its character and its two colours, and that without colours the text is the
characters of the rows and nothing else. -/
namespace Screensaver

/-! ### Teletypes -/

/-- How far a teletype has read an escape sequence. -/
inductive Teletype.Mode where
  /-- Outside. -/
  | text
  /-- The character that introduces a sequence has been read. -/
  | escape
  /-- Inside the parameters, of which the last may have more digits to come. -/
  | numbers (before : List Nat) (last : Nat)

/-- A terminal that only ever goes on to the next place and to the next line. -/
structure Teletype where
  mode : Teletype.Mode
  style : Style
  /-- The lines that are complete. -/
  done : List (List Tile)
  /-- The line that is being written. -/
  line : List Tile

namespace Teletype

/-- Nothing was written, and no colour is selected. -/
def fresh : Teletype :=
  ⟨.text, ⟨none, none⟩, [], []⟩

/-- What a parameter does to the selected colours: the dark colours, the bright ones, in the
foreground and in the background, and none. -/
def select (s : Style) (code : Nat) : Style :=
  if code = 0 then ⟨none, none⟩
  else if h : 30 ≤ code ∧ code ≤ 37 then { s with fg := some ⟨code - 30, by omega⟩ }
  else if h : 90 ≤ code ∧ code ≤ 97 then { s with fg := some ⟨code - 90 + 8, by omega⟩ }
  else if h : 40 ≤ code ∧ code ≤ 47 then { s with bg := some ⟨code - 40, by omega⟩ }
  else if h : 100 ≤ code ∧ code ≤ 107 then { s with bg := some ⟨code - 100 + 8, by omega⟩ }
  else s

/-- Reads a character outside escape sequences. -/
def put (t : Teletype) (c : Char) : Teletype :=
  if c = '\x1b' then { t with mode := .escape }
  else if c = '\n' then { t with mode := .text, done := t.done ++ [t.line], line := [] }
  else { t with mode := .text, line := t.line ++ [⟨.ofNat c.toNat, t.style⟩] }

/-- Reads a character. A sequence that breaks off is dropped. -/
def type (t : Teletype) (c : Char) : Teletype :=
  match t.mode with
  | .text => t.put c
  | .escape => if c = '[' then { t with mode := .numbers [] 0 } else t.put c
  | .numbers before last =>
    if c.isDigit then { t with mode := .numbers before (10 * last + (c.toNat - '0'.toNat)) }
    else if c = ';' then { t with mode := .numbers (before ++ [last]) 0 }
    else if c = 'm' then { t with mode := .text, style := (before ++ [last]).foldl select t.style }
    else t.put c

def typeAll (t : Teletype) (cs : List Char) : Teletype :=
  cs.foldl type t

/-- More on the line that is being written. -/
def add (t : Teletype) (tiles : List Tile) : Teletype :=
  { t with line := t.line ++ tiles }

/-- All lines, also the last, which no newline ends. -/
def lines (t : Teletype) : List (List Tile) :=
  t.done ++ [t.line]

/-- The lines of a text. -/
def read (text : String) : List (List Tile) :=
  (fresh.typeAll text.toList).lines

/-- Other colours are selected. -/
def dyed (t : Teletype) (s : Style) : Teletype :=
  { t with style := s }

/-- Between two stretches: outside escape sequences, and with no colour selected. -/
structure Ready (t : Teletype) : Prop where
  mode : t.mode = .text
  style : t.style = ⟨none, none⟩

theorem Ready.add {t : Teletype} (h : t.Ready) (tiles : List Tile) : (t.add tiles).Ready :=
  ⟨h.mode, h.style⟩

theorem add_nil (t : Teletype) : t.add [] = t := by
  simp [add]

theorem add_add (t : Teletype) (a b : List Tile) : (t.add a).add b = t.add (a ++ b) := by
  simp [add]

theorem typeAll_append (t : Teletype) (a b : List Char) :
    t.typeAll (a ++ b) = (t.typeAll a).typeAll b :=
  List.foldl_append

theorem typeAll_cons (t : Teletype) (c : Char) (cs : List Char) :
    t.typeAll (c :: cs) = (t.type c).typeAll cs :=
  rfl

/-! ### Escape sequences -/

theorem typeAll_digits {cs : List Char} (hcs : ∀ c ∈ cs, c.isDigit = true) (t : Teletype)
    (before : List Nat) (last : Nat) :
    ({ t with mode := .numbers before last }).typeAll cs =
      { t with mode := .numbers before (Nat.ofDigitChars 10 cs last) } := by
  induction cs generalizing last with
  | nil => rw [Nat.ofDigitChars_nil]; rfl
  | cons c cs ih =>
    have hc : c.isDigit = true := hcs c List.mem_cons_self
    rw [typeAll_cons, Nat.ofDigitChars_cons, ← ih fun d hd => hcs d (List.mem_cons_of_mem _ hd)]
    simp only [type, if_pos hc]

/-- A number is read as what it is. -/
theorem typeAll_number (t : Teletype) (before : List Nat) (n : Nat) :
    ({ t with mode := .numbers before 0 }).typeAll (toString n).toList =
      { t with mode := .numbers before n } := by
  rw [Nat.toString_eq_repr, Nat.toList_repr, typeAll_digits, Nat.ofDigitChars_ten_toDigits]
  exact fun c hc => Nat.isDigit_of_mem_toDigits (by decide) (by decide) hc

/-- The parameters of a sequence, from any of them on, and the end of the sequence. -/
theorem typeAll_parameters (t : Teletype) (before : List Nat) (code : Nat) (codes : List Nat) :
    ({ t with mode := .numbers before 0 }).typeAll
        ([';'].intercalate ((code :: codes).map fun n => (toString n).toList) ++ ['m']) =
      { t with mode := .text, style := (before ++ code :: codes).foldl select t.style } := by
  induction codes generalizing before code with
  | nil =>
    rw [List.map_singleton, List.intercalate_singleton, typeAll_append, typeAll_number]
    rfl
  | cons next codes ih =>
    rw [List.map_cons, List.map_cons, List.intercalate_cons_cons, List.append_assoc, List.append_assoc,
      typeAll_append, typeAll_number]
    have hnext := ih (before ++ [code]) next
    rw [List.append_assoc] at hnext
    exact hnext

/-- A sequence selects its colours, one after the other. -/
theorem typeAll_sequence {t : Teletype} (ht : t.mode = .text) (code : Nat) (codes : List Nat) :
    t.typeAll ("\x1b[" ++ String.intercalate ";" ((code :: codes).map toString) ++ "m").toList =
      t.dyed ((code :: codes).foldl select t.style) := by
  have hopen : t.typeAll "\x1b[".toList = { t with mode := .numbers [] 0 } := by
    show (t.type '\x1b').type '[' = _
    simp [type, ht, put]
  have htext : ("\x1b[" ++ String.intercalate ";" ((code :: codes).map toString) ++ "m").toList =
      "\x1b[".toList ++
        ([';'].intercalate ((code :: codes).map fun n => (toString n).toList) ++ ['m']) := by
    simp [Function.comp_def]
  rw [htext, typeAll_append, hopen, typeAll_parameters, dyed, ht]
  rfl

end Teletype

/-! ### Characters -/

/-- The printable characters of ASCII. -/
def Printing (c : Char) : Prop :=
  32 ≤ c.toNat ∧ c.toNat ≤ 126

theorem Printing.ne {c d : Char} (h : Printing c) (hd : d.toNat < 32) : c ≠ d := by
  rintro rfl
  exact absurd h.1 (Nat.not_le.mpr hd)

/-- Printable characters are shown, and change nothing else. -/
theorem Teletype.typeAll_printing {t : Teletype} (ht : t.mode = .text) {cs : List Char}
    (hcs : ∀ c ∈ cs, Printing c) :
    t.typeAll cs = t.add (cs.map fun c => ⟨.ofNat c.toNat, t.style⟩) := by
  induction cs generalizing t with
  | nil => exact t.add_nil.symm
  | cons c cs ih =>
    have hc : Printing c := hcs c List.mem_cons_self
    have hput : t.type c = t.add [⟨.ofNat c.toNat, t.style⟩] := by
      simp only [type, ht, put, if_neg (hc.ne (d := '\x1b') (by decide)),
        if_neg (hc.ne (d := '\n') (by decide)), add]
    rw [typeAll_cons, hput, ih (t := t.add _) ht fun d hd => hcs d (List.mem_cons_of_mem _ hd),
      add_add]
    rfl

/-- A cell that can be read back: a printable character, in colours that are default or drawn at
random. -/
structure Cell.Legible (c : Cell) : Prop where
  low : 32 ≤ c.glyph
  high : c.glyph ≤ 126
  fg : c.fg = .default ∨ c.fg ∈ Color.palette
  bg : c.bg = .default ∨ c.bg ∈ Color.palette

theorem Color.isKnown_of {c : Color} (h : c = .default ∨ c ∈ palette) : c.isKnown = true := by
  have hall : ∀ c ∈ Color.default :: palette, c.isKnown = true := by decide
  exact hall c (List.mem_cons.mpr h)

namespace Cell
variable {c : Cell}

theorem Legible.code (h : c.Legible) :
    0 ≤ c.glyph ∧ 32 ≤ c.glyph.toNatClampNeg ∧ c.glyph.toNatClampNeg ≤ 126 := by
  have hlow : (32 : Int) ≤ c.glyph.toInt := Int32.le_iff_toInt_le.mp h.low
  have hhigh : c.glyph.toInt ≤ (126 : Int) := Int32.le_iff_toInt_le.mp h.high
  have hpos : 0 ≤ c.glyph := Int32.le_iff_toInt_le.mpr (Int.le_trans (by decide) hlow)
  have hcast := Int32.cast_toNatClampNeg c.glyph hpos
  exact ⟨hpos, by omega, by omega⟩

theorem Legible.charOf_eq (h : c.Legible) :
    Styled.charOf c.glyph = Char.ofNat c.glyph.toNatClampNeg ∧
      (Styled.charOf c.glyph).toNat = c.glyph.toNatClampNeg := by
  obtain ⟨hpos, -, hhigh⟩ := h.code
  have hvalid : c.glyph.toNatClampNeg.isValidChar := .inl (by omega)
  have hchar : Styled.charOf c.glyph = Char.ofNat c.glyph.toNatClampNeg := if_pos ⟨hpos, hvalid⟩
  refine ⟨hchar, ?_⟩
  rw [hchar, Char.ofNat, dif_pos hvalid]
  rfl

theorem Legible.printing (h : c.Legible) : Printing (Styled.charOf c.glyph) := by
  rw [Printing, h.charOf_eq.2]
  exact h.code.2

/-- The character of a cell is read as the one it was written for. -/
theorem Legible.glyph_eq (h : c.Legible) : Int32.ofNat (Styled.charOf c.glyph).toNat = c.glyph := by
  rw [h.charOf_eq.2]
  exact Int32.ofNat_toNatClampNeg _ h.code.1

end Cell

/-! ### Pens -/

namespace Styled

/-- A text that a pen leaves on its line. -/
def Unbroken (text : String) : Prop :=
  ∀ c ∈ text.toList, c ≠ '\t' ∧ c ≠ '\n'

theorem unbroken_of_printing {text : String} (h : ∀ c ∈ text.toList, Printing c) : Unbroken text :=
  fun c hc => ⟨(h c hc).ne (by decide), (h c hc).ne (by decide)⟩

/-- What is asked of the pens for terminals with and without colours. -/
structure Lawful (pen : Profile → Style → String → String) : Prop where
  /-- The colours are set before a text and reset after it. -/
  colored : ∀ style text, Unbroken text → codes style ≠ [] →
    pen .colored style text =
      "\x1b[" ++ ";".intercalate ((codes style).map toString) ++ "m" ++ text ++ "\x1b[0m"
  /-- No colour, no sequence. -/
  unstyled : ∀ profile text, Unbroken text → pen profile ⟨none, none⟩ text = text
  plain : ∀ style text, Unbroken text → pen .plain style text = text

theorem codes_eq_nil {style : Style} (h : codes style = []) : style = ⟨none, none⟩ := by
  obtain ⟨fg, bg⟩ := style
  cases fg <;> cases bg <;> simp_all [codes]

theorem Lawful.eq_wrap {pen : Profile → Style → String → String} (hpen : Lawful pen)
    (profile : Profile) (style : Style) {text : String} (h : Unbroken text) :
    pen profile style text = wrap profile (codes style) text := by
  cases profile with
  | plain => exact hpen.plain style text h
  | colored =>
    cases hcodes : codes style with
    | nil => rw [codes_eq_nil hcodes, hpen.unstyled .colored text h, wrap]
    | cons code rest =>
      rw [hpen.colored style text h (by simp [hcodes]), hcodes]
      rfl

theorem untab_unbroken {text : String} (h : Unbroken text) : untab text = text := by
  have hkept : ∀ c ∈ text.toList, (if c = '\t' then [' ', ' ', ' ', ' '] else [c]) = [c] :=
    fun c hc => if_neg (h c hc).1
  rw [untab, List.flatMap_congr hkept, List.flatMap_singleton', String.ofList_toList]

theorem unifyNewlines_eq_self {cs : List Char} (h : '\n' ∉ cs) : unifyNewlines cs = cs := by
  fun_induction unifyNewlines cs with
  | case1 rest ih => simp at h
  | case2 c rest hnot ih => rw [ih fun hmem => h (List.mem_cons_of_mem _ hmem)]
  | case3 => rfl

/-- A text without newlines is a single line, so it is only put between the sequences that set and
reset its colours. -/
theorem pen_unbroken (profile : Profile) (style : Style) {text : String} (h : Unbroken text) :
    pen profile style text = wrap profile (codes style) text := by
  have hline : (unifyNewlines text.toList).splitOn '\n' = [text.toList] := by
    have hnone : '\n' ∉ text.toList := fun hmem => (h '\n' hmem).2 rfl
    rw [unifyNewlines_eq_self hnone]
    exact List.splitOn_eq_singleton hnone
  rw [pen, untab_unbroken h]
  cases codes style with
  | nil => cases profile <;> rfl
  | cons code rest => simp only [block, hline, List.map_singleton, String.ofList_toList]

theorem pen_lawful : Lawful pen where
  colored style text h hcodes := by
    obtain ⟨code, rest, hcons⟩ := List.exists_cons_of_ne_nil hcodes
    rw [pen_unbroken .colored style h, hcons]
    rfl
  unstyled profile text h := by
    rw [pen_unbroken profile _ h]
    cases profile <;> rfl
  plain style _ h := pen_unbroken .plain style h

theorem select_fgCode (s : Style) (i : Fin 16) :
    Teletype.select s (fgCode i) = { s with fg := some i } := by
  fin_cases i <;> rfl

theorem select_bgCode (s : Style) (i : Fin 16) :
    Teletype.select s (bgCode i) = { s with bg := some i } := by
  fin_cases i <;> rfl

/-- The parameters of a style select its colours and no others. -/
theorem select_codes (style : Style) :
    (codes style).foldl Teletype.select ⟨none, none⟩ = style := by
  obtain ⟨fg, bg⟩ := style
  cases fg <;> cases bg <;> simp [codes, select_fgCode, select_bgCode]

theorem typeAll_reset {t : Teletype} (ht : t.mode = .text) :
    t.typeAll "\x1b[0m".toList = t.dyed ⟨none, none⟩ := by
  show (((t.type '\x1b').type '[').type '0').type 'm' = _
  simp [Teletype.type, Teletype.put, Teletype.select, Teletype.dyed, ht]

/-- A text between the sequences that set and reset its colours is shown in these colours, and no
colour stays selected. -/
theorem typeAll_wrap {t : Teletype} (ht : t.Ready) (codes : List Nat) {text : String}
    (h : ∀ c ∈ text.toList, Printing c) :
    t.typeAll (wrap .colored codes text).toList =
      t.add (text.toList.map fun c =>
        ⟨.ofNat c.toNat, codes.foldl Teletype.select ⟨none, none⟩⟩) := by
  cases codes with
  | nil =>
    rw [List.foldl_nil, ← ht.style]
    exact Teletype.typeAll_printing ht.mode h
  | cons code codes =>
    let dye := (code :: codes).foldl Teletype.select t.style
    let tiles := text.toList.map fun c => (⟨.ofNat c.toNat, dye⟩ : Tile)
    have hset := Teletype.typeAll_sequence ht.mode code codes
    have htext : (t.dyed dye).typeAll text.toList = (t.dyed dye).add tiles :=
      Teletype.typeAll_printing (t := t.dyed dye) ht.mode h
    have hreset : ((t.dyed dye).add tiles).typeAll "\x1b[0m".toList = (t.dyed ⟨none, none⟩).add tiles :=
      typeAll_reset (t := (t.dyed dye).add tiles) ht.mode
    have hwrap : wrap .colored (code :: codes) text = "\x1b[" ++
      String.intercalate ";" ((code :: codes).map toString) ++ "m" ++ text ++ "\x1b[0m" := rfl
    rw [hwrap, String.toList_append, String.toList_append, Teletype.typeAll_append,
      Teletype.typeAll_append, hset, htext, hreset, ← ht.style]
    rfl

/-! ### Legible cells -/

theorem toList_textOf (cells : List Cell) :
    (textOf cells).toList = cells.map fun c => charOf c.glyph :=
  String.toList_ofList

theorem textOf_printing {cells : List Cell} (h : ∀ c ∈ cells, c.Legible) :
    ∀ c ∈ (textOf cells).toList, Printing c := by
  rw [toList_textOf]
  intro c hc
  obtain ⟨cell, hcell, rfl⟩ := List.mem_map.mp hc
  exact (h cell hcell).printing

/-- Neighbours of equal colours, from the first cell on, all have the colours of the first. -/
theorem colors_of_chain {c d : Cell} {rest : List Cell}
    (h : (c :: rest).IsChain fun a b => sameColors a b = true) (hd : d ∈ c :: rest) :
    d.fg = c.fg ∧ d.bg = c.bg := by
  induction rest generalizing c with
  | nil => rw [List.mem_singleton.mp hd]; exact ⟨rfl, rfl⟩
  | cons next rest ih =>
    obtain ⟨hsame, hrest⟩ := List.isChain_cons_cons.mp h
    obtain rfl | hd := List.mem_cons.mp hd
    · exact ⟨rfl, rfl⟩
    · simp only [sameColors, Bool.and_eq_true, decide_eq_true_eq] at hsame
      obtain ⟨hfg, hbg⟩ := ih hrest hd
      exact ⟨hfg.trans hsame.1.symm, hbg.trans hsame.2.symm⟩

theorem legible_of_mem_runs {row run : List Cell} (h : ∀ c ∈ row, c.Legible) (hrun : run ∈ runs row) :
    ∀ c ∈ run, c.Legible := by
  intro c hc
  apply h
  rw [← List.flatten_splitBy sameColors row]
  exact List.mem_flatten_of_mem hrun hc

theorem legible_of_mem_rows {s : Screen} (h : ∀ x y c, s.at? x y = some c → c.Legible)
    {row : Vector Cell s.width} (hrow : row ∈ s.rows.toList) : ∀ c ∈ row.toList, c.Legible := by
  intro c hc
  obtain ⟨y, hy⟩ := List.mem_iff_getElem?.mp hrow
  obtain ⟨x, hx⟩ := List.mem_iff_getElem?.mp hc
  rw [Vector.getElem?_toList] at hy hx
  refine h x y c ?_
  rw [Screen.at?, hy]
  exact hx

/-! ### Stretches -/

section
variable {pen : Profile → Style → String → String} (hpen : Lawful pen)
include hpen

theorem renderRun_legible (profile : Profile) {c : Cell} {rest : List Cell}
    (h : ∀ d ∈ c :: rest, d.Legible) :
    renderRun (pen profile) (c :: rest) =
      wrap profile (codes ⟨c.fg.ansi?, c.bg.ansi?⟩) (textOf (c :: rest)) := by
  have hc := h c List.mem_cons_self
  have hknown : ¬(!c.fg.isKnown || !c.bg.isKnown) = true := by
    simp [Color.isKnown_of hc.fg, Color.isKnown_of hc.bg]
  rw [renderRun, swatch, if_neg hknown]
  exact hpen.eq_wrap profile _ (unbroken_of_printing (textOf_printing h))

/-- A stretch of equal colours is read as its cells. -/
theorem typeAll_renderRun {t : Teletype} (ht : t.Ready) {run : List Cell}
    (hchain : run.IsChain fun a b => sameColors a b = true) (h : ∀ c ∈ run, c.Legible) :
    t.typeAll (renderRun (pen .colored) run).toList = t.add (run.map Cell.tile) := by
  cases run with
  | nil => exact t.add_nil.symm
  | cons c rest =>
    rw [renderRun_legible hpen .colored h, typeAll_wrap ht _ (textOf_printing h), select_codes,
      toList_textOf, List.map_map]
    congr 1
    refine List.map_congr_left fun d hd => ?_
    obtain ⟨hfg, hbg⟩ := colors_of_chain hchain hd
    simp only [Function.comp_apply, (h d hd).glyph_eq, Cell.tile, hfg, hbg]

theorem toList_renderRun_plain {run : List Cell} (h : ∀ c ∈ run, c.Legible) :
    (renderRun (pen .plain) run).toList = run.map fun c => charOf c.glyph := by
  cases run with
  | nil => rfl
  | cons c rest =>
    rw [renderRun_legible hpen .plain h]
    exact toList_textOf _

/-! ### Rows -/

theorem typeAll_runs {t : Teletype} (ht : t.Ready) {rs : List (List Cell)}
    (h : ∀ run ∈ rs, (run.IsChain fun a b => sameColors a b = true) ∧ ∀ c ∈ run, c.Legible) :
    t.typeAll (rs.flatMap fun run => (renderRun (pen .colored) run).toList) =
      t.add (rs.flatten.map Cell.tile) := by
  induction rs generalizing t with
  | nil => exact t.add_nil.symm
  | cons run rs ih =>
    obtain ⟨hchain, hlegible⟩ := h run List.mem_cons_self
    rw [List.flatMap_cons, Teletype.typeAll_append, typeAll_renderRun hpen ht hchain hlegible,
      ih (ht.add _) fun run hrun => h run (List.mem_cons_of_mem _ hrun), Teletype.add_add,
      List.flatten_cons, List.map_append]

/-- A row is read as its cells, and no colour stays selected. -/
theorem typeAll_renderRow {t : Teletype} (ht : t.Ready) {row : List Cell} (h : ∀ c ∈ row, c.Legible) :
    t.typeAll (renderRow (pen .colored) row).toList = t.add (row.map Cell.tile) := by
  rw [renderRow, String.toList_join, List.flatMap_map, typeAll_runs hpen ht, runs, List.flatten_splitBy]
  exact fun run hrun => ⟨List.isChain_of_mem_splitBy hrun, legible_of_mem_runs h hrun⟩

theorem toList_renderRow_plain {row : List Cell} (h : ∀ c ∈ row, c.Legible) :
    (renderRow (pen .plain) row).toList = row.map fun c => charOf c.glyph := by
  have hruns : ∀ run ∈ runs row, (renderRun (pen .plain) run).toList = run.map fun c => charOf c.glyph :=
    fun run hrun => toList_renderRun_plain hpen (legible_of_mem_runs h hrun)
  rw [renderRow, String.toList_join, List.flatMap_map, List.flatMap_congr hruns,
    List.flatMap_def, ← List.map_flatten, runs, List.flatten_splitBy]

/-! ### Screens -/

/-- Rows with newlines between them are read as lines of their cells. -/
theorem lines_renderRows {t : Teletype} (ht : t.Ready) (hline : t.line = []) (row : List Cell)
    (rows : List (List Cell)) (h : ∀ row' ∈ row :: rows, ∀ c ∈ row', c.Legible) :
    (t.typeAll (['\n'].intercalate
        ((row :: rows).map fun row => (renderRow (pen .colored) row).toList))).lines =
      t.done ++ (row :: rows).map (List.map Cell.tile) := by
  induction rows generalizing t row with
  | nil =>
    rw [List.map_singleton, List.intercalate_singleton, typeAll_renderRow hpen ht (h row List.mem_cons_self),
      Teletype.lines, Teletype.add, hline]
    rfl
  | cons next rows ih =>
    have hnewline : (t.add (row.map Cell.tile)).type '\n' =
        { t with done := t.done ++ [row.map Cell.tile], line := [] } := by
      simp [Teletype.type, Teletype.put, Teletype.add, ht.mode, hline]
    have hrest := ih (t := { t with done := t.done ++ [row.map Cell.tile], line := [] })
      ⟨ht.mode, ht.style⟩ rfl next fun row' hrow' => h row' (List.mem_cons_of_mem _ hrow')
    rw [List.map_cons, List.map_cons, List.intercalate_cons_cons, List.append_assoc,
      Teletype.typeAll_append, typeAll_renderRow hpen ht (h row List.mem_cons_self), List.singleton_append,
      Teletype.typeAll_cons, hnewline]
    rw [List.append_assoc] at hrest
    exact hrest

/-- A screen with rows is read as its cells. -/
theorem read_renderScreen {s : Screen} (hheight : 0 < s.height)
    (h : ∀ x y c, s.at? x y = some c → c.Legible) :
    Teletype.read (renderScreen (pen .colored) s) =
      s.rows.toList.map fun row => row.toList.map Cell.tile := by
  have hrows : ∀ row ∈ s.rows.toList.map Vector.toList, ∀ c ∈ row, c.Legible := by
    intro row hrow
    obtain ⟨row, hmem, rfl⟩ := List.mem_map.mp hrow
    exact legible_of_mem_rows h hmem
  have htext : (renderScreen (pen .colored) s).toList = ['\n'].intercalate
      ((s.rows.toList.map Vector.toList).map fun row => (renderRow (pen .colored) row).toList) := by
    rw [renderScreen, String.toList_intercalate, List.map_map, List.map_map]
    rfl
  have htiles : (s.rows.toList.map fun row => row.toList.map Cell.tile) =
      (s.rows.toList.map Vector.toList).map (List.map Cell.tile) := by
    rw [List.map_map]
    rfl
  have hne : s.rows.toList.map Vector.toList ≠ [] := by
    rw [← List.length_pos_iff, List.length_map, Vector.length_toList]
    exact hheight
  obtain ⟨row, rows, hcons⟩ := List.exists_cons_of_ne_nil hne
  rw [hcons] at hrows htext htiles
  rw [Teletype.read, htext, htiles]
  exact lines_renderRows hpen ⟨rfl, rfl⟩ rfl row rows hrows

theorem toList_renderScreen_plain {s : Screen} (h : ∀ x y c, s.at? x y = some c → c.Legible) :
    (renderScreen (pen .plain) s).toList =
      ['\n'].intercalate (s.rows.toList.map fun row => row.toList.map fun c => charOf c.glyph) := by
  rw [renderScreen, String.toList_intercalate, List.map_map]
  congr 1
  exact List.map_congr_left fun row hrow => toList_renderRow_plain hpen (legible_of_mem_rows h hrow)

end

end Styled

/-- A screen can be read off its text, with every character and every colour in its place, and
without colours the text is the characters of its rows. This holds of any pens that put the colours of
a text around it, as the terminal's do. -/
theorem screen_readable :
    Styled.Lawful Styled.pen ∧
    ∀ pen, Styled.Lawful pen → ∀ s : Screen, 0 < s.height →
      (∀ x y c, s.at? x y = some c → c.Legible) →
      let lines := Teletype.read (Styled.renderScreen (pen .colored) s)
      lines.length = s.height ∧ (∀ tiles ∈ lines, tiles.length = s.width) ∧
        (∀ x y, (lines[y]?.bind fun tiles => tiles[x]?) = (s.at? x y).map Cell.tile) ∧
        (Styled.renderScreen (pen .plain) s).toList = ['\n'].intercalate (s.rows.toList.map fun row =>
          row.toList.map fun c => Char.ofNat c.glyph.toNatClampNeg) := by
  refine ⟨Styled.pen_lawful, fun pen hpen s hheight hlegible => ?_⟩
  intro lines
  have hlines : lines = s.rows.toList.map fun row => row.toList.map Cell.tile :=
    Styled.read_renderScreen hpen hheight hlegible
  rw [hlines]
  refine ⟨?_, ?_, fun x y => ?_, ?_⟩
  · simp
  · intro tiles htiles
    obtain ⟨row, -, rfl⟩ := List.mem_map.mp htiles
    simp
  · rw [List.getElem?_map, Vector.getElem?_toList, Screen.at?]
    cases s.rows[y]? with
    | none => rfl
    | some row =>
      show (row.toList.map Cell.tile)[x]? = row[x]?.map Cell.tile
      rw [List.getElem?_map, Vector.getElem?_toList]
  · rw [Styled.toList_renderScreen_plain hpen hlegible]
    congr 1
    refine List.map_congr_left fun row hrow => List.map_congr_left fun c hc => ?_
    exact (Styled.legible_of_mem_rows hlegible hrow c hc).charOf_eq.1

/-- A bright red letter behind a space. -/
theorem screen_readable_letter :
    let s := (Screen.new 2 1).set 1 0 ⟨65, .red, .default⟩
    Styled.Lawful Styled.pen ∧ (0 < s.height ∧ ∀ x y c, s.at? x y = some c → c.Legible) ∧
      ((Teletype.read (Styled.renderScreen (Styled.pen .colored) s))[0]?.bind fun tiles => tiles[1]?) =
        some ⟨65, ⟨some 9, none⟩⟩ := by
  intro s
  have hlegible : ∀ x y c, s.at? x y = some c → c.Legible := by
    intro x y c hc
    rw [Screen.at?_set] at hc
    split at hc
    · cases hc
      exact ⟨by decide, by decide, by decide, by decide⟩
    · rw [Screen.new, Screen.clear, Screen.at?_fill] at hc
      split at hc
      · cases hc
        exact ⟨by decide, by decide, by decide, by decide⟩
      · cases hc
  obtain ⟨hpen, hread⟩ := screen_readable
  obtain ⟨-, -, hcells, -⟩ := hread Styled.pen hpen s (by decide) hlegible
  exact ⟨hpen, ⟨by decide, hlegible⟩, (hcells 1 0).trans rfl⟩

example : Styled.renderScreen (Styled.pen .colored) ((Screen.new 2 1).set 1 0 ⟨65, .red, .default⟩) =
    " \x1b[91mA\x1b[0m" := by
  cbv

end Screensaver
