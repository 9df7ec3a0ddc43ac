import Mathlib.Logic.Relation
import Screensaver.Proofs.Arrivals
import Screensaver.Proofs.Canvas
import Screensaver.Proofs.Painting

/-! The cursor of a buffer never leaves it.

`Buffer.Step` is what can be done to a buffer from outside: writing, clearing, changing colours and so
on, moving the cursor to a place of the screen, and changing the size to any but the least number. A loop
goes through such steps and no others (`Loop.Step.moves`), and a session through steps of its loop
(`Session.Step.reaches`). So what steps of a buffer keep is kept in all three.

They keep the cursor inside the bounds (`cursor_kept`). The size that was left out would not: one less
than the least number is the greatest, so a width that counts as none leaves the column as it is. -/
namespace Screensaver

/-! ### Bounds -/

/-- The column and the row are inside the bounds of the screen: places of it, and zero where it has
none. -/
structure Screen.Within (s : Screen) (col row : Int64) : Prop where
  col : 0 ≤ col.toInt ∧ col.toInt ≤ max ((s.width : Int) - 1) 0
  row : 0 ≤ row.toInt ∧ row.toInt ≤ max ((s.height : Int) - 1) 0

/-- The top left is inside the bounds of every screen. -/
theorem Screen.within_origin (s : Screen) : s.Within 0 0 := by
  have hzero : (0 : Int64).toInt = 0 := rfl
  constructor <;> rw [hzero] <;> omega

theorem Buffer.within_iff (b : Buffer) :
    b.screen.Within b.col b.row ↔
      ∃ p, b.At p ∧ p.col ≤ b.screen.width - 1 ∧ p.row ≤ b.screen.height - 1 := by
  constructor
  · intro h
    obtain ⟨⟨hcol0, hcol⟩, hrow0, hrow⟩ := h
    obtain ⟨x, hx⟩ := Int.eq_ofNat_of_zero_le hcol0
    obtain ⟨y, hy⟩ := Int.eq_ofNat_of_zero_le hrow0
    exact ⟨⟨x, y⟩, ⟨hx, hy⟩, by show x ≤ _; omega, by show y ≤ _; omega⟩
  · intro h
    obtain ⟨p, hat, hcol, hrow⟩ := h
    constructor
    · rw [hat.col]
      omega
    · rw [hat.row]
      omega

/-- The next place is inside the bounds if the last one was in a row of them, also on an empty screen. -/
theorem Place.next_le {w h : Nat} {p : Place} (hrow : p.row ≤ h - 1) :
    (p.next w h).col ≤ w - 1 ∧ (p.next w h).row ≤ h - 1 := by
  by_cases hroom : p.col + 1 < w
  · rw [next, if_pos hroom]
    exact ⟨Nat.le_sub_one_of_lt hroom, hrow⟩
  · rw [next, if_neg hroom]
    refine ⟨Nat.zero_le _, ?_⟩
    by_cases hbelow : p.row + 1 < h
    · rw [if_pos hbelow]
      exact Nat.le_sub_one_of_lt hbelow
    · rw [if_neg hbelow]
      exact hrow

theorem clamp_bounds (v : Int64) {hi : Int64} (h : 0 ≤ hi.toInt) :
    0 ≤ (clamp v 0 hi).toInt ∧ (clamp v 0 hi).toInt ≤ hi.toInt := by
  have hzero : (0 : Int64).toInt = 0 := rfl
  unfold clamp
  split
  · rw [hzero]
    omega
  · next hlow =>
    rw [Int64.lt_iff_toInt_lt, hzero] at hlow
    split
    · omega
    · next hhigh =>
      rw [Int64.lt_iff_toInt_lt] at hhigh
      omega

/-- One less than the size asked for, and at least zero. The least number has no predecessor. -/
theorem toInt_last {n : Int64} (hn : n ≠ Int64.minValue) :
    (max (n - 1) 0).toInt = max (n.toInt - 1) 0 := by
  have hzero : (0 : Int64).toInt = 0 := rfl
  have hone : (1 : Int64).toInt = 1 := rfl
  have hmin : Int64.minValue.toInt = -0x8000000000000000 := rfl
  have hle := n.le_toInt
  have hlt := n.toInt_lt
  have hne : n.toInt ≠ Int64.minValue.toInt := fun h => hn (Int64.toInt_inj.mp h)
  have hpred : (n - 1).toInt = n.toInt - 1 := by
    rw [Int64.toInt_sub, hone]
    exact Int.bmod_eq_of_le (by omega) (by omega)
  show (if n - 1 ≤ 0 then 0 else n - 1).toInt = _
  split
  · next hneg =>
    rw [Int64.le_iff_toInt_le, hpred, hzero] at hneg
    omega
  · next hpos =>
    rw [Int64.le_iff_toInt_le, hpred, hzero] at hpos
    omega

/-! ### Steps of a buffer -/

namespace Buffer
variable {b c : Buffer}

/-- What can be done to a buffer. The cursor is only moved to where the screen is, and of all sizes only
the least number is not asked for. -/
inductive Step : Buffer → Buffer → Prop where
  | write (b : Buffer) (g : Int32) : Step b (b.write g)
  | clear (b : Buffer) : Step b b.clear
  | setForeground (b : Buffer) (color : Color) : Step b (Terminal.setForeground color b)
  | setBackground (b : Buffer) (color : Color) : Step b (Terminal.setBackground color b)
  | key (b : Buffer) : Step b b.pressKey
  | retitle (b : Buffer) (title : String) : Step b (Terminal.retitle title b)
  | setCursor (b : Buffer) {col row : Int64} : b.screen.Within col row →
      Step b (Terminal.setCursor col row b)
  | resize (b : Buffer) {w h : Int64} : w ≠ Int64.minValue → h ≠ Int64.minValue →
      Step b (b.resize w h)

/-- Any number of steps. -/
def Reaches : Buffer → Buffer → Prop :=
  Relation.ReflTransGen Step

/-- The cursor is inside the bounds, and these can be expressed as coordinates. -/
structure Sound (b : Buffer) : Prop where
  addressable : b.screen.Addressable
  cursor : b.screen.Within b.col b.row

theorem new_sound (w h : Int64) : (Buffer.new w h).Sound :=
  ⟨(Screen.new_sized w h).addressable, Screen.within_origin _⟩

theorem Sound.write (hb : b.Sound) (g : Int32) : (b.write g).Sound := by
  obtain ⟨p, hat, hcol, hrow⟩ := b.within_iff.mp hb.cursor
  obtain ⟨hwidth, hheight, -⟩ := b.write_frame g
  have hmoved := write_at hb.addressable hat hcol g
  refine ⟨⟨hwidth ▸ hb.addressable.width, hheight ▸ hb.addressable.height⟩, ?_⟩
  rw [within_iff, hwidth, hheight]
  exact ⟨_, hmoved, Place.next_le hrow⟩

theorem resize_sound (b : Buffer) {w h : Int64} (hw : w ≠ Int64.minValue) (hh : h ≠ Int64.minValue) :
    (b.resize w h).Sound := by
  have hsize : (b.resize w h).screen.Sized (w, h) := b.screen.resize_sized w h
  have hwidth : (b.resize w h).screen.width = w.toInt.toNat := hsize.width
  have hheight : (b.resize w h).screen.height = h.toInt.toNat := hsize.height
  have hlastcol := toInt_last hw
  have hlastrow := toInt_last hh
  have hcol := clamp_bounds b.col (hlastcol ▸ Int.le_max_right _ _)
  have hrow := clamp_bounds b.row (hlastrow ▸ Int.le_max_right _ _)
  refine ⟨hsize.addressable, ⟨hcol.1, Int.le_trans hcol.2 ?_⟩, hrow.1, Int.le_trans hrow.2 ?_⟩
  · omega
  · omega

theorem Step.sound (hstep : Step b c) (hb : b.Sound) : c.Sound := by
  cases hstep with
  | write g => exact hb.write g
  | clear => exact ⟨⟨hb.addressable.width, hb.addressable.height⟩, Screen.within_origin _⟩
  | setForeground color => exact ⟨hb.addressable, hb.cursor⟩
  | setBackground color => exact ⟨hb.addressable, hb.cursor⟩
  | key => exact ⟨hb.addressable, hb.cursor⟩
  | retitle title => exact ⟨hb.addressable, hb.cursor⟩
  | setCursor hwithin => exact ⟨hb.addressable, hwithin⟩
  | resize hw hh => exact b.resize_sound hw hh

theorem Reaches.sound (h : b.Reaches c) (hb : b.Sound) : c.Sound := by
  induction h with
  | refl => exact hb
  | tail _ hstep ih => exact hstep.sound ih

end Buffer

/-! ### Steps of a loop -/

/-- All that a pause does to a buffer are steps, whether or not it fails. -/
def Surroundings.Orderly (around : Surroundings Buffer) : Prop :=
  ∀ (nanoseconds : Int64) (b : Buffer), b.Reaches (leftBehind (around.pause nanoseconds b))

namespace Loop
variable {l m k : Loop Buffer}

/-- What can be done with a loop on a buffer, or to the buffer in between. -/
inductive Step : Loop Buffer → Loop Buffer → Prop where
  | start (l : Loop Buffer) : Step l l.start
  | paint (l : Loop Buffer) : Step l (leftBehind (paint l))
  | poll (l : Loop Buffer) (cancelled : Bool) : Step l (l.poll cancelled).2
  | stop (l : Loop Buffer) (reason : StopReason) : Step l (l.stop reason)
  | run (l : Loop Buffer) {around : Surroundings Buffer} {limit : Nat}
      {r : EStateM.Result Fault (Loop Buffer) StopReason} : around.Orderly →
      l.run around limit = some r → Step l (leftBehind r)
  | meanwhile (l : Loop Buffer) {b : Buffer} : Buffer.Step l.terminal b →
      Step l { l with terminal := b }

/-- Any number of steps. -/
def Reaches : Loop Buffer → Loop Buffer → Prop :=
  Relation.ReflTransGen Step

/-- From `l` to `m` the buffer has made steps of its own, and glyphs are drawn from the same range. -/
structure Moves (l m : Loop Buffer) : Prop where
  buffer : l.terminal.Reaches m.terminal
  range : Picker.SameRange l.picker m.picker

theorem Moves.refl (l : Loop Buffer) : Moves l l :=
  ⟨.refl, .refl _⟩

theorem Moves.trans (h : Moves l m) (h' : Moves m k) : Moves l k :=
  ⟨Relation.ReflTransGen.trans h.buffer h'.buffer, h.range.trans h'.range⟩

/-- The picker can draw, and the cursor is inside the bounds. -/
structure Steady (l : Loop Buffer) : Prop where
  printable : l.picker.Printable
  buffer : l.terminal.Sound

theorem Steady.moves (h : Steady l) (hm : Moves l m) : Steady m :=
  ⟨h.printable.of_sameRange hm.range, hm.buffer.sound h.buffer⟩

theorem start_moves (l : Loop Buffer) : Moves l l.start := by
  have hpicker : l.start.picker = l.picker := by
    unfold start
    split <;> rfl
  refine ⟨.single ?_, by rw [hpicker]; exact .refl _⟩
  rw [l.start_buffer]
  exact .retitle l.terminal l.start.terminal.title

theorem stop_moves (reason : StopReason) (l : Loop Buffer) : Moves l (l.stop reason) := by
  by_cases h : l.phase = .running
  · rw [stop, if_pos h]
    exact ⟨((Relation.ReflTransGen.single (.setForeground _ l.savedFg)).tail
      (.setBackground _ l.savedBg)).tail (.clear _), .refl _⟩
  · rw [stop_not_running reason l h]
    exact .refl l

theorem poll_moves (cancelled : Bool) (l : Loop Buffer) : Moves l (l.poll cancelled).2 := by
  by_cases h : l.phase = .running
  · have hkey : Terminal.keyPending l.terminal = (l.terminal.keyPending, l.terminal) := rfl
    rw [poll_running h hkey]
    cases l.due l.terminal.keyPending cancelled with
    | none => exact .refl l
    | some reason => exact stop_moves reason l
  · rw [poll, if_neg h]
    exact .refl l

/-- A paint takes the cursor to a place of the screen, and the write takes it on from there. -/
theorem paint_moves (h : Steady l) : Moves l (leftBehind (paint l)) := by
  refine ⟨?_, (paint_inked l h.printable).range⟩
  by_cases hrun : l.phase = .running
  · cases harea : l.terminal.viewport.isEmpty with
    | true =>
      obtain ⟨fg, bg, p, hcolors, -⟩ := Picker.colors_ok l.picker
      rw [paint_empty l hrun harea hcolors]
      exact .refl
    | false =>
      obtain ⟨s, p, hdrawn, hfits, -⟩ := Picker.stroke_ok _ harea l.picker h.printable
      obtain ⟨hat, hon⟩ := aimed_place h.buffer.addressable hfits
      have hwithin : l.terminal.screen.Within s.col s.row :=
        (aimed s l.terminal).within_iff.mpr
          ⟨s.place, hat, Nat.le_sub_one_of_lt hon.1, Nat.le_sub_one_of_lt hon.2⟩
      rw [paint_stroke l hrun harea hdrawn]
      exact (((Relation.ReflTransGen.single (.setForeground _ s.fg)).tail
        (.setBackground _ s.bg)).tail (.setCursor _ hwithin)).tail (.write _ s.glyph)
  · rw [paint_not_running l hrun]
    exact .refl

theorem pause_moves {around : Surroundings Buffer} (haround : around.Orderly) (l : Loop Buffer) :
    Moves l (leftBehind (pause around l)) := by
  have hpause := haround l.interval l.terminal
  unfold pause
  cases hp : around.pause l.interval l.terminal with
  | ok v t =>
    rw [hp] at hpause
    exact ⟨hpause, .refl _⟩
  | error e t =>
    rw [hp] at hpause
    exact ⟨hpause, .refl _⟩

theorem turn_moves {around : Surroundings Buffer} (haround : around.Orderly) (h : Steady l) :
    Moves l (leftBehind (turn around l)) := by
  have hpaint := paint_moves h
  rw [turn_eq]
  refine leftBehind_bind (fun _ m hm => ?_) (fun _ m hm => ?_)
  · rw [hm] at hpaint
    have hpause := hpaint.trans (pause_moves haround m)
    refine leftBehind_bind (fun _ k hk => ?_) (fun _ k hk => ?_)
    · rw [hk] at hpause
      exact hpause.trans (poll_moves _ k)
    · rw [hk] at hpause
      exact hpause
  · rw [hm] at hpaint
    exact hpaint

theorem turns_moves {around : Surroundings Buffer} (haround : around.Orderly) (n : Nat) (h : Steady l)
    {r : EStateM.Result Fault (Loop Buffer) StopReason} (hr : turns around n l = some r) :
    Moves l (leftBehind r) := by
  induction n generalizing l with
  | zero => cases hr
  | succ n ih =>
    have hturn := turn_moves haround h
    rw [turns] at hr
    cases hm : turn around l with
    | ok more m =>
      rw [hm] at hturn hr
      cases more with
      | true => exact hturn.trans (ih (h.moves hturn) hr)
      | false =>
        cases hr
        exact hturn
    | error e m =>
      rw [hm] at hturn hr
      cases hr
      exact hturn

theorem run_moves {around : Surroundings Buffer} (haround : around.Orderly) {limit : Nat}
    (h : Steady l) {r : EStateM.Result Fault (Loop Buffer) StopReason}
    (hr : l.run around limit = some r) : Moves l (leftBehind r) := by
  obtain ⟨r', hturns, rfl⟩ := Option.map_eq_some_iff.mp hr
  have hstart := start_moves l
  have hend := hstart.trans (turns_moves haround limit (h.moves hstart) hturns)
  have hsettled := hend.trans (stop_moves .aborted _)
  cases r' <;> exact hsettled

/-- Whatever is done with a loop, its buffer makes steps of its own. -/
theorem Step.moves (hstep : Step l m) (h : Steady l) : Moves l m := by
  cases hstep with
  | start => exact start_moves l
  | paint => exact paint_moves h
  | poll cancelled => exact poll_moves cancelled l
  | stop reason => exact stop_moves reason l
  | run haround hr => exact run_moves haround h hr
  | meanwhile hb => exact ⟨.single hb, .refl _⟩

theorem Reaches.steady (hreach : l.Reaches m) (h : Steady l) : Steady m := by
  induction hreach with
  | refl => exact h
  | tail _ hstep ih => exact ih.moves (hstep.moves ih)

theorem new_steady (clock : Int64) {b : Buffer} (hb : b.Sound) (config : RunSettings) :
    Steady (Loop.new clock b config) :=
  ⟨.of_range rfl, hb⟩

end Loop

/-! ### Steps of a session -/

/-- No size is the least number. -/
def Arrival.Sizable : Arrival → Prop
  | .message (.resize w h) => w ≠ Int64.minValue ∧ h ≠ Int64.minValue
  | _ => True

namespace Session
variable {s t : Session}

/-- What can become of a session: it is started, something reaches it, or it is finished. -/
inductive Step : Session → Session → Prop where
  | init (s : Session) : Step s s.init.2
  | receive (s : Session) {a : Arrival} : a.Sizable → Step s (s.receive a)
  | finish (s : Session) : Step s s.finish

/-- Any number of steps. -/
def Reaches : Session → Session → Prop :=
  Relation.ReflTransGen Step

theorem tick_reaches (s : Session) : s.loop.Reaches (s.receive (.message .tick)).loop := by
  have hpoll := Loop.Step.poll s.loop s.cancelled
  simp only [receive, update]
  cases hp : s.loop.poll s.cancelled with
  | mk more l =>
    rw [hp] at hpoll
    cases more with
    | true => exact (Relation.ReflTransGen.single hpoll).tail (.paint l)
    | false => exact .single hpoll

/-- A session makes steps of its loop. -/
theorem Step.reaches (hstep : Step s t) : s.loop.Reaches t.loop := by
  cases hstep with
  | init => exact (Relation.ReflTransGen.single (.start s.loop)).tail (.paint s.loop.start)
  | finish => exact .single (.stop s.loop .aborted)
  | @receive a ha =>
    cases a with
    | cancel => exact .refl
    | message m =>
      cases m with
      | tick => exact s.tick_reaches
      | key => exact .single (.meanwhile _ (.key _))
      | resize w h => exact .single (.meanwhile _ (.resize _ ha.1 ha.2))
      | other => exact .refl

theorem Reaches.loop (h : s.Reaches t) : s.loop.Reaches t.loop := by
  induction h with
  | refl => exact .refl
  | tail _ hstep ih => exact Relation.ReflTransGen.trans ih hstep.reaches

end Session

/-! ### The least number -/

/-- One less than the least number is the greatest, which keeps nothing in. -/
theorem clamp_least {v : Int64} (hv : 0 < v) : clamp v 0 (max (Int64.minValue - 1) 0) = v := by
  have hlast : max (Int64.minValue - 1) 0 = Int64.maxValue := by decide
  have hnonneg : ¬v < 0 := Int64.not_lt.mpr (Int64.le_of_lt hv)
  have hle : ¬Int64.maxValue < v := Int64.not_lt.mpr (Int64.le_maxValue v)
  rw [hlast, clamp, if_neg hnonneg, if_neg hle]

/-- Only zero is inside the bounds where there is nothing. -/
theorem not_within_none {v : Int64} (hv : 0 < v) : ¬v.toInt ≤ max (((0 : Nat) : Int) - 1) 0 := by
  have hzero : (0 : Int64).toInt = 0 := rfl
  rw [Int64.lt_iff_toInt_lt, hzero] at hv
  omega

/-- **The cursor never leaves the buffer.** Whatever is done to a new buffer, of any size, in any order,
the cursor is inside the bounds: writing, clearing, new colours, key presses, moves to places inside the
bounds, and changes to any size but the least number. The same is true of the buffer of a loop, whatever
is done with the loop and to the buffer in between, and of the buffer of a session. The least number has
to be left out: as a width it leaves no columns but the cursor in the column it was in, and as a height
likewise. -/
theorem cursor_kept (w h : Int64) :
    (∀ b, (Buffer.new w h).Reaches b → b.screen.Within b.col b.row) ∧
    (∀ clock config b l, (Buffer.new w h).Reaches b → (Loop.new clock b config).Reaches l →
      l.terminal.screen.Within l.terminal.col l.terminal.row) ∧
    (∀ clock config s, (Session.new clock config w h).Reaches s →
      s.buffer.screen.Within s.buffer.col s.buffer.row) ∧
    (∀ (b : Buffer) (n : Int64), 0 < b.col →
      let c := b.resize Int64.minValue n
      c.screen.width = 0 ∧ c.col = b.col ∧ ¬c.screen.Within c.col c.row) ∧
    (∀ (b : Buffer) (n : Int64), 0 < b.row →
      let c := b.resize n Int64.minValue
      c.screen.height = 0 ∧ c.row = b.row ∧ ¬c.screen.Within c.col c.row) := by
  refine ⟨fun b hb => (hb.sound (Buffer.new_sound w h)).cursor, fun clock config b l hb hl => ?_,
    fun clock config s hs => ?_, fun b n hpos => ?_, fun b n hpos => ?_⟩
  · exact (hl.steady (Loop.new_steady clock (hb.sound (Buffer.new_sound w h)) config)).buffer.cursor
  · exact (hs.loop.steady (Loop.new_steady clock (Buffer.new_sound w h) config)).buffer.cursor
  · have hcol : (b.resize Int64.minValue n).col = b.col := clamp_least hpos
    have hwidth : (b.resize Int64.minValue n).screen.width = 0 := Screen.width_resize b.screen _ n
    refine ⟨hwidth, hcol, fun hwithin => not_within_none hpos ?_⟩
    rw [← hcol, ← hwidth]
    exact hwithin.col.2
  · have hrow : (b.resize n Int64.minValue).row = b.row := clamp_least hpos
    have hheight : (b.resize n Int64.minValue).screen.height = 0 := Screen.height_resize b.screen n _
    refine ⟨hheight, hrow, fun hwithin => not_within_none hpos ?_⟩
    rw [← hrow, ← hheight]
    exact hwithin.row.2

/-- A cursor in the last place of three by two is taken to the last column of two, and to row zero if
there are none. With the least number as its width the buffer has no column, and the cursor is in the
third. -/
theorem cursor_kept_narrowed :
    let b : Buffer := Terminal.setCursor 2 1 ((Buffer.new 3 2).write 65)
    ((Buffer.new 3 2).Reaches (b.resize 2 (-7)) ∧ 0 < b.col) ∧
      ((b.resize 2 (-7)).col = 1 ∧ (b.resize 2 (-7)).row = 0 ∧ (b.resize 2 (-7)).screen.Within 1 0) ∧
      (b.resize Int64.minValue 2).screen.width = 0 ∧ (b.resize Int64.minValue 2).col = 2 := by
  intro b
  have hreach : (Buffer.new 3 2).Reaches (b.resize 2 (-7)) :=
    ((Relation.ReflTransGen.single (.write _ 65)).tail
      (.setCursor _ ⟨by decide, by decide⟩)).tail (.resize _ (by decide) (by decide))
  obtain ⟨hkept, -, -, hleast, -⟩ := cursor_kept 3 2
  obtain ⟨hwidth, hcol, -⟩ := hleast b 2 (by decide)
  exact ⟨⟨hreach, by decide⟩, ⟨by decide, by decide, hkept _ hreach⟩, hwidth, hcol⟩

end Screensaver
