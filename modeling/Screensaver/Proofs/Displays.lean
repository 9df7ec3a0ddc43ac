import Screensaver.Buffer
import Screensaver.Console
import Screensaver.Proofs.Cells
import Screensaver.Proofs.Coupling

/-! A console shows what a buffer holds.

A console only tells its display what to do; what is to be seen there is said by `Display`, on which
the calls are replayed. The buffer keeps colours in its cells, the console accumulates a style and
passes it on, and each has its own cursor.

`Shows` is what the two have in common, down to each tile of the display. It is a coupling of the two
terminals, so it outlasts every operation, and `console_shows_buffer` reads off it that after any
operations on both nothing tells them apart. -/
namespace Screensaver

/-! ### Displays -/

/-- A place of a display: a character in a style. -/
structure Tile where
  glyph : Int32
  style : Style
deriving DecidableEq

/-- A cell as a display shows it. -/
def Cell.tile (c : Cell) : Tile :=
  ⟨c.glyph, ⟨c.fg.ansi?, c.bg.ansi?⟩⟩

/-- What is to be seen on a display of `w` by `h`, and the style for clearing. -/
structure Display (w h : Nat) where
  style : Style
  tile : Fin w → Fin h → Tile

namespace Display
variable {w h : Nat}

/-- Spaces in the display's own colours. -/
def fresh (w h : Nat) : Display w h where
  style := ⟨none, none⟩
  tile _ _ := ⟨32, ⟨none, none⟩⟩

/-- What a call does. Setting a tile that the display does not have does nothing. -/
def obey (d : Display w h) : DisplayCall → Display w h
  | .style s => { d with style := s }
  | .set x y glyph s =>
    { d with
      tile := fun i j => if (i : Int) = x.toInt ∧ (j : Int) = y.toInt then ⟨glyph, s⟩ else d.tile i j }
  | .clear => { d with tile := fun _ _ => ⟨32, d.style⟩ }
  | .hideCursor | .present | .sync | .title _ | .finish => d

/-- What is to be seen after calls on a fresh display. -/
def replay (w h : Nat) (calls : Array DisplayCall) : Display w h :=
  calls.foldl obey (fresh w h)

theorem replay_push (calls : Array DisplayCall) (d : DisplayCall) :
    replay w h (calls.push d) = (replay w h calls).obey d := by
  simp [replay]

end Display

namespace Console

theorem advance_frame (c : Console) :
    c.advance = { c with col := c.advance.col, row := c.advance.row } := by
  unfold advance
  dsimp only
  split <;> rfl

/-! ### Events -/

/-- The events of a queue are taken one by one: the key presses are counted, and the display shows
everything anew for each change of size. -/
theorem foldl_take (queue : List ConsoleEvent) (c : Console) :
    queue.foldl take c =
      { c with
        keys := c.keys + queue.count .key
        calls := c.calls ++ Array.replicate (queue.count .resize) .sync } := by
  induction queue generalizing c with
  | nil => simp
  | cons e rest ih =>
    rw [List.foldl_cons, ih]
    cases e with
    | key => simp [take, Nat.add_comm, Nat.add_left_comm]
    | mouse => simp [take]
    | resize => simp [take, tell, Array.replicate_succ']

/-- Syncing does not change what is to be seen. -/
theorem replay_syncs (w h : Nat) (calls : Array DisplayCall) (n : Nat) :
    Display.replay w h (calls ++ Array.replicate n .sync) = Display.replay w h calls := by
  induction n with
  | zero => simp
  | succ n ih => rw [Array.replicate_succ, Array.append_push, Display.replay_push, ih]; rfl

/-! ### What a console and a buffer have in common -/

/-- The console is in the state of the buffer, both have `w` by `h` places, and the display shows the
cells. -/
structure Shows (w h : Nat) (b : Buffer) (c : Console) : Prop where
  colors : c.fg = b.fg ∧ c.bg = b.bg
  style : c.style = ⟨b.fg.ansi?, b.bg.ansi?⟩
  cursor : c.col = b.col ∧ c.row = b.row
  width : b.screen.width = w ∧ c.width.toInt = w
  height : b.screen.height = h ∧ c.height.toInt = h
  keys : c.keys + c.queue.count .key = b.pending
  tiles : ∀ (x : Fin w) (y : Fin h),
    (b.screen.at? x y).map Cell.tile = some ((Display.replay w h c.calls).tile x y)

namespace Shows
variable {w h : Nat} {b : Buffer} {c : Console}

/-- The two cursors move on alike, although the one compares numbers of cells and the other 64-bit
coordinates: the display is not of negative height, so its last row does not wrap around. -/
theorem advance_cursor (hs : Shows w h b c) :
    c.advance.col = b.advance.col ∧ c.advance.row = b.advance.row := by
  obtain ⟨hcol, hrow⟩ := hs.cursor
  obtain ⟨hbw, hcw⟩ := hs.width
  obtain ⟨hbh, hch⟩ := hs.height
  have hedge : c.width ≤ b.col + 1 ↔ (b.screen.width : Int) ≤ (b.col + 1).toInt := by
    rw [Int64.le_iff_toInt_le, hcw, hbw]
  have hlast : b.row < c.height - 1 ↔ b.row.toInt < (b.screen.height : Int) - 1 := by
    have hone : (1 : Int64).toInt = 1 := rfl
    have hlt := c.height.toInt_lt
    have hsub : (c.height - 1).toInt = c.height.toInt - 1 := by
      rw [Int64.toInt_sub, hone]
      exact Int.bmod_eq_of_le (by omega) (by omega)
    rw [Int64.lt_iff_toInt_lt, hsub, hch, hbh]
  simp only [Console.advance, Buffer.advance, hcol, hrow, hedge, hlast]
  split <;> exact ⟨rfl, rfl⟩

theorem viewport (hs : Shows w h b c) : c.viewport = b.viewport := by
  have hw : c.width = .ofNat b.screen.width := by
    rw [hs.width.1, ← Int64.ofInt_toInt c.width, hs.width.2]
    rfl
  have hh : c.height = .ofNat b.screen.height := by
    rw [hs.height.1, ← Int64.ofInt_toInt c.height, hs.height.2]
    rfl
  rw [Console.viewport, Buffer.viewport, hw, hh]

/-- Setting a tile shows the cell set at the same place, which may be none. -/
theorem set (hs : Shows w h b c) (g : Int32) :
    Shows w h { b with screen := b.screen.set b.col b.row ⟨g, b.fg, b.bg⟩ }
      ((c.tell (.set c.col c.row g c.style)).tell .present) := by
  obtain ⟨hcol, hrow⟩ := hs.cursor
  have hw := hs.width
  have hh := hs.height
  rw [← Screen.width_set b.screen b.col b.row ⟨g, b.fg, b.bg⟩] at hw
  rw [← Screen.height_set b.screen b.col b.row ⟨g, b.fg, b.bg⟩] at hh
  refine ⟨hs.colors, hs.style, hs.cursor, hw, hh, hs.keys, fun x y => ?_⟩
  simp only [tell, Display.replay_push, Display.obey, Screen.at?_set, hcol, hrow, hs.width.1,
    hs.height.1, x.isLt, y.isLt, and_true]
  split
  · rw [hs.style]
    rfl
  · exact hs.tiles x y

theorem advance (hs : Shows w h b c) : Shows w h b.advance c.advance := by
  have hcursor := hs.advance_cursor
  rw [b.advance_frame, c.advance_frame]
  exact ⟨hs.colors, hs.style, hcursor, hs.width, hs.height, hs.keys, hs.tiles⟩

theorem write (hs : Shows w h b c) (g : Int32) : Shows w h (b.write g) (c.write g) :=
  (hs.set g).advance

/-- Clearing uses the last style on the one side and the colours on the other. -/
theorem clear (hs : Shows w h b c) : Shows w h b.clear c.clear := by
  have hclear : c.clear =
      { c with
        col := 0, row := 0
        calls := ((c.calls.push (.style c.style)).push .clear).push .present } := rfl
  rw [hclear]
  refine ⟨hs.colors, hs.style, ⟨rfl, rfl⟩, hs.width, hs.height, hs.keys, fun x y => ?_⟩
  have hcell : b.clear.screen.at? x y = some ⟨32, b.fg, b.bg⟩ := by
    refine (Screen.at?_fill _ _ _ _).trans (if_pos ?_)
    rw [hs.width.1, hs.height.1]
    exact ⟨x.isLt, y.isLt⟩
  simp only [Display.replay_push, Display.obey]
  rw [hcell, hs.style]
  rfl

theorem keyPending (hs : Shows w h b c) :
    c.keyPending.1 = b.keyPending ∧ Shows w h b c.keyPending.2 := by
  have hkeys := hs.keys
  simp only [Console.keyPending, foldl_take]
  refine ⟨?_, hs.colors, hs.style, hs.cursor, hs.width, hs.height, hkeys, fun x y => ?_⟩
  · rw [hkeys]
    rfl
  · rw [replay_syncs]
    exact hs.tiles x y

theorem retitle (hs : Shows w h b c) (text : String) :
    Shows w h { b with title := text } (c.tell (.title text)) := by
  refine ⟨hs.colors, hs.style, hs.cursor, hs.width, hs.height, hs.keys, fun x y => ?_⟩
  rw [tell, Display.replay_push]
  exact hs.tiles x y

theorem key (hs : Shows w h b c) : Shows w h b.pressKey (c.post .key) := by
  refine ⟨hs.colors, hs.style, hs.cursor, hs.width, hs.height, ?_, hs.tiles⟩
  show c.keys + (c.queue ++ [ConsoleEvent.key]).count .key = b.pending + 1
  rw [← hs.keys, List.count_append]
  rfl

end Shows

/-- No loop can tell a console from a buffer. -/
theorem shows_coupling (w h : Nat) : Terminal.Coupling (Shows w h) where
  foreground hs := hs.colors.1
  background hs := hs.colors.2
  viewport hs := hs.viewport
  setForeground color hs := ⟨⟨rfl, hs.colors.2⟩,
    congrArg (fun s : Style => { s with fg := color.ansi? }) hs.style, hs.cursor, hs.width, hs.height,
    hs.keys, hs.tiles⟩
  setBackground color hs := ⟨⟨hs.colors.1, rfl⟩,
    congrArg (fun s : Style => { s with bg := color.ansi? }) hs.style, hs.cursor, hs.width, hs.height,
    hs.keys, hs.tiles⟩
  setCursor _ _ hs := ⟨hs.colors, hs.style, ⟨rfl, rfl⟩, hs.width, hs.height, hs.keys, hs.tiles⟩
  write g hs := ⟨_, _, rfl, rfl, hs.write g⟩
  clear hs := hs.clear
  keyPending hs := hs.keyPending
  retitle text hs := hs.retitle text

end Console

/-! ### Operations -/

/-- What can be asked of a terminal, or happen to it. -/
inductive Operation where
  | setForeground (c : Color)
  | setBackground (c : Color)
  | setCursor (col row : Int64)
  | write (glyph : Int32)
  | clear
  | key

namespace Operation
variable {τ σ : Type} [Terminal τ] [Terminal σ]

/-- Performs an operation on a terminal on which a key press does `press`. -/
def perform (press : τ → τ) : Operation → EStateM Fault τ Unit
  | .setForeground c => modify (Terminal.setForeground c)
  | .setBackground c => modify (Terminal.setBackground c)
  | .setCursor col row => modify (Terminal.setCursor col row)
  | .write glyph => Terminal.write glyph
  | .clear => modify Terminal.clear
  | .key => modify press

def performAll (press : τ → τ) : List Operation → EStateM Fault τ Unit
  | [] => pure ()
  | o :: rest => do perform press o; performAll press rest

section
variable {R : τ → σ → Prop} (hR : Terminal.Coupling R) {press : τ → τ} {press' : σ → σ}
  (hpress : ∀ t u, R t u → R (press t) (press' u))
include hR hpress

theorem perform_coupled {t : τ} {u : σ} (h : R t u) (o : Operation) :
    ∃ t' u', perform press o t = .ok () t' ∧ perform press' o u = .ok () u' ∧ R t' u' := by
  cases o with
  | setForeground c => exact ⟨_, _, rfl, rfl, hR.setForeground c h⟩
  | setBackground c => exact ⟨_, _, rfl, rfl, hR.setBackground c h⟩
  | setCursor col row => exact ⟨_, _, rfl, rfl, hR.setCursor col row h⟩
  | write glyph => exact hR.write glyph h
  | clear => exact ⟨_, _, rfl, rfl, hR.clear h⟩
  | key => exact ⟨_, _, rfl, rfl, hpress t u h⟩

theorem performAll_coupled {t : τ} {u : σ} (h : R t u) (os : List Operation) :
    ∃ t' u', performAll press os t = .ok () t' ∧ performAll press' os u = .ok () u' ∧ R t' u' := by
  induction os generalizing t u with
  | nil => exact ⟨t, u, rfl, rfl, h⟩
  | cons o rest ih =>
    obtain ⟨t₁, u₁, ht₁, hu₁, h₁⟩ := perform_coupled hR hpress h o
    obtain ⟨t₂, u₂, ht₂, hu₂, h₂⟩ := ih h₁
    exact ⟨t₂, u₂, (bind_ok ht₁).trans ht₂, (bind_ok hu₁).trans hu₂, h₂⟩

end

end Operation

/-- A new console shows a new buffer of the same size. -/
theorem Console.shows_new (w h : Int64) (hw : 0 ≤ w) (hh : 0 ≤ h) :
    Shows (extent w) (extent h) (.new w h) (.new w h) := by
  rw [Int64.le_iff_toInt_le] at hw hh
  refine ⟨⟨rfl, rfl⟩, rfl, ⟨rfl, rfl⟩, ⟨rfl, ?_⟩, ⟨rfl, ?_⟩, rfl, fun x y => ?_⟩
  · exact (Int.toNat_of_nonneg hw).symm
  · exact (Int.toNat_of_nonneg hh).symm
  · have hcell : (Buffer.new w h).screen.at? x y = some .blank :=
      (Screen.at?_uniform _ _ _ _ _).trans (if_pos ⟨x.isLt, y.isLt⟩)
    rw [hcell]
    rfl

/-- **A console and a buffer are the same terminal.** Whatever operations are performed on a new
console and on a new buffer of the same size, none of them fails, both report the same colours, cursor
and area and whether a key was pressed, and what is to be seen on the console's display is, place by
place, the cell of the buffer. -/
theorem console_shows_buffer (w h : Int64) (hw : 0 ≤ w) (hh : 0 ≤ h) (os : List Operation) :
    ∃ b c, Operation.performAll Buffer.pressKey os (.new w h) = .ok () b ∧
      Operation.performAll (Console.post .key) os (.new w h) = .ok () c ∧
      Terminal.foreground c = Terminal.foreground b ∧
      Terminal.background c = Terminal.background b ∧
      c.col = b.col ∧ c.row = b.row ∧ Terminal.viewport c = Terminal.viewport b ∧
      (Terminal.keyPending c).1 = (Terminal.keyPending b).1 ∧
      ∀ (x : Fin (extent w)) (y : Fin (extent h)), ∃ cell, b.screen.at? x y = some cell ∧
        (Display.replay (extent w) (extent h) c.calls).tile x y = cell.tile := by
  obtain ⟨b, c, hb, hc, hs⟩ := Operation.performAll_coupled (Console.shows_coupling _ _)
    (fun _ _ hs => hs.key) (Console.shows_new w h hw hh) os
  refine ⟨b, c, hb, hc, hs.colors.1, hs.colors.2, hs.cursor.1, hs.cursor.2, hs.viewport,
    hs.keyPending.1, fun x y => ?_⟩
  obtain ⟨cell, hcell, htile⟩ := Option.map_eq_some_iff.mp (hs.tiles x y)
  exact ⟨cell, hcell, htile.symm⟩

/-- After a write off the screen, a write in the last place, and a write in a colour that has no index,
on a display of three by two. -/
theorem console_shows_buffer_three_writes :
    ∃ c, Operation.performAll (Console.post .key)
        [.setBackground .red, .setCursor 3 (-1), .write 65, .setCursor 2 1, .write 66, .key,
          .setForeground ⟨200⟩, .write 67] (.new 3 2) = .ok () c ∧
      (Terminal.keyPending c).1 = true ∧ c.col = 1 ∧ c.row = 1 ∧
      (Display.replay 3 2 c.calls).tile 2 1 = ⟨66, ⟨none, some 9⟩⟩ ∧
      (Display.replay 3 2 c.calls).tile 0 0 = ⟨32, ⟨none, none⟩⟩ := by
  obtain ⟨b, c, hb, hc, -, -, hcol, hrow, -, hkey, htiles⟩ := console_shows_buffer 3 2 (by decide)
    (by decide) [.setBackground .red, .setCursor 3 (-1), .write 65, .setCursor 2 1, .write 66, .key,
      .setForeground ⟨200⟩, .write 67]
  obtain rfl := (EStateM.Result.ok.inj hb).2
  obtain ⟨cell, hcell, htile⟩ := htiles (2 : Fin 3) (1 : Fin 2)
  obtain ⟨cell', hcell', htile'⟩ := htiles (0 : Fin 3) (0 : Fin 2)
  obtain rfl := Option.some.inj hcell
  obtain rfl := Option.some.inj hcell'
  exact ⟨c, hc, hkey, hcol, hrow, htile, htile'⟩

end Screensaver
