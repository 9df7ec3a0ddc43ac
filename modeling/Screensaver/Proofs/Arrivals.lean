import Mathlib.Data.List.Induction
import Screensaver.Proofs.Cells
import Screensaver.Proofs.Strokes
import Screensaver.Session

/-! What reaches a session, and what is left when it is cut off.

Ticks, keys, changes of size and other messages reach a session in any order, and so does the sign of
cancellation. `Sound` is what is true of a session whatever has reached it so far. In particular, once
a tick has stopped the loop the buffer is blank, and it stays so in every size it is given later.

The program around a session can end at any point, by itself or with an error. The loop is then
stopped, unless a tick has done that before. `cutOff_gives_back` says what is left: a blank buffer in
the colours it had, and the reason and the count of the tick that stopped the loop, if there was one. -/
namespace Screensaver

/-- What reaches a session: a message, or the sign of cancellation. -/
inductive Arrival where
  | message (m : Message)
  | cancel
deriving DecidableEq

/-- The size asked for last. -/
def Arrival.resized (size : Int64 × Int64) : Arrival → Int64 × Int64
  | .message (.resize w h) => (w, h)
  | _ => size

/-! ### Buffers -/

namespace Buffer

/-- Spaces in default colours everywhere, and default colours for what is to come. -/
structure Blank (b : Buffer) : Prop where
  fg : b.fg = .default
  bg : b.bg = .default
  cells : ∀ x y, x < b.screen.width → y < b.screen.height → b.screen.at? x y = some .blank

/-- A larger screen shows nothing that was not to be seen before. -/
theorem Blank.resize {b : Buffer} (h : b.Blank) (width height : Int64) :
    (b.resize width height).Blank := by
  refine ⟨h.fg, h.bg, fun x y hx hy => ?_⟩
  show (b.screen.resize width height).at? x y = some .blank
  have hinside : x < extent width ∧ y < extent height :=
    ⟨Screen.width_resize b.screen width height ▸ hx, Screen.height_resize b.screen width height ▸ hy⟩
  rw [Screen.at?_resize, if_pos hinside]
  by_cases hold : x < b.screen.width ∧ y < b.screen.height
  · rw [h.cells x y hold.1 hold.2, Option.getD_some]
  · rw [Screen.at?_eq_none b.screen hold, Option.getD_none]

end Buffer

namespace Loop

/-- What a paint on a buffer can change: cells, cursor and colours, the draws to come, and the number
of glyphs by one at most. -/
structure Inked (l m : Loop Buffer) : Prop where
  frame : m = { l with terminal := m.terminal, picker := m.picker, painted := m.painted }
  range : Picker.SameRange l.picker m.picker
  width : m.terminal.screen.width = l.terminal.screen.width
  height : m.terminal.screen.height = l.terminal.screen.height
  pending : m.terminal.pending = l.terminal.pending
  painted : m.painted ≤ l.painted + 1

theorem paint_inked (l : Loop Buffer) (hp : l.picker.Printable) : Inked l (leftBehind (paint l)) := by
  by_cases h : l.phase = .running
  · cases harea : (Terminal.viewport l.terminal).isEmpty with
    | true =>
      obtain ⟨fg, bg, p, hc, -, hrange⟩ := Picker.colors_ok l.picker
      rw [paint_empty l h harea hc]
      exact ⟨rfl, hrange, rfl, rfl, rfl, Nat.le_succ _⟩
    | false =>
      obtain ⟨s, p, hs, -, hrange⟩ := Picker.stroke_ok _ harea l.picker hp
      obtain ⟨hwidth, hheight, hpending⟩ := (aimed s l.terminal).write_frame s.glyph
      rw [paint_stroke l h harea hs]
      exact ⟨rfl, hrange, hwidth, hheight, hpending, Nat.le_refl _⟩
  · rw [paint_not_running l h]
    exact ⟨rfl, .refl _, rfl, rfl, rfl, Nat.le_succ _⟩

/-- Starting changes nothing of a buffer but its title. -/
theorem start_buffer (l : Loop Buffer) :
    l.start.terminal = { l.terminal with title := l.start.terminal.title } := by
  by_cases h : l.phase = .idle
  · by_cases htitle : l.config.title = "" <;> simp [start, report, h, htitle, Terminal.retitle]
  · rw [start, if_neg h]

/-- A stop that puts default colours back leaves a blank buffer of the same size. -/
theorem stop_blank (reason : StopReason) (l : Loop Buffer) (h : l.phase = .running)
    (hfg : l.savedFg = .default) (hbg : l.savedBg = .default) : (l.stop reason).terminal.Blank := by
  rw [stop, if_pos h]
  refine ⟨hfg, hbg, fun x y hx hy => ?_⟩
  refine (Screen.at?_fill _ _ x y).trans ((if_pos ⟨hx, hy⟩).trans ?_)
  show some (⟨32, l.savedFg, l.savedBg⟩ : Cell) = some .blank
  rw [hfg, hbg]
  rfl

theorem stop_buffer (reason : StopReason) (l : Loop Buffer) :
    (l.stop reason).terminal.screen.width = l.terminal.screen.width ∧
      (l.stop reason).terminal.screen.height = l.terminal.screen.height ∧
      (l.stop reason).terminal.pending = l.terminal.pending := by
  unfold stop
  split <;> exact ⟨rfl, rfl, rfl⟩

end Loop

/-! ### Arrivals -/

namespace Session

/-- The session when something has reached it. -/
def receive (s : Session) : Arrival → Session
  | .message m => (s.update m).2
  | .cancel => { s with cancelled := true }

/-- The session when it has been started and all this has reached it, in order. -/
def after (s : Session) (arrivals : List Arrival) : Session :=
  arrivals.foldl receive s.init.2

theorem after_append (s : Session) (as bs : List Arrival) :
    s.after (as ++ bs) = bs.foldl receive (s.after as) :=
  List.foldl_append

theorem after_concat (s : Session) (as : List Arrival) (a : Arrival) :
    s.after (as ++ [a]) = (s.after as).receive a :=
  s.after_append as [a]

/-- A tick that finds the loop running stops it for the reason that is due, or paints. -/
theorem tick_running {s : Session} (h : s.loop.phase = .running) :
    s.update .tick = match s.loop.due s.buffer.keyPending s.cancelled with
      | some reason => (some .quit, { s with loop := s.loop.stop reason, quitting := true })
      | none => (some (.tick s.paint.loop.interval), s.paint) := by
  have hkey : Terminal.keyPending s.loop.terminal = (s.buffer.keyPending, s.loop.terminal) := rfl
  simp only [update, Loop.poll_running h hkey]
  cases s.loop.due s.buffer.keyPending s.cancelled <;> rfl

/-- Once the loop does not run, nothing that arrives changes more of it than its terminal. -/
theorem receive_not_running {s : Session} (h : s.loop.phase ≠ .running) (a : Arrival) :
    (s.receive a).loop = { s.loop with terminal := (s.receive a).buffer } := by
  cases a with
  | cancel => rfl
  | message m =>
    cases m with
    | key => rfl
    | resize _ _ => rfl
    | other => rfl
    | tick =>
      simp only [receive, update, Loop.poll, if_neg h]
      rfl

theorem receive_cancelled (s : Session) (a : Arrival) :
    (s.receive a).cancelled = true ↔ s.cancelled = true ∨ a = .cancel := by
  cases a with
  | cancel => simp [receive]
  | message m =>
    have hkept : (s.receive (.message m)).cancelled = s.cancelled := by
      cases m <;> simp only [receive, update]
      · split <;> rfl
      · rfl
      · rfl
    simp [hkept]

/-- A tick takes no key press and no change of size back. -/
theorem tick_buffer (s : Session) (hp : s.loop.picker.Printable) :
    (s.receive (.message .tick)).buffer.screen.width = s.buffer.screen.width ∧
      (s.receive (.message .tick)).buffer.screen.height = s.buffer.screen.height ∧
      (s.receive (.message .tick)).buffer.pending = s.buffer.pending := by
  by_cases hs : s.loop.phase = .running
  · rw [receive, tick_running hs]
    cases s.loop.due s.buffer.keyPending s.cancelled with
    | none =>
      have hink := Loop.paint_inked s.loop hp
      exact ⟨hink.width, hink.height, hink.pending⟩
    | some reason => exact s.loop.stop_buffer reason
  · simp only [receive, update, Loop.poll, if_neg hs]
    exact ⟨rfl, rfl, rfl⟩

/-- What a session has been told since its window was of the size `size`. -/
structure Told (size : Int64 × Int64) (as : List Arrival) (s : Session) : Prop where
  keys : s.buffer.pending = as.count (.message .key)
  cancelled : s.cancelled = true ↔ .cancel ∈ as
  width : s.buffer.screen.width = extent (as.foldl Arrival.resized size).1
  height : s.buffer.screen.height = extent (as.foldl Arrival.resized size).2

/-- A key is pending exactly if one has arrived. -/
theorem Told.keyPending_iff {size : Int64 × Int64} {as : List Arrival} {s : Session}
    (h : Told size as s) : s.buffer.keyPending = true ↔ .message .key ∈ as := by
  rw [Buffer.keyPending, h.keys, decide_eq_true_eq, List.count_pos_iff]

theorem Told.paint {size : Int64 × Int64} {as : List Arrival} {s : Session} (h : Told size as s)
    (hp : s.loop.picker.Printable) : Told size as s.paint := by
  have hink := Loop.paint_inked s.loop hp
  exact ⟨hink.pending.trans h.keys, h.cancelled, hink.width.trans h.width, hink.height.trans h.height⟩

theorem Told.receive {size : Int64 × Int64} {as : List Arrival} {s : Session} (h : Told size as s)
    (hp : s.loop.picker.Printable) (a : Arrival) : Told size (as ++ [a]) (s.receive a) := by
  have hcancelled : (s.receive a).cancelled = true ↔ .cancel ∈ as ++ [a] := by
    rw [receive_cancelled, h.cancelled, List.mem_append, List.mem_singleton, eq_comm (a := a)]
  have hbuffer : (s.receive a).buffer.pending = as.count (.message .key) + [a].count (.message .key) ∧
      (s.receive a).buffer.screen.width = extent (a.resized (as.foldl Arrival.resized size)).1 ∧
      (s.receive a).buffer.screen.height = extent (a.resized (as.foldl Arrival.resized size)).2 := by
    cases a with
    | cancel => exact ⟨h.keys, h.width, h.height⟩
    | message m =>
      cases m with
      | tick =>
        obtain ⟨hwidth, hheight, hpending⟩ := s.tick_buffer hp
        exact ⟨hpending.trans h.keys, hwidth.trans h.width, hheight.trans h.height⟩
      | key => exact ⟨congrArg (· + 1) h.keys, h.width, h.height⟩
      | resize w h' => exact ⟨h.keys, Screen.width_resize _ w h', Screen.height_resize _ w h'⟩
      | other => exact ⟨h.keys, h.width, h.height⟩
  obtain ⟨hpending, hwidth, hheight⟩ := hbuffer
  refine ⟨?_, hcancelled, ?_, ?_⟩
  · rw [List.count_append]
    exact hpending
  · rw [List.foldl_append]
    exact hwidth
  · rw [List.foldl_append]
    exact hheight

/-- What is true of a session of the settings `config` from its start on, whatever reaches it. -/
structure Sound (config : RunSettings) (s : Session) : Prop where
  settings : s.loop.config = config
  printable : s.loop.picker.Printable
  captured : s.loop.savedFg = .default ∧ s.loop.savedBg = .default
  bounded : 0 < config.count → (s.loop.painted : Int) ≤ config.count.toInt
  phase : s.loop.phase = .running ∨ s.loop.phase = .stopped ∧ s.buffer.Blank ∧
    s.loop.reason ∈ [StopReason.key, .cancelled, .count]

namespace Sound
variable {config : RunSettings} {s : Session}

/-- A paint that comes when the number of glyphs has not been reached does not go beyond it. -/
theorem paint (h : Sound config s) (hs : s.loop.phase = .running) (hmore : ¬s.loop.Enough) :
    Sound config s.paint := by
  have hink := Loop.paint_inked s.loop h.printable
  have hkept : s.paint.loop = { s.loop with
      terminal := s.paint.buffer, picker := s.paint.loop.picker, painted := s.paint.loop.painted } :=
    hink.frame
  refine ⟨?_, h.printable.of_sameRange hink.range, ?_, fun hcount => ?_, .inl ?_⟩
  · rw [hkept]
    exact h.settings
  · rw [hkept]
    exact h.captured
  · have hpainted : s.paint.loop.painted ≤ s.loop.painted + 1 := hink.painted
    rw [Loop.Enough, h.settings] at hmore
    have hless : ¬config.count.toInt ≤ (s.loop.painted : Int) := fun hle => hmore ⟨hcount, hle⟩
    omega
  · rw [hkept]
    exact hs

theorem tick (h : Sound config s) : Sound config (s.receive (.message .tick)) := by
  by_cases hs : s.loop.phase = .running
  · rw [receive, tick_running hs]
    cases hdue : s.loop.due s.buffer.keyPending s.cancelled with
    | none => exact h.paint hs (Loop.due_eq_none.mp hdue).2.2
    | some reason =>
      obtain ⟨hconfig, hpicker, hpainted⟩ := s.loop.stop_frame reason
      obtain ⟨hfg, hbg⟩ := s.loop.stop_saved reason
      refine ⟨hconfig.trans h.settings, by rw [hpicker]; exact h.printable,
        ⟨hfg.trans h.captured.1, hbg.trans h.captured.2⟩, by rw [hpainted]; exact h.bounded, .inr
        ⟨Loop.stop_phase reason _ hs, Loop.stop_blank reason _ hs h.captured.1 h.captured.2, ?_⟩⟩
      rw [Loop.stop_reason reason _ hs]
      rcases Loop.due_eq_some.mp hdue with ⟨-, rfl⟩ | ⟨-, -, rfl⟩ | ⟨-, -, -, rfl⟩ <;> simp
  · simp only [receive, update, Loop.poll, if_neg hs]
    exact ⟨h.settings, h.printable, h.captured, h.bounded, h.phase⟩

/-- Whatever arrives next, the session stays sound. -/
theorem receive (h : Sound config s) (a : Arrival) : Sound config (s.receive a) := by
  cases a with
  | cancel => exact ⟨h.settings, h.printable, h.captured, h.bounded, h.phase⟩
  | message m =>
    cases m with
    | tick => exact h.tick
    | other => exact h
    | key =>
      refine ⟨h.settings, h.printable, h.captured, h.bounded, h.phase.imp id ?_⟩
      rintro ⟨hstop, hblank, hreason⟩
      exact ⟨hstop, ⟨hblank.fg, hblank.bg, hblank.cells⟩, hreason⟩
    | resize w' h' =>
      refine ⟨h.settings, h.printable, h.captured, h.bounded, h.phase.imp id ?_⟩
      rintro ⟨hstop, hblank, hreason⟩
      exact ⟨hstop, hblank.resize w' h', hreason⟩

end Sound

/-! ### From the start on -/

section New
variable (clock : Int64) (config : RunSettings) (w h : Int64)

theorem new_started_sound :
    Sound (Loop.effective clock config)
      { Session.new clock config w h with loop := (Session.new clock config w h).loop.start } := by
  refine ⟨rfl, .of_range rfl, ⟨rfl, rfl⟩, fun hcount => ?_, .inl rfl⟩
  exact Int.le_of_lt (Int64.lt_iff_toInt_lt.mp hcount)

theorem new_started_told :
    Told (w, h) []
      { Session.new clock config w h with loop := (Session.new clock config w h).loop.start } := by
  have hstart := (Session.new clock config w h).loop.start_buffer
  refine ⟨?_, by simp [Session.new], ?_, ?_⟩
  all_goals
    rw [Session.buffer, hstart]
    rfl

theorem new_init_sound : Sound (Loop.effective clock config) (Session.new clock config w h).init.2 := by
  refine (new_started_sound clock config w h).paint rfl fun henough => ?_
  have hcount : 0 < (Loop.effective clock config).count.toInt := Int64.lt_iff_toInt_lt.mp henough.1
  exact absurd henough.2 (Int.not_le.mpr hcount)

theorem new_init_running : (Session.new clock config w h).init.2.loop.phase = .running :=
  congrArg Loop.phase (Loop.paint_inked _ (new_started_sound clock config w h).printable).frame

theorem new_init_told : Told (w, h) [] (Session.new clock config w h).init.2 :=
  (new_started_told clock config w h).paint (new_started_sound clock config w h).printable

/-- Whatever has arrived, the session is sound and knows of it. -/
theorem new_after (as : List Arrival) :
    Sound (Loop.effective clock config) ((Session.new clock config w h).after as) ∧
      Told (w, h) as ((Session.new clock config w h).after as) := by
  induction as using List.reverseRecOn with
  | nil => exact ⟨new_init_sound clock config w h, new_init_told clock config w h⟩
  | append_singleton as a ih =>
    rw [after_concat]
    exact ⟨ih.1.receive a, ih.2.receive ih.1.printable a⟩

end New

/-! ### The tick that stops the loop -/

/-- The tick that comes after these arrivals stops the loop. -/
def StopsAfter (s : Session) (before : List Arrival) : Prop :=
  (s.after before).loop.phase = .running ∧
    (s.after (before ++ [.message .tick])).loop.phase = .stopped

/-- Nothing but a tick stops a loop. -/
theorem receive_running {s : Session} (h : s.loop.phase = .running) {a : Arrival}
    (ha : a ≠ .message .tick) : (s.receive a).loop.phase = .running := by
  cases a with
  | cancel => exact h
  | message m =>
    cases m with
    | tick => exact absurd rfl ha
    | key => exact h
    | resize _ _ => exact h
    | other => exact h

/-- A loop that has stopped was stopped by a tick. -/
theorem exists_stopsAfter {clock : Int64} {config : RunSettings} {w h : Int64} (as : List Arrival)
    (hstop : ((Session.new clock config w h).after as).loop.phase = .stopped) :
    ∃ before rest, as = before ++ .message .tick :: rest ∧
      (Session.new clock config w h).StopsAfter before := by
  induction as using List.reverseRecOn with
  | nil => exact absurd ((new_init_running clock config w h).symm.trans hstop) (by decide)
  | append_singleton as a ih =>
    obtain ⟨hsound, -⟩ := new_after clock config w h as
    rcases hsound.phase with hrun | ⟨hbefore, -⟩
    · by_cases ha : a = .message .tick
      · subst ha
        exact ⟨as, [], rfl, hrun, hstop⟩
      · rw [after_concat, receive_running hrun ha] at hstop
        cases hstop
    · obtain ⟨before, rest, rfl, hstops⟩ := ih hbefore
      exact ⟨before, rest ++ [a], by simp, hstops⟩

/-- After the loop has stopped nothing changes but its terminal. -/
theorem stopped_stays {s : Session} (h : s.loop.phase = .stopped) (as : List Arrival) :
    ∃ b, (as.foldl receive s).loop = { s.loop with terminal := b } := by
  induction as generalizing s with
  | nil => exact ⟨s.buffer, rfl⟩
  | cons a rest ih =>
    have hfirst := receive_not_running (by rw [h]; decide) a
    obtain ⟨b, hrest⟩ := ih (s := s.receive a) (by rw [hfirst]; exact h)
    exact ⟨b, by rw [List.foldl_cons, hrest, hfirst]⟩

/-! ### The end of a session -/

/-- The program around a session has ended after these arrivals, by itself or with an error. The loop
is stopped in either case, and the error is passed on with a note of where it comes from. -/
def cutOff (arrivals : List Arrival) (error : Option String) (s : Session) :
    Session × Option String :=
  ((s.after arrivals).finish, error.map ("tui: " ++ ·))

theorem tick_snd (s : Session) : s.tick.2 = s.receive (.message .tick) := by
  simp only [tick, tickIn, pure_bind, receive]
  split
  · next hquit => rw [hquit]; rfl
  · next hmore => rw [hmore]; rfl

/-- A session that gets ticks until it asks to be ended is cut off after these ticks. -/
theorem run_eq_cutOff {limit : Nat} {s t : Session} (h : s.run limit = some t) :
    ∃ n, t = (s.cutOff (List.replicate n (.message .tick)) none).1 := by
  obtain ⟨u, hu, rfl⟩ := Option.map_eq_some_iff.mp h
  suffices ∀ limit v, ticks limit v = some u →
      ∃ n, u = (List.replicate n (Arrival.message .tick)).foldl receive v by
    obtain ⟨n, hn⟩ := this limit s.init.2 hu
    exact ⟨n, congrArg finish hn⟩
  intro limit
  induction limit with
  | zero => intro v hv; cases hv
  | succ limit ih =>
    intro v hv
    rw [ticks] at hv
    have htick := v.tick_snd
    cases hmore : v.tick with
    | mk more v' =>
      rw [hmore] at hv htick
      cases more with
      | true =>
        obtain ⟨n, hn⟩ := ih v' hv
        refine ⟨n + 1, ?_⟩
        rw [List.replicate_succ, List.foldl_cons, ← htick]
        exact hn
      | false =>
        cases hv
        exact ⟨1, htick⟩

/-- A session that is ended from outside before any tick is cut off after nothing. -/
theorem runKilled_eq_cutOff (s : Session) (error : Option String) :
    s.runKilled = (s.cutOff [] error).1 :=
  rfl

end Session

/-- **Whenever a session is cut off, the buffer is given back.** Whatever has reached the session by
then, in whatever order, and whether or not there was an error: the loop has stopped, the buffer has
the colours it had before the start, and it is blank in the size asked for last, also if that was
asked for after the loop had stopped. The loop was aborted exactly if none of the ticks has stopped it;
otherwise the reason and the number of glyphs are those that this tick has left. -/
theorem cutOff_gives_back (clock : Int64) (config : RunSettings) (w h : Int64)
    (arrivals : List Arrival) (error : Option String) :
    let s := Session.new clock config w h
    let t := (s.cutOff arrivals error).1
    t.loop.phase = .stopped ∧ t.buffer.fg = s.buffer.fg ∧ t.buffer.bg = s.buffer.bg ∧
    t.buffer.screen.width = extent (arrivals.foldl Arrival.resized (w, h)).1 ∧
    t.buffer.screen.height = extent (arrivals.foldl Arrival.resized (w, h)).2 ∧
    (∀ x y, x < t.buffer.screen.width → y < t.buffer.screen.height →
      t.buffer.screen.at? x y = some ⟨32, .default, .default⟩) ∧
    (t.loop.reason = .aborted ↔
      ∀ before rest, arrivals = before ++ .message .tick :: rest → ¬s.StopsAfter before) ∧
    (∀ before rest, arrivals = before ++ .message .tick :: rest → s.StopsAfter before →
      t.loop.reason = (s.after (before ++ [.message .tick])).loop.reason ∧
      t.loop.painted = (s.after (before ++ [.message .tick])).loop.painted) := by
  intro s t
  obtain ⟨hsound, htold⟩ := Session.new_after clock config w h arrivals
  obtain ⟨hwidth, hheight, -⟩ := (s.after arrivals).loop.stop_buffer .aborted
  -- the last stop does something only if no tick has stopped the loop
  have hstop : t.loop.phase = .stopped ∧ t.buffer.Blank := by
    by_cases hrun : (s.after arrivals).loop.phase = .running
    · exact ⟨Loop.stop_phase _ _ hrun,
        Loop.stop_blank _ _ hrun hsound.captured.1 hsound.captured.2⟩
    · have hkept : t.loop = (s.after arrivals).loop := Loop.stop_not_running _ _ hrun
      obtain ⟨hphase, hblank, -⟩ := hsound.phase.resolve_left hrun
      exact ⟨hkept ▸ hphase, by rw [Session.buffer, hkept]; exact hblank⟩
  have hticked : ∀ before rest, arrivals = before ++ .message .tick :: rest → s.StopsAfter before →
      ∃ b, t.loop = { (s.after (before ++ [.message .tick])).loop with terminal := b } := by
    rintro before rest rfl hstops
    obtain ⟨b, hb⟩ := Session.stopped_stays hstops.2 rest
    have hall : s.after (before ++ .message .tick :: rest) =
        rest.foldl Session.receive (s.after (before ++ [.message .tick])) := by
      rw [← Session.after_append, List.append_assoc]
      rfl
    refine ⟨b, ?_⟩
    show (s.after (before ++ .message .tick :: rest)).loop.stop .aborted = _
    rw [hall, hb]
    exact Loop.stop_not_running _ _ (by rw [hstops.2]; decide)
  refine ⟨hstop.1, hstop.2.fg, hstop.2.bg, hwidth.trans htold.width, hheight.trans htold.height,
    hstop.2.cells, ⟨fun haborted before rest hsplit hstops => ?_, fun hnever => ?_⟩,
    fun before rest hsplit hstops => ?_⟩
  · obtain ⟨b, hb⟩ := hticked before rest hsplit hstops
    obtain ⟨hthen, -⟩ := Session.new_after clock config w h (before ++ [.message .tick])
    obtain ⟨-, -, hreason⟩ := hthen.phase.resolve_left (by rw [hstops.2]; decide)
    rw [hb] at haborted
    rw [haborted] at hreason
    simp at hreason
  · rcases hsound.phase with hrun | ⟨hstopped, -⟩
    · exact Loop.stop_reason _ _ hrun
    · obtain ⟨before, rest, hsplit, hstops⟩ := Session.exists_stopsAfter arrivals hstopped
      exact absurd hstops (hnever before rest hsplit)
  · obtain ⟨b, hb⟩ := hticked before rest hsplit hstops
    rw [hb]
    exact ⟨rfl, rfl⟩

end Screensaver
