import Screensaver.Proofs.Displays
import Screensaver.Proofs.Watching

/-! What becomes of the events that reach a console.

Events are delivered to a console at any time, also while a loop runs on it, and wait in its queue until
someone asks for key presses. A `LiveConsole` is a console in use: it writes down what is delivered, and
for each time that someone asks, what was answered, which events left the queue and what the display was
told. A loop runs on it as on the console itself (`runLoop_eq`), with deliveries between any two calls.

`Accounted` is what is true of the log at any time, and every step keeps it. So each event is taken once,
by whoever asks first after its delivery, and a key press is never forgotten (`input_accounted`): a run
that begins after one paints once and stops, and without one no event stops a run. -/
namespace Screensaver

/-! ### The log -/

/-- What is written down of a console in use. -/
inductive Note where
  /-- An event was delivered. -/
  | delivered (e : ConsoleEvent)
  /-- Someone asked for key presses. This was the answer, these events left the queue meanwhile, and
  this is what the display was told. -/
  | asked (answer : Bool) (taken : List ConsoleEvent) (told : List DisplayCall)
deriving DecidableEq

namespace Note

/-- The events that wait after another note. -/
def wait (waiting : List ConsoleEvent) : Note → List ConsoleEvent
  | .delivered e => waiting ++ [e]
  | .asked _ _ _ => []

/-- The events that were delivered since someone last asked. -/
def waiting (log : List Note) : List ConsoleEvent :=
  log.foldl wait []

/-- All events that were delivered. -/
def deliveries (log : List Note) : List ConsoleEvent :=
  log.filterMap fun
    | .delivered e => some e
    | .asked _ _ _ => none

/-- All events that left the queue. -/
def takings (log : List Note) : List ConsoleEvent :=
  log.flatMap fun
    | .delivered _ => []
    | .asked _ taken _ => taken

example : waiting [.delivered .key, .asked true [.key] [], .delivered .mouse, .delivered .resize] =
    [.mouse, .resize] :=
  rfl

/-- Whoever has asked has taken the events delivered since the time before, and no others, was told of a
key press just if one had ever been delivered, and has made the display show everything anew for each
change of size taken. -/
def Settled (log : List Note) : Prop :=
  ∀ earlier answer taken told later, log = earlier ++ .asked answer taken told :: later →
    taken = waiting earlier ∧ (answer = true ↔ .delivered .key ∈ earlier) ∧
      told = (taken.filter (· = .resize)).map fun _ => .sync

variable {log : List Note}

theorem settled_nil : Settled [] := by
  intro earlier answer taken told later h
  simp at h

theorem Settled.concat (h : Settled log) {n : Note} (hn : ∀ answer taken told,
      n = .asked answer taken told → taken = waiting log ∧ (answer = true ↔ .delivered .key ∈ log) ∧
        told = (taken.filter (· = .resize)).map fun _ => .sync) :
    Settled (log ++ [n]) := by
  intro earlier answer taken told later hsplit
  -- The note at the cut is the new one, or it stands in the log as that was.
  rcases later.eq_nil_or_concat with rfl | ⟨later, last, rfl⟩
  · obtain ⟨rfl, hlast⟩ := List.append_inj' hsplit rfl
    exact hn answer taken told (List.singleton_inj.mp hlast)
  · rw [List.concat_eq_append, ← List.cons_append, ← List.append_assoc] at hsplit
    obtain ⟨rfl, -⟩ := List.append_inj' hsplit rfl
    exact h earlier answer taken told later rfl

end Note

/-! ### A console in use -/

/-- What reaches a console from outside. -/
inductive Delivery where
  | event (e : ConsoleEvent)
  /-- The display changes its size, and an event says so. -/
  | resized (width height : Int64)
deriving DecidableEq

namespace Delivery

/-- The event that is delivered. -/
def notice : Delivery → ConsoleEvent
  | .event e => e
  | .resized _ _ => .resize

def reach (c : Console) : Delivery → Console
  | .event e => c.post e
  | .resized w h => c.resizeTo w h

end Delivery

/-- A console with what is written down of it, and with what is yet to be delivered while a loop runs on
it: so much after each call, counted from zero. -/
structure LiveConsole where
  console : Console
  log : List Note
  arriving : Nat → List Delivery
  /-- The number of calls so far, of the loop that runs. -/
  calls : Nat

namespace LiveConsole

/-- A new console, to which nothing has been delivered. -/
def new (width height : Int64) : LiveConsole where
  console := .new width height
  log := []
  arriving _ := []
  calls := 0

def deliver (s : LiveConsole) (d : Delivery) : LiveConsole :=
  { s with console := d.reach s.console, log := s.log ++ [.delivered d.notice] }

/-- Asks for key presses. -/
def ask (s : LiveConsole) : Bool × LiveConsole :=
  let (answer, c) := s.console.keyPending
  let taken := s.console.queue.take (s.console.queue.length - c.queue.length)
  let told := c.calls.toList.drop s.console.calls.size
  (answer, { s with console := c, log := s.log ++ [.asked answer taken told] })

/-- A call is over, and what arrives then is delivered. -/
def pass (s : LiveConsole) : LiveConsole :=
  { (s.arriving s.calls).foldl deliver s with calls := s.calls + 1 }

/-- Calls for something to be done to the console. -/
def call (f : Console → Console) (s : LiveConsole) : LiveConsole :=
  { s with console := f s.console }.pass

/-- Each call is passed on. The title is set before anything else is done, so what arrives after that
may as well have been delivered before. -/
instance : Terminal LiveConsole where
  foreground s := Terminal.foreground s.console
  background s := Terminal.background s.console
  viewport s := Terminal.viewport s.console
  setForeground color := call (Terminal.setForeground color)
  setBackground color := call (Terminal.setBackground color)
  setCursor col row := call (Terminal.setCursor col row)
  write glyph s := .ok () (s.call (Console.write · glyph))
  clear := call Console.clear
  keyPending s := (s.ask.1, s.ask.2.pass)
  retitle title s := { s with console := Terminal.retitle title s.console }

end LiveConsole

/-! ### What a call does to the events -/

namespace Console

/-- Whoever asks takes all events that wait. -/
theorem keyPending_eq (c : Console) :
    c.keyPending = (decide (0 < c.keys + c.queue.count .key),
      { c with
        keys := c.keys + c.queue.count .key
        queue := []
        calls := c.calls ++ Array.replicate (c.queue.count .resize) .sync }) := by
  rw [keyPending, foldl_take]

/-- The queue is as it was, no key press was counted, and nothing was shown anew. -/
structure Still (c d : Console) : Prop where
  queue : d.queue = c.queue
  keys : d.keys = c.keys
  syncs : d.calls.count .sync = c.calls.count .sync

theorem setForeground_still (c : Console) (color : Color) : Still c (Terminal.setForeground color c) :=
  ⟨rfl, rfl, rfl⟩

theorem setBackground_still (c : Console) (color : Color) : Still c (Terminal.setBackground color c) :=
  ⟨rfl, rfl, rfl⟩

theorem setCursor_still (c : Console) (col row : Int64) : Still c (Terminal.setCursor col row c) :=
  ⟨rfl, rfl, rfl⟩

theorem write_still (c : Console) (glyph : Int32) : Still c (c.write glyph) := by
  rw [write, advance_frame]
  exact ⟨rfl, rfl, by simp [tell]⟩

theorem clear_still (c : Console) : Still c c.clear :=
  ⟨rfl, rfl, by simp [clear, tell]⟩

theorem retitle_still (c : Console) (title : String) : Still c (Terminal.retitle title c) :=
  ⟨rfl, rfl, by simp [Terminal.retitle, tell]⟩

/-- The number of glyphs that the display was told to show. -/
def glyphs (c : Console) : Nat :=
  c.calls.countP fun
    | .set _ _ _ _ => true
    | _ => false

@[simp]
theorem glyphs_setForeground (c : Console) (color : Color) :
    (Terminal.setForeground color c).glyphs = c.glyphs := rfl

@[simp]
theorem glyphs_setBackground (c : Console) (color : Color) :
    (Terminal.setBackground color c).glyphs = c.glyphs := rfl

@[simp]
theorem glyphs_setCursor (c : Console) (col row : Int64) :
    (Terminal.setCursor col row c).glyphs = c.glyphs := rfl

@[simp]
theorem glyphs_write (c : Console) (glyph : Int32) : (c.write glyph).glyphs = c.glyphs + 1 := by
  rw [write, advance_frame]
  simp [glyphs, tell]

@[simp]
theorem glyphs_clear (c : Console) : c.clear.glyphs = c.glyphs := by
  simp [glyphs, clear, tell]

@[simp]
theorem glyphs_retitle (c : Console) (title : String) : (Terminal.retitle title c).glyphs = c.glyphs := by
  simp [glyphs, Terminal.retitle, tell]

@[simp]
theorem glyphs_keyPending (c : Console) : c.keyPending.2.glyphs = c.glyphs := by
  simp [glyphs, keyPending_eq]

end Console

/-! ### Accounts -/

namespace LiveConsole

/-- All events of the queue are taken, and for each change of size among them the display is told to
show everything anew. -/
theorem ask_eq (s : LiveConsole) :
    s.ask = (s.console.keyPending.1, { s with
      console := s.console.keyPending.2
      log := s.log ++ [.asked s.console.keyPending.1 s.console.queue
        ((s.console.queue.filter (· = .resize)).map fun _ => .sync)] }) := by
  have htold : (s.console.calls ++ Array.replicate (s.console.queue.count .resize)
      DisplayCall.sync).toList.drop s.console.calls.size =
      (s.console.queue.filter (· = .resize)).map fun _ => .sync := by
    rw [Array.toList_append, List.drop_left' (Array.length_toList), Array.toList_replicate,
      List.map_const', List.count_eq_length_filter]
    rfl
  have htaken : s.console.queue.take (s.console.queue.length - ([] : List ConsoleEvent).length) =
      s.console.queue := List.take_length
  simp only [ask, Console.keyPending_eq, htold, htaken]

theorem answer_eq (s : LiveConsole) : (Terminal.keyPending s).1 = s.console.keyPending.1 :=
  congrArg Prod.fst s.ask_eq

theorem pass_calls (s : LiveConsole) : s.pass.console.calls = s.console.calls := by
  show ((s.arriving s.calls).foldl deliver s).console.calls = s.console.calls
  generalize s.arriving s.calls = ds
  induction ds generalizing s with
  | nil => rfl
  | cons d rest ih =>
    refine (ih (s.deliver d)).trans ?_
    cases d <;> rfl

theorem glyphs_pass (s : LiveConsole) : s.pass.console.glyphs = s.console.glyphs := by
  rw [Console.glyphs, pass_calls, Console.glyphs]

@[simp]
theorem glyphs_call (f : Console → Console) (s : LiveConsole) :
    (s.call f).console.glyphs = (f s.console).glyphs :=
  glyphs_pass _

theorem glyphs_aimed (s : LiveConsole) (k : Stroke) :
    (Loop.aimed k s).console.glyphs = s.console.glyphs := by
  have haimed : Loop.aimed k s = ((s.call (Terminal.setForeground k.fg)).call
    (Terminal.setBackground k.bg)).call (Terminal.setCursor k.col k.row) := rfl
  simp [haimed]

/-- The events that wait are those delivered since someone last asked, all others were taken, the key
presses among these are counted, and for each change of size among them everything was shown anew. -/
structure Accounted (s : LiveConsole) : Prop where
  queue : s.console.queue = Note.waiting s.log
  all : Note.deliveries s.log = Note.takings s.log ++ s.console.queue
  keys : s.console.keys = (Note.takings s.log).count .key
  syncs : s.console.calls.count .sync = (Note.takings s.log).count .resize
  settled : Note.Settled s.log

theorem mem_deliveries {log : List Note} {e : ConsoleEvent} :
    e ∈ Note.deliveries log ↔ .delivered e ∈ log := by
  unfold Note.deliveries
  rw [List.mem_filterMap]
  constructor
  · rintro ⟨n, hn, he⟩
    cases n <;> simp_all
  · exact fun h => ⟨_, h, rfl⟩

theorem new_accounted (w h : Int64) : (new w h).Accounted :=
  ⟨rfl, rfl, rfl, rfl, Note.settled_nil⟩

namespace Accounted
variable {s : LiveConsole} (h : s.Accounted)
include h

/-- The answer is yes just if a key press was ever delivered. -/
theorem keyPending_iff : s.console.keyPending.1 = true ↔ .delivered .key ∈ s.log := by
  rw [Console.keyPending_eq, decide_eq_true_eq, h.keys, ← List.count_append, ← h.all,
    List.count_pos_iff, mem_deliveries]

theorem answer_iff : (Terminal.keyPending s).1 = true ↔ .delivered .key ∈ s.log := by
  rw [answer_eq]
  exact h.keyPending_iff

theorem deliver (d : Delivery) : (s.deliver d).Accounted := by
  have hqueue : (s.deliver d).console.queue = s.console.queue ++ [d.notice] := by cases d <;> rfl
  have hkeys : (s.deliver d).console.keys = s.console.keys := by cases d <;> rfl
  have hcalls : (s.deliver d).console.calls = s.console.calls := by cases d <;> rfl
  have htakings : Note.takings (s.deliver d).log = Note.takings s.log := by
    simp [LiveConsole.deliver, Note.takings]
  refine ⟨?_, ?_, ?_, ?_, h.settled.concat fun _ _ _ hn => by cases hn⟩
  · rw [hqueue, h.queue]
    simp [LiveConsole.deliver, Note.waiting, Note.wait]
  · rw [htakings, hqueue, ← List.append_assoc, ← h.all]
    simp [LiveConsole.deliver, Note.deliveries]
  · rw [hkeys, htakings, h.keys]
  · rw [hcalls, htakings, h.syncs]

theorem ask : s.ask.2.Accounted := by
  have htakings : Note.takings s.ask.2.log = Note.takings s.log ++ s.console.queue := by
    simp [ask_eq, Note.takings]
  have hdeliveries : Note.deliveries s.ask.2.log = Note.deliveries s.log := by
    simp [ask_eq, Note.deliveries]
  have hcalls : s.ask.2.console.calls =
      s.console.calls ++ Array.replicate (s.console.queue.count .resize) .sync := by
    rw [ask_eq, Console.keyPending_eq]
  have hsettled : Note.Settled s.ask.2.log := by
    rw [ask_eq]
    refine h.settled.concat fun answer taken told hn => ?_
    obtain ⟨rfl, rfl, rfl⟩ := Note.asked.inj hn
    exact ⟨h.queue, h.keyPending_iff, rfl⟩
  refine ⟨?_, ?_, ?_, ?_, hsettled⟩
  · rw [ask_eq, Console.keyPending_eq]
    simp [Note.waiting, Note.wait]
  · rw [htakings, hdeliveries, h.all, ask_eq, Console.keyPending_eq, List.append_nil]
  · rw [htakings, List.count_append, ← h.keys, ask_eq, Console.keyPending_eq]
  · rw [htakings, List.count_append, ← h.syncs, hcalls, Array.count_append, Array.count_replicate_self]

theorem still {c : Console} (hc : Console.Still s.console c) :
    ({ s with console := c } : LiveConsole).Accounted :=
  ⟨hc.queue.trans h.queue, by rw [hc.queue]; exact h.all, hc.keys.trans h.keys, hc.syncs.trans h.syncs,
    h.settled⟩

end Accounted

/-- Everything is accounted for, and since the log was `old` only what was to come has been
delivered. -/
structure Since (old : List Note) (coming : Nat → List Delivery) (s : LiveConsole) : Prop where
  accounted : s.Accounted
  arriving : s.arriving = coming
  log : ∃ more, s.log = old ++ more ∧
    ∀ e, .delivered e ∈ more → ∃ n, ∃ d ∈ coming n, d.notice = e

namespace Since
variable {old : List Note} {coming : Nat → List Delivery} {s : LiveConsole}

theorem still (h : Since old coming s) {c : Console} (hc : Console.Still s.console c) :
    Since old coming { s with console := c } :=
  ⟨h.accounted.still hc, h.arriving, h.log⟩

theorem deliver (h : Since old coming s) {n : Nat} {d : Delivery} (hd : d ∈ coming n) :
    Since old coming (s.deliver d) := by
  obtain ⟨more, hlog, hmore⟩ := h.log
  refine ⟨h.accounted.deliver d, h.arriving, more ++ [.delivered d.notice], ?_, fun e he => ?_⟩
  · rw [LiveConsole.deliver, hlog, List.append_assoc]
  · rcases List.mem_append.mp he with he | he
    · exact hmore e he
    · cases List.mem_singleton.mp he
      exact ⟨n, d, hd, rfl⟩

theorem ask (h : Since old coming s) : Since old coming s.ask.2 := by
  obtain ⟨more, hlog, hmore⟩ := h.log
  refine ⟨h.accounted.ask, h.arriving, ?_⟩
  rw [ask_eq, hlog, List.append_assoc]
  refine ⟨_, rfl, fun e he => hmore e ?_⟩
  simpa using he

theorem pass (h : Since old coming s) : Since old coming s.pass := by
  have hall : ∀ ds : List Delivery, (∀ d ∈ ds, d ∈ coming s.calls) →
      Since old coming (ds.foldl LiveConsole.deliver s) := by
    intro ds hds
    induction ds generalizing s with
    | nil => exact h
    | cons d rest ih =>
      exact ih (h.deliver (hds d List.mem_cons_self)) fun d' hd' => hds d' (List.mem_cons_of_mem d hd')
  have hpass := hall (s.arriving s.calls) fun d hd => h.arriving ▸ hd
  exact ⟨⟨hpass.accounted.queue, hpass.accounted.all, hpass.accounted.keys, hpass.accounted.syncs,
    hpass.accounted.settled⟩, hpass.arriving, hpass.log⟩

theorem call (h : Since old coming s) {f : Console → Console}
    (hf : Console.Still s.console (f s.console)) : Since old coming (s.call f) :=
  (h.still hf).pass

theorem colors (h : Since old coming s) (fg bg : Color) :
    Since old coming (Terminal.setBackground bg (Terminal.setForeground fg s)) :=
  (h.call (Console.setForeground_still _ fg)).call (Console.setBackground_still _ bg)

theorem stroke (h : Since old coming s) (k : Stroke) :
    Since old coming ((Loop.aimed k s).call (Console.write · k.glyph)) :=
  ((h.colors k.fg k.bg).call (Console.setCursor_still _ k.col k.row)).call
    (Console.write_still _ k.glyph)

/-- A key press that was delivered stays so. -/
theorem key_mem (h : Since old coming s) (hkey : .delivered .key ∈ old) : .delivered .key ∈ s.log := by
  obtain ⟨more, hlog, -⟩ := h.log
  rw [hlog]
  exact List.mem_append_left more hkey

theorem key_cases (h : Since old coming s) (hkey : .delivered .key ∈ s.log) :
    .delivered .key ∈ old ∨ ∃ n, .event .key ∈ coming n := by
  obtain ⟨more, hlog, hmore⟩ := h.log
  rw [hlog] at hkey
  rcases List.mem_append.mp hkey with hold | hnew
  · exact .inl hold
  · obtain ⟨n, d, hd, hnotice⟩ := hmore .key hnew
    cases d with
    | event e =>
      cases hnotice
      exact .inr ⟨n, hd⟩
    | resized w h => cases hnotice

end Since

end LiveConsole

/-! ### Runs -/

/-- A run on a console in use: what arrives after each call, and the sign of cancellation that it would
find then. -/
structure LiveRun where
  clock : Int64
  config : RunSettings
  arriving : Nat → List Delivery
  cancelled : Nat → Bool

namespace LiveRun

/-- The loop of the run. -/
def loop (k : LiveRun) (s : LiveConsole) : Loop LiveConsole :=
  .new k.clock { s with arriving := k.arriving, calls := 0 } k.config

/-- Something may arrive during each pause. -/
def around (k : LiveRun) : Surroundings LiveConsole where
  pause _ s := .ok () s.pass
  cancelled s := k.cancelled s.calls

/-- What the run comes to, if it takes at most so many turns. -/
def outcome (k : LiveRun) (limit : Nat) (s : LiveConsole) :
    Option (EStateM.Result Fault (Loop LiveConsole) StopReason) :=
  (k.loop s).run k.around limit

/-- The loop after so many turns. -/
def turned (k : LiveRun) (s : LiveConsole) : Nat → Loop LiveConsole
  | 0 => (k.loop s).start
  | n + 1 => leftBehind (Loop.turn k.around (k.turned s n))

/-- The console that the run leaves, or, if it has not ended after so many turns, has come to. -/
def after (k : LiveRun) (limit : Nat) (s : LiveConsole) : LiveConsole :=
  match k.outcome limit s with
  | some r => (leftBehind r).terminal
  | none => (k.turned s limit).terminal

/-- The reasons for which a run may have stopped: a key press that had been delivered before or arrived
meanwhile, cancellation, or the number of glyphs asked for. -/
inductive Cause (k : LiveRun) (old : List Note) (painted : Nat) : StopReason → Prop where
  | key (h : .delivered .key ∈ old ∨ ∃ n, .event .key ∈ k.arriving n) : Cause k old painted .key
  | cancelled (n : Nat) (h : k.cancelled n = true) : Cause k old painted .cancelled
  | count (hpos : 0 < k.config.count) (h : k.config.count.toInt ≤ (painted : Int)) :
      Cause k old painted .count

end LiveRun

namespace Loop

/-- The loop can draw, and its console is accounted for. -/
structure Tracked (old : List Note) (coming : Nat → List Delivery) (l : Loop LiveConsole) : Prop where
  printable : l.picker.Printable
  since : l.terminal.Since old coming

namespace Tracked
variable {old : List Note} {coming : Nat → List Delivery} {l : Loop LiveConsole}

theorem start (h : Tracked old coming l) : Tracked old coming l.start := by
  unfold Loop.start
  split
  · refine ⟨h.printable, ?_⟩
    show LiveConsole.Since old coming (if l.config.title = "" then _ else _)
    split
    · exact h.since
    · exact h.since.still (Console.retitle_still _ _)
  · exact h

theorem stop (h : Tracked old coming l) (reason : StopReason) : Tracked old coming (l.stop reason) := by
  unfold Loop.stop
  split
  · exact ⟨h.printable, (h.since.colors l.savedFg l.savedBg).call (Console.clear_still _)⟩
  · exact h

theorem asked (h : Tracked old coming l) : Tracked old coming l.asked :=
  ⟨h.printable, h.since.ask.pass⟩

theorem poll (h : Tracked old coming l) (cancelled : Bool) : Tracked old coming (l.poll cancelled).2 := by
  by_cases hrun : l.phase = .running
  · rw [poll_asked hrun]
    cases l.asked.due (Terminal.keyPending l.terminal).1 cancelled with
    | some reason => exact h.asked.stop reason
    | none => exact h.asked
  · rw [Loop.poll, if_neg hrun]
    exact h

end Tracked

/-- Whether there is a cell to paint on. -/
def roomy (l : Loop LiveConsole) : Bool :=
  !(Terminal.viewport l.terminal).isEmpty

theorem glyphs_stop (reason : StopReason) (l : Loop LiveConsole) :
    (l.stop reason).terminal.console.glyphs = l.terminal.console.glyphs := by
  by_cases hrun : l.phase = .running
  · rw [stop, if_pos hrun]
    show (((l.terminal.call (Terminal.setForeground l.savedFg)).call
      (Terminal.setBackground l.savedBg)).call Console.clear).console.glyphs = _
    simp
  · rw [stop_not_running reason l hrun]

theorem glyphs_asked (l : Loop LiveConsole) :
    l.asked.terminal.console.glyphs = l.terminal.console.glyphs := by
  show l.terminal.ask.2.pass.console.glyphs = _
  rw [LiveConsole.glyphs_pass, LiveConsole.ask_eq, Console.glyphs_keyPending]

/-- From `l` to `m` the loop has run on. It has painted if there was a cell to paint on. -/
structure Onward (l m : Loop LiveConsole) : Prop where
  running : m.phase = .running
  config : m.config = l.config
  painted : m.painted = l.painted + l.roomy.toNat
  glyphs : m.terminal.console.glyphs = l.terminal.console.glyphs + l.roomy.toNat

section Turns
variable {old : List Note} {coming : Nat → List Delivery} {l : Loop LiveConsole}

theorem Tracked.paint (h : Tracked old coming l) :
    ∃ b m, Loop.paint l = .ok b m ∧ Tracked old coming m ∧ (l.phase = .running → Onward l m) := by
  by_cases hrun : l.phase = .running
  · cases harea : (Terminal.viewport l.terminal).isEmpty with
    | true =>
      have hroom : l.roomy = false := by simp [roomy, harea]
      obtain ⟨fg, bg, p, hc, -, hrange⟩ := Picker.colors_ok l.picker
      refine ⟨_, _, paint_empty l hrun harea hc, ⟨h.printable.of_sameRange hrange, h.since⟩,
        fun _ => ⟨hrun, rfl, ?_, ?_⟩⟩
      · rw [hroom]
        rfl
      · rw [hroom]
        rfl
    | false =>
      have hroom : l.roomy = true := by simp [roomy, harea]
      obtain ⟨s, p, hs, -, hrange⟩ := Picker.stroke_ok _ harea l.picker h.printable
      refine ⟨_, _, paint_stroke l hrun harea hs,
        ⟨h.printable.of_sameRange hrange, h.since.stroke s⟩, fun _ => ⟨hrun, rfl, ?_, ?_⟩⟩
      · rw [hroom]
        rfl
      · rw [hroom]
        show ((aimed s l.terminal).call (Console.write · s.glyph)).console.glyphs = _
        rw [LiveConsole.glyphs_call, Console.glyphs_write, LiveConsole.glyphs_aimed]
        rfl
  · exact ⟨_, _, paint_not_running l hrun, h, fun hrun' => absurd hrun' hrun⟩

/-- A turn never fails. Before it polls, a running loop has run on. -/
theorem Tracked.turn (h : Tracked old coming l) (k : LiveRun) :
    ∃ m, Loop.turn k.around l = .ok (m.poll (k.cancelled m.terminal.calls)).1
        (m.poll (k.cancelled m.terminal.calls)).2 ∧
      Tracked old coming m ∧ (l.phase = .running → Onward l m) := by
  obtain ⟨_, m, hpaint, hm, honward⟩ := h.paint
  refine ⟨{ m with terminal := m.terminal.pass }, (bind_ok hpaint).trans rfl,
    ⟨hm.printable, hm.since.pass⟩, fun hrun => ?_⟩
  have hon := honward hrun
  exact ⟨hon.running, hon.config, hon.painted, m.terminal.glyphs_pass.trans hon.glyphs⟩

variable {k : LiveRun}

/-- A running loop polls on, or stops and has cause to. -/
theorem Tracked.poll_cause (h : Tracked old k.arriving l) (hrun : l.phase = .running)
    (hcount : l.config.count = k.config.count) (n : Nat) :
    l.poll (k.cancelled n) = (true, l.asked) ∨
      ∃ reason, l.poll (k.cancelled n) = (false, l.asked.stop reason) ∧ k.Cause old l.painted reason := by
  rw [poll_asked hrun]
  cases hdue : l.asked.due (Terminal.keyPending l.terminal).1 (k.cancelled n) with
  | none => exact .inl rfl
  | some reason =>
    refine .inr ⟨reason, rfl, ?_⟩
    obtain ⟨hkey, rfl⟩ | ⟨-, hcancelled, rfl⟩ | ⟨-, -, ⟨hpos, henough⟩, rfl⟩ := due_eq_some.mp hdue
    · exact .key (h.since.key_cases (h.since.accounted.answer_iff.mp hkey))
    · exact .cancelled n hcancelled
    · exact .count (hcount ▸ hpos) (hcount ▸ henough)

/-- Turns never fail, and where they end there is cause to. -/
theorem Tracked.turns (h : Tracked old k.arriving l) (hrun : l.phase = .running)
    (hcount : l.config.count = k.config.count) (n : Nat)
    {r : EStateM.Result Fault (Loop LiveConsole) StopReason}
    (hr : Loop.turns k.around n l = some r) :
    ∃ reason m, r = .ok reason m ∧ Tracked old k.arriving m ∧ k.Cause old m.painted reason := by
  induction n generalizing l with
  | zero => cases hr
  | succ n ih =>
    -- The paint and the pause change nothing about the number asked for, so the poll decides.
    obtain ⟨m, hturn, hm, honward⟩ := h.turn k
    have hon := honward hrun
    have hmcount : m.config.count = k.config.count := by rw [hon.config, hcount]
    rw [Loop.turns, hturn] at hr
    obtain hpoll | ⟨reason, hpoll, hcause⟩ := hm.poll_cause hon.running hmcount m.terminal.calls
    · rw [hpoll] at hr
      exact ih hm.asked hon.running hmcount hr
    · rw [hpoll] at hr
      cases hr
      refine ⟨_, _, rfl, hm.asked.stop reason, ?_⟩
      rw [stop_reason reason m.asked hon.running, (stop_frame reason m.asked).2.2]
      exact hcause

/-- After a key press, the next poll stops the loop. -/
theorem Tracked.turn_key (h : Tracked old coming l) (hrun : l.phase = .running)
    (hkey : .delivered .key ∈ old) (k : LiveRun) :
    ∃ m, Loop.turn k.around l = .ok false m ∧ m.phase = .stopped ∧ m.reason = .key ∧
      m.painted = l.painted + l.roomy.toNat ∧
      m.terminal.console.glyphs = l.terminal.console.glyphs + l.roomy.toNat := by
  obtain ⟨m, hturn, hm, honward⟩ := h.turn k
  have hon := honward hrun
  have hpending : (Terminal.keyPending m.terminal).1 = true :=
    hm.since.accounted.answer_iff.mpr (hm.since.key_mem hkey)
  have hpoll : m.poll (k.cancelled m.terminal.calls) = (false, m.asked.stop .key) := by
    rw [poll_asked hon.running, hpending]
    rfl
  rw [hpoll] at hturn
  refine ⟨_, hturn, stop_phase .key m.asked hon.running, stop_reason .key m.asked hon.running, ?_, ?_⟩
  · rw [(stop_frame .key m.asked).2.2]
    exact hon.painted
  · rw [glyphs_stop, glyphs_asked]
    exact hon.glyphs

end Turns

end Loop

namespace LiveRun
variable (k : LiveRun) {s : LiveConsole}

/-- The loop with which the turns begin: it runs, has painted nothing yet and has left the display as it
was, but for the title. -/
theorem start_eq (s : LiveConsole) :
    (k.loop s).start.phase = .running ∧ (k.loop s).start.config.count = k.config.count ∧
      (k.loop s).start.painted = 0 ∧
      Terminal.viewport (k.loop s).start.terminal = s.console.viewport ∧
      (k.loop s).start.terminal.console.glyphs = s.console.glyphs := by
  refine ⟨rfl, rfl, rfl, ?_, ?_⟩
  · show Terminal.viewport (if (k.loop s).config.title = "" then _ else _) = _
    split <;> rfl
  · show (LiveConsole.console (if (k.loop s).config.title = "" then _ else _)).glyphs = _
    split
    · rfl
    · exact Console.glyphs_retitle _ _

theorem start_tracked (h : s.Accounted) : Loop.Tracked s.log k.arriving (k.loop s).start := by
  have hsince : ({ s with arriving := k.arriving, calls := 0 } : LiveConsole).Since s.log k.arriving :=
    ⟨⟨h.queue, h.all, h.keys, h.syncs, h.settled⟩, rfl, [], (List.append_nil _).symm, by simp⟩
  have hloop : Loop.Tracked s.log k.arriving (k.loop s) := ⟨.of_range rfl, hsince⟩
  exact hloop.start

/-- A run never fails, and where it ends there is cause to. -/
theorem outcome_cause (h : s.Accounted) {limit : Nat}
    {r : EStateM.Result Fault (Loop LiveConsole) StopReason} (hr : k.outcome limit s = some r) :
    ∃ reason m, r = .ok reason m ∧ Loop.Tracked s.log k.arriving m ∧ k.Cause s.log m.painted reason := by
  obtain ⟨hrun, hcount, -⟩ := k.start_eq s
  obtain ⟨r', hturns, rfl⟩ := Option.map_eq_some_iff.mp hr
  obtain ⟨reason, m, rfl, hm, hcause⟩ := (k.start_tracked h).turns hrun hcount limit hturns
  refine ⟨reason, m.stop .aborted, rfl, hm.stop .aborted, ?_⟩
  rw [(Loop.stop_frame .aborted m).2.2]
  exact hcause

theorem turned_tracked (h : s.Accounted) (n : Nat) : Loop.Tracked s.log k.arriving (k.turned s n) := by
  induction n with
  | zero => exact k.start_tracked h
  | succ n ih =>
    obtain ⟨m, hturn, hm, -⟩ := ih.turn k
    rw [turned, hturn]
    exact hm.poll _

theorem after_accounted (h : s.Accounted) (limit : Nat) : (k.after limit s).Accounted := by
  unfold after
  cases hr : k.outcome limit s with
  | none => exact (k.turned_tracked h limit).since.accounted
  | some r =>
    obtain ⟨reason, m, rfl, hm, -⟩ := k.outcome_cause h hr
    exact hm.since.accounted

/-- After a key press, a run paints once and stops. -/
theorem outcome_key (h : s.Accounted) (hkey : .delivered .key ∈ s.log) (hwidth : 0 < s.console.width)
    (hheight : 0 < s.console.height) {limit : Nat} (hlimit : 0 < limit) :
    ∃ l, k.outcome limit s = some (.ok .key l) ∧ l.painted = 1 ∧
      l.terminal.console.glyphs = s.console.glyphs + 1 := by
  obtain ⟨hrun, -, hpainted, hview, hglyphs⟩ := k.start_eq s
  obtain ⟨m, hturn, hphase, hreason, hm, hmglyphs⟩ := (k.start_tracked h).turn_key hrun hkey k
  have hroom : (k.loop s).start.roomy = true := by
    rw [Loop.roomy, hview]
    simp [Rect.isEmpty, Console.viewport, Int64.not_le.mpr hwidth, Int64.not_le.mpr hheight]
  have hturns : Loop.turns k.around limit (k.loop s).start = some (.ok .key m) := by
    obtain ⟨n, rfl⟩ := Nat.exists_eq_add_one.mpr hlimit
    rw [Loop.turns, hturn, ← hreason]
  -- Every run ends with a stop, which finds this loop stopped already.
  have hstopped : m.stop .aborted = m := Loop.stop_not_running .aborted m (by rw [hphase]; decide)
  refine ⟨m, ?_, ?_, ?_⟩
  · rw [outcome, Loop.run, hturns, Option.map_some, Loop.settle, hstopped]
  · rw [hm, hpainted, hroom]
    rfl
  · rw [hmglyphs, hglyphs, hroom]
    rfl

/-- Without a key press, cancellation or a number of glyphs asked for, a run goes on. -/
theorem outcome_none (h : s.Accounted) (hkey : .delivered .key ∉ s.log)
    (hkeyless : ∀ n, .event .key ∉ k.arriving n) (hnever : ∀ n, k.cancelled n = false)
    (hcount : k.config.count ≤ 0) (limit : Nat) : k.outcome limit s = none := by
  cases hr : k.outcome limit s with
  | none => rfl
  | some r =>
    obtain ⟨reason, m, -, -, hcause⟩ := k.outcome_cause h hr
    exfalso
    cases hcause with
    | key hcame =>
      obtain hold | ⟨n, hn⟩ := hcame
      · exact hkey hold
      · exact hkeyless n hn
    | cancelled n hn => exact Bool.false_ne_true ((hnever n).symm.trans hn)
    | count hpos _ => exact Int64.not_lt.mpr hcount hpos

end LiveRun

/-! ### The console by itself -/

namespace LiveConsole

/-- The console in use is `c`, and nothing arrives while a loop runs on it. -/
structure Alone (c : Console) (s : LiveConsole) : Prop where
  console : s.console = c
  quiet : ∀ n, s.arriving n = []

namespace Alone
variable {c : Console} {s : LiveConsole} (h : Alone c s)
include h

theorem pass : Alone c s.pass := by
  have hpass : s.pass = { s with calls := s.calls + 1 } := by rw [LiveConsole.pass, h.quiet]; rfl
  rw [hpass]
  exact ⟨h.console, h.quiet⟩

theorem change (f : Console → Console) : Alone (f c) { s with console := f s.console } :=
  ⟨congrArg f h.console, h.quiet⟩

theorem call (f : Console → Console) : Alone (f c) (s.call f) :=
  (h.change f).pass

end Alone

theorem coupling_alone : Terminal.Coupling Alone where
  foreground h := congrArg Console.fg h.console
  background h := congrArg Console.bg h.console
  viewport h := congrArg Console.viewport h.console
  setForeground color h := h.call (Terminal.setForeground color)
  setBackground color h := h.call (Terminal.setBackground color)
  setCursor col row h := h.call (Terminal.setCursor col row)
  write glyph h := ⟨_, _, rfl, rfl, h.call (Console.write · glyph)⟩
  clear h := h.call Console.clear
  keyPending {c s} h := by
    have hasked : s.ask.2.console = s.console.keyPending.2 := by rw [ask_eq]
    refine ⟨by rw [answer_eq, h.console]; rfl, Alone.pass ⟨?_, h.quiet⟩⟩
    rw [hasked, h.console]
    rfl
  retitle title h := h.change (Terminal.retitle title)

end LiveConsole

/-- A run while nothing arrives is a run on the console by itself. -/
theorem LiveRun.runLoop_eq (s : LiveConsole) (clock : Int64) (config : RunSettings) (cancelled : Bool)
    (limit : Nat) :
    s.console.runLoop clock config cancelled limit = none ∧
      (LiveRun.mk clock config (fun _ => []) fun _ => cancelled).outcome limit s = none ∨
    ∃ reason l,
      s.console.runLoop clock config cancelled limit = some (.ok reason (l.onto l.terminal.console)) ∧
      (LiveRun.mk clock config (fun _ => []) fun _ => cancelled).outcome limit s =
        some (.ok reason l) := by
  let k : LiveRun := ⟨clock, config, fun _ => [], fun _ => cancelled⟩
  have haround : Surroundings.Coupling LiveConsole.Alone (.quiet Console cancelled) k.around :=
    ⟨fun _ h => ⟨_, _, rfl, rfl, h.pass⟩, fun _ => rfl⟩
  have hcoupled : Loop.Coupled LiveConsole.Alone (.new clock s.console config) (k.loop s) :=
    ⟨⟨rfl, fun _ => rfl⟩, rfl, .of_range rfl⟩
  obtain hnone | ⟨reason, l, m, hl, hm, hlm⟩ :=
    hcoupled.run LiveConsole.coupling_alone haround limit
  · exact .inl hnone
  · refine .inr ⟨reason, m, ?_, hm⟩
    have hback : l = m.onto m.terminal.console := by
      rw [hlm.terminals.console, hlm.alike]
      rfl
    rw [← hback]
    exact hl

/-! ### All histories -/

/-- What can happen to a console in use. -/
inductive Act where
  | deliver (d : Delivery)
  /-- Someone asks for key presses. -/
  | ask
  /-- A run, followed for so many turns. -/
  | run (k : LiveRun) (limit : Nat)

namespace LiveConsole

def undergo (s : LiveConsole) : Act → LiveConsole
  | .deliver d => s.deliver d
  | .ask => s.ask.2
  | .run k limit => k.after limit s

theorem Accounted.undergo {s : LiveConsole} (h : s.Accounted) (a : Act) : (s.undergo a).Accounted := by
  cases a with
  | deliver d => exact h.deliver d
  | ask => exact h.ask
  | run k limit => exact k.after_accounted h limit

theorem Accounted.foldl {s : LiveConsole} (h : s.Accounted) (acts : List Act) :
    (acts.foldl LiveConsole.undergo s).Accounted := by
  induction acts generalizing s with
  | nil => exact h
  | cons a rest ih => exact ih (h.undergo a)

/-- A new console after all this has happened to it. -/
def history (width height : Int64) (acts : List Act) : LiveConsole :=
  acts.foldl undergo (new width height)

end LiveConsole

/-- **Every event is accounted for.** Whatever is delivered to a console, by whomever it is asked for key
presses and whichever loops run on it:

* Whoever asks takes the events delivered since someone last asked, and with them all that were delivered
  have been taken once, in order. The answer is yes just if a key press has ever been delivered, and the
  display shows everything anew for each change of size taken.
* A run that begins after a key press, on a display with a cell, paints one glyph and stops for the key.
* A run stops for a key press, for cancellation or for the number of glyphs asked for, and goes on if
  there is none of these, whatever else is delivered meanwhile.
* A run while nothing arrives is a run on the console by itself. -/
theorem input_accounted (width height : Int64) (acts : List Act) :
    let s := LiveConsole.history width height acts
    (∀ earlier answer taken told later, s.log = earlier ++ .asked answer taken told :: later →
      taken = Note.waiting earlier ∧ (answer = true ↔ .delivered .key ∈ earlier) ∧
        told = (taken.filter (· = .resize)).map fun _ => .sync) ∧
    Note.deliveries s.log = Note.takings s.log ++ s.console.queue ∧
    s.console.queue = Note.waiting s.log ∧
    (s.console.keyPending.1 = true ↔ .delivered .key ∈ s.log) ∧
    s.console.calls.count .sync = (Note.takings s.log).count .resize ∧
    (∀ k : LiveRun, .delivered .key ∈ s.log → 0 < s.console.width → 0 < s.console.height →
      ∀ limit, 0 < limit → ∃ l, k.outcome limit s = some (.ok .key l) ∧ l.painted = 1 ∧
        l.terminal.console.glyphs = s.console.glyphs + 1) ∧
    (∀ (k : LiveRun) limit r, k.outcome limit s = some r →
      ∃ reason l, r = .ok reason l ∧ k.Cause s.log l.painted reason) ∧
    (∀ k : LiveRun, .delivered .key ∉ s.log → (∀ n, .event .key ∉ k.arriving n) →
      (∀ n, k.cancelled n = false) → k.config.count ≤ 0 → ∀ limit, k.outcome limit s = none) ∧
    ∀ clock config cancelled limit,
      let alone : LiveRun := ⟨clock, config, fun _ => [], fun _ => cancelled⟩
      s.console.runLoop clock config cancelled limit = none ∧ alone.outcome limit s = none ∨
        ∃ reason l,
          s.console.runLoop clock config cancelled limit = some (.ok reason (l.onto l.terminal.console)) ∧
            alone.outcome limit s = some (.ok reason l) := by
  intro s
  have h : s.Accounted := (LiveConsole.new_accounted width height).foldl acts
  refine ⟨h.settled, h.all, h.queue, h.keyPending_iff, h.syncs, ?_, ?_, ?_, ?_⟩
  · intro k hkey hwidth hheight limit hlimit
    exact k.outcome_key h hkey hwidth hheight hlimit
  · intro k limit r hr
    obtain ⟨reason, l, hok, -, hcause⟩ := k.outcome_cause h hr
    exact ⟨reason, l, hok, hcause⟩
  · intro k hkey hkeyless hnever hcount limit
    exact k.outcome_none h hkey hkeyless hnever hcount limit
  · intro clock config cancelled limit
    exact LiveRun.runLoop_eq s clock config cancelled limit

/-- A key press that was taken long ago stops the next run. Without it, the mouse and changes of size do
not. -/
theorem input_accounted_key_taken_before :
    let k : LiveRun := ⟨7, .default, fun n => [.event .mouse, .resized 2 n.toInt64], fun _ => false⟩
    let keyless := LiveConsole.history 3 2 [.deliver (.event .resize), .ask, .deliver (.event .mouse)]
    let keyed := LiveConsole.history 0 0
      [.deliver (.resized 3 2), .deliver (.event .key), .ask, .deliver (.event .mouse)]
    (keyed.log = [.delivered .resize, .delivered .key] ++
        .asked true [.resize, .key] [.sync] :: [.delivered .mouse] ∧
      [.resize, .key] = Note.waiting [.delivered .resize, .delivered .key]) ∧
    (∃ l, k.outcome 1 keyed = some (.ok .key l) ∧ l.painted = 1 ∧
      l.terminal.console.glyphs = keyed.console.glyphs + 1) ∧
    ∀ limit, k.outcome limit keyless = none := by
  intro k keyless keyed
  obtain ⟨hasked, -, -, -, -, hkey, -⟩ := input_accounted 0 0
    [.deliver (.resized 3 2), .deliver (.event .key), .ask, .deliver (.event .mouse)]
  obtain ⟨-, -, -, -, -, -, -, hkeyless, -⟩ := input_accounted 3 2
    [.deliver (.event .resize), .ask, .deliver (.event .mouse)]
  have hlog : keyed.log = [.delivered .resize, .delivered .key] ++
      .asked true [.resize, .key] [.sync] :: [.delivered .mouse] := by decide
  refine ⟨⟨hlog, (hasked _ _ _ _ _ hlog).1⟩, ?_, ?_⟩
  · exact hkey k (by decide) (by decide) (by decide) 1 Nat.one_pos
  · exact hkeyless k (by decide) (fun n => by simp [k]) (fun _ => rfl) (by decide)

end Screensaver
