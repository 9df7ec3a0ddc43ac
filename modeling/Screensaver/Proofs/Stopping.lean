import Mathlib.Data.Nat.Find
import Mathlib.Order.Bounds.Basic
import Screensaver.Proofs.Drivers
import Screensaver.Proofs.Restoring

/-! When a run stops, and why.

A cycle is a paint and the pause after it, and a run is cycles with a poll after each. Polls that go on
change nothing, so where a run stops can be read off the loop that is never polled: after the first
cycle that leaves a key press pending, or the run cancelled, or enough glyphs painted.

`run_stops` says that a run on a stage without faults returns after exactly that cycle and for the
first of these reasons that holds there, and that it never returns if there is no such cycle. Since
the poll comes after every single glyph, the number of glyphs asked for is met and not passed, and at
most one more glyph is written once a key is pressed or the run is cancelled. -/
namespace Screensaver

/-- No fault is scheduled. -/
def Schedule.Calm (s : Schedule) : Prop :=
  ∀ moment n text, Happening.fault text ∉ s.during moment n

/-- Among these is a key press or a cancellation. -/
def Signals (hs : List Happening) : Prop :=
  .key ∈ hs ∨ .cancel ∈ hs

theorem signals_append {hs hs' : List Happening} : Signals (hs ++ hs') ↔ Signals hs ∨ Signals hs' := by
  simp only [Signals, List.mem_append]
  tauto

namespace Stage

/-- A key press is pending, or the run is cancelled. -/
def Signalled (s : Stage) : Prop :=
  s.buffer.keyPending = true ∨ s.cancelled = true

/-- How long the pauses were. -/
def sleeps (s : Stage) : List Int64 :=
  s.calls.toList.filterMap fun
    | .pause ns => some ns
    | _ => none

/-- The moment of the `n`-th write or pause is still to come. -/
def Ahead (s : Stage) : Moment → Nat → Prop
  | .pause, n => s.pauses < n
  | _, n => s.writes < n

/-- What happens during the next write. -/
def duringWrite (s : Stage) : List Happening :=
  s.schedule.during .beforeWrite (s.writes + 1) ++ s.schedule.during .afterWrite (s.writes + 1)

/-! ### What happens on a stage without faults -/

/-- From `s` to `t` all of `hs` has happened, so many characters were written, and the pauses were
`slept`. -/
structure Passes (hs : List Happening) (written : Nat) (slept : List Int64) (s t : Stage) : Prop where
  schedule : t.schedule = s.schedule
  writes : t.writes = s.writes + written
  pauses : t.pauses = s.pauses + slept.length
  sleeps : t.sleeps = s.sleeps ++ slept
  pressed : t.buffer.keyPending = true ↔ s.buffer.keyPending = true ∨ .key ∈ hs
  cancelled : t.cancelled = true ↔ s.cancelled = true ∨ .cancel ∈ hs

namespace Passes
variable {hs hs' : List Happening} {written written' : Nat} {slept slept' : List Int64}
  {s t u : Stage}

theorem refl (s : Stage) : Passes [] 0 [] s s :=
  ⟨rfl, rfl, rfl, (List.append_nil _).symm, by simp, by simp⟩

theorem trans (h : Passes hs written slept s t) (h' : Passes hs' written' slept' t u) :
    Passes (hs ++ hs') (written + written') (slept ++ slept') s u := by
  refine ⟨h'.schedule.trans h.schedule, ?_, ?_, ?_, ?_, ?_⟩
  · rw [h'.writes, h.writes, Nat.add_assoc]
  · rw [h'.pauses, h.pauses, List.length_append, Nat.add_assoc]
  · rw [h'.sleeps, h.sleeps, List.append_assoc]
  · rw [h'.pressed, h.pressed, List.mem_append, or_assoc]
  · rw [h'.cancelled, h.cancelled, List.mem_append, or_assoc]

theorem signalled (h : Passes hs written slept s t) : t.Signalled ↔ s.Signalled ∨ Signals hs := by
  rw [Signalled, Signalled, Signals, h.pressed, h.cancelled]
  tauto

/-- Nothing happens that a loop could notice as a reason to stop. -/
theorem of_kept {t : Stage} (hschedule : t.schedule = s.schedule) (hwrites : t.writes = s.writes + written)
    (hpauses : t.pauses = s.pauses + slept.length) (hsleeps : t.sleeps = s.sleeps ++ slept)
    (hpending : t.buffer.pending = s.buffer.pending) (hcancelled : t.cancelled = s.cancelled) :
    Passes [] written slept s t := by
  refine ⟨hschedule, hwrites, hpauses, hsleeps, ?_, ?_⟩
  · simp [Buffer.keyPending, hpending]
  · simp [hcancelled]

theorem ahead (h : Passes hs 0 [] s t) {moment : Moment} {n : Nat} (hahead : s.Ahead moment n) :
    t.Ahead moment n := by
  cases moment <;> simpa [Ahead, h.writes, h.pauses] using hahead

end Passes

theorem happen_passes {h : Happening} (hcalm : ∀ text, h ≠ .fault text) (s : Stage) :
    ∃ t, happen h s = .ok () t ∧ Passes [h] 0 [] s t := by
  cases h with
  | fault text => exact absurd rfl (hcalm text)
  | key =>
    refine ⟨_, rfl, rfl, rfl, rfl, (List.append_nil _).symm, ?_, by simp⟩
    simp [Buffer.keyPending, Buffer.pressKey]
  | cancel => exact ⟨_, rfl, rfl, rfl, rfl, (List.append_nil _).symm, by simp, by simp⟩
  | resize w h =>
    refine ⟨_, rfl, rfl, rfl, rfl, (List.append_nil _).symm, ?_, by simp⟩
    show s.buffer.keyPending = true ↔ _
    simp
  | uncover area => exact ⟨_, rfl, rfl, rfl, rfl, (List.append_nil _).symm, by simp, by simp⟩

theorem happenAll_passes {hs : List Happening} (hcalm : ∀ text, Happening.fault text ∉ hs)
    (s : Stage) : ∃ t, happenAll hs s = .ok () t ∧ Passes hs 0 [] s t := by
  induction hs generalizing s with
  | nil => exact ⟨s, rfl, .refl s⟩
  | cons h rest ih =>
    obtain ⟨t, ht, hfirst⟩ := happen_passes (h := h) (fun text he => hcalm text (by simp [he])) s
    obtain ⟨u, hu, hrest⟩ := ih (fun text he => hcalm text (List.mem_cons_of_mem _ he)) t
    exact ⟨u, (bind_ok ht).trans hu, hfirst.trans hrest⟩

theorem write_passes {s : Stage} (hcalm : s.schedule.Calm) (g : Int32) :
    ∃ t, write g s = .ok () t ∧ Passes s.duringWrite 1 [] s t := by
  let begun : Stage := { s.record (.write g) with writes := s.writes + 1 }
  have hbegin : Passes [] 1 [] s begun :=
    .of_kept rfl rfl rfl (by simp [Stage.sleeps, begun, record]) rfl rfl
  obtain ⟨t, ht, hbefore⟩ := happenAll_passes (hcalm .beforeWrite (s.writes + 1)) begun
  have hstore : Passes [] 0 [] t { t with buffer := t.buffer.write g } :=
    .of_kept rfl rfl rfl (List.append_nil _).symm (t.buffer.write_frame g).2.2 rfl
  obtain ⟨u, hu, hafter⟩ := happenAll_passes (hcalm .afterWrite (s.writes + 1))
    { t with buffer := t.buffer.write g }
  refine ⟨u, ?_, hbegin.trans (hbefore.trans (hstore.trans hafter))⟩
  exact (bind_ok (modify_ok _ _)).trans ((bind_ok (get_ok _)).trans ((bind_ok ht).trans
    ((bind_ok (modify_ok _ _)).trans hu)))

theorem pause_passes {s : Stage} (hcalm : s.schedule.Calm) (ns : Int64) :
    ∃ t, pause ns s = .ok () t ∧ Passes (s.schedule.during .pause (s.pauses + 1)) 0 [ns] s t := by
  let begun : Stage := { s.record (.pause ns) with pauses := s.pauses + 1 }
  have hbegin : Passes [] 0 [ns] s begun :=
    .of_kept rfl rfl rfl (by simp [Stage.sleeps, begun, record]) rfl rfl
  obtain ⟨t, ht, hduring⟩ := happenAll_passes (hcalm .pause (s.pauses + 1)) begun
  exact ⟨t, (bind_ok (modify_ok _ _)).trans ((bind_ok (get_ok _)).trans ht), hbegin.trans hduring⟩

theorem aimed_passes (k : Stroke) (s : Stage) : Passes [] 0 [] s (Loop.aimed k s) := by
  refine .of_kept rfl rfl rfl ?_ rfl rfl
  show (((s.calls.push _).push _).push _).toList.filterMap _ = _
  simp [Stage.sleeps]

end Stage

namespace Loop

/-- Whether there is a cell to paint on. -/
def hasRoom (l : Loop Stage) : Bool :=
  !(Terminal.viewport l.terminal).isEmpty

/-- A paint and the pause after it. -/
def cycle : EStateM Fault (Loop Stage) Unit := do
  let _ ← paint
  pause Stage.surroundings

/-- The loop after so many cycles without a poll. -/
def unpolled (l : Loop Stage) : Nat → Loop Stage
  | 0 => l
  | n + 1 => leftBehind (cycle (l.unpolled n))

/-- There is a reason to stop. -/
def Ripe (l : Loop Stage) : Prop :=
  l.terminal.Signalled ∨ l.Enough

/-- Cycle number `i` is the first after which there is a reason to stop. -/
def FirstRipe (l : Loop Stage) (i : Nat) : Prop :=
  IsLeast {i | 0 < i ∧ (l.unpolled i).Ripe} i

/-- The number of glyphs that a started loop has on its stage at a moment of the `n`-th write or
pause, for as long as it is not polled. -/
def writtenBy (l : Loop Stage) : Moment → Nat → Nat
  | .beforeWrite, n => n - 1
  | .afterWrite, n => n
  | .pause, n => (l.unpolled (n - l.terminal.pauses)).terminal.writes

/-! ### Cycles -/

/-- The loop runs, and nothing can fail: its glyphs are printable, and no fault is scheduled. -/
structure Ready (l : Loop Stage) : Prop where
  running : l.phase = .running
  printable : l.picker.Printable
  calm : l.terminal.schedule.Calm

/-- What happens during the next paint. -/
def duringPaint (l : Loop Stage) : List Happening :=
  if l.hasRoom then l.terminal.duringWrite else []

/-- From `l` to `m` there is one cycle. -/
structure Cycled (l m : Loop Stage) : Prop where
  ready : m.Ready
  config : m.config = l.config
  painted : m.painted = l.painted + l.hasRoom.toNat
  passes : Stage.Passes
    (l.duringPaint ++ l.terminal.schedule.during .pause (l.terminal.pauses + 1))
    l.hasRoom.toNat [l.interval] l.terminal m.terminal

variable {l : Loop Stage}

theorem Ready.paint (h : l.Ready) :
    ∃ b m, Loop.paint l = .ok b m ∧ m.phase = .running ∧ m.picker.Printable ∧
      m.config = l.config ∧ m.painted = l.painted + l.hasRoom.toNat ∧
      Stage.Passes l.duringPaint l.hasRoom.toNat [] l.terminal m.terminal := by
  cases harea : (Terminal.viewport l.terminal).isEmpty with
  | true =>
    have hroom : l.hasRoom = false := by simp [hasRoom, harea]
    obtain ⟨fg, bg, p, hc, -, hrange⟩ := Picker.colors_ok l.picker
    refine ⟨_, _, paint_empty l h.running harea hc, h.running, h.printable.of_sameRange hrange, rfl,
      ?_, ?_⟩
    · simp [hroom]
    · simpa [duringPaint, hroom] using Stage.Passes.refl l.terminal
  | false =>
    have hroom : l.hasRoom = true := by simp [hasRoom, harea]
    obtain ⟨s, p, hs, -, hrange⟩ := Picker.stroke_ok _ harea l.picker h.printable
    have haim := Stage.aimed_passes s l.terminal
    have hcalm : (aimed s l.terminal).schedule.Calm := haim.schedule ▸ h.calm
    obtain ⟨t, ht, hwrite⟩ := Stage.write_passes hcalm s.glyph
    have hpaint := paint_stroke l h.running harea hs
    simp only [Terminal.write, ht] at hpaint
    have hstroke : Stage.Passes l.terminal.duringWrite 1 [] l.terminal t := haim.trans hwrite
    refine ⟨_, _, hpaint, h.running, h.printable.of_sameRange hrange, rfl, ?_, ?_⟩
    · simp [hroom]
    · simpa [duringPaint, hroom] using hstroke

/-- A cycle of a loop in which nothing can fail is completed. -/
theorem Ready.cycle (h : l.Ready) :
    Loop.cycle l = .ok () (leftBehind (Loop.cycle l)) ∧ Cycled l (leftBehind (Loop.cycle l)) := by
  obtain ⟨b, m, hpaint, hrun, hprintable, hconfig, hpainted, hpasses⟩ := h.paint
  have hcalm : m.terminal.schedule.Calm := hpasses.schedule ▸ h.calm
  obtain ⟨t, ht, hslept⟩ := Stage.pause_passes hcalm m.interval
  have hpause : pause Stage.surroundings m = .ok () { m with terminal := t } := by
    simp only [pause, Stage.surroundings, ht]
  have hcycle : Loop.cycle l = .ok () { m with terminal := t } := (bind_ok hpaint).trans hpause
  rw [hcycle]
  refine ⟨rfl, ⟨hrun, hprintable, hslept.schedule ▸ hcalm⟩, hconfig, hpainted, ?_⟩
  have hall := hpasses.trans hslept
  rwa [hpasses.schedule, hpasses.pauses, interval, hconfig] at hall

/-- From `l` to `m` there are `n` cycles. -/
structure Course (n : Nat) (l m : Loop Stage) : Prop where
  ready : m.Ready
  config : m.config = l.config
  schedule : m.terminal.schedule = l.terminal.schedule
  writes : m.terminal.writes + l.painted = l.terminal.writes + m.painted
  pauses : m.terminal.pauses = l.terminal.pauses + n
  sleeps : m.terminal.sleeps = l.terminal.sleeps ++ List.replicate n l.interval

theorem Course.cycled {n : Nat} {m k : Loop Stage} (h : Course n l m) (hk : Cycled m k) :
    Course (n + 1) l k := by
  have hwrites := h.writes
  have hinterval : m.interval = l.interval := congrArg RunSettings.interval h.config
  refine ⟨hk.ready, hk.config.trans h.config, hk.passes.schedule.trans h.schedule, ?_, ?_, ?_⟩
  · rw [hk.passes.writes, hk.painted]
    omega
  · rw [hk.passes.pauses, h.pauses]
    rfl
  · rw [hk.passes.sleeps, h.sleeps, hinterval, List.append_assoc, List.replicate_succ']

theorem Ready.course (h : l.Ready) (n : Nat) : Course n l (l.unpolled n) := by
  induction n with
  | zero => exact ⟨h, rfl, rfl, Nat.add_comm _ _ ▸ rfl, rfl, (List.append_nil _).symm⟩
  | succ n ih => exact ih.cycled ih.ready.cycle.2

theorem Ready.cycle_unpolled (h : l.Ready) (n : Nat) :
    Loop.cycle (l.unpolled n) = .ok () (l.unpolled (n + 1)) :=
  (h.course n).ready.cycle.1

theorem Ready.cycled_unpolled (h : l.Ready) (n : Nat) :
    Cycled (l.unpolled n) (l.unpolled (n + 1)) :=
  (h.course n).ready.cycle.2

theorem Ready.painted_unpolled (h : l.Ready) (n : Nat) :
    (l.unpolled n).painted = l.painted + (List.range n).countP fun j => (l.unpolled j).hasRoom := by
  induction n with
  | zero => rfl
  | succ n ih =>
    rw [(h.cycled_unpolled n).painted, ih, List.range_succ, List.countP_append, List.countP_singleton]
    cases (l.unpolled n).hasRoom <;> rfl

/-! ### Polls -/

/-- What a poll would stop the loop for. -/
def toStop (l : Loop Stage) : Option StopReason :=
  l.due l.terminal.buffer.keyPending l.terminal.cancelled

theorem toStop_eq_none : l.toStop = none ↔ ¬l.Ripe := by
  rw [toStop, due_eq_none, Ripe, Stage.Signalled]
  simp [and_assoc]

theorem exists_toStop (h : l.Ripe) : ∃ reason, l.toStop = some reason :=
  Option.ne_none_iff_exists'.mp fun hnone => toStop_eq_none.mp hnone h

theorem toStop_reason {reason : StopReason} (h : l.toStop = some reason) :
    reason = if l.terminal.buffer.keyPending then .key
      else if l.terminal.cancelled then .cancelled else .count := by
  obtain ⟨hkey, rfl⟩ | ⟨hkey, hcancelled, rfl⟩ | ⟨hkey, hcancelled, -, rfl⟩ := due_eq_some.mp h
  · rw [if_pos hkey]
  · rw [if_neg (by simp [hkey]), if_pos hcancelled]
  · rw [if_neg (by simp [hkey]), if_neg (by simp [hcancelled])]

theorem enough_of_toStop (h : l.toStop = some .count) : l.Enough := by
  obtain ⟨-, hcase⟩ | ⟨-, -, hcase⟩ | ⟨-, -, henough, -⟩ := due_eq_some.mp h
  · cases hcase
  · cases hcase
  · exact henough

/-- A turn is a cycle with a poll after it. -/
theorem turn_of_cycle {m : Loop Stage} (h : cycle l = .ok () m) (hrun : m.phase = .running) :
    turn Stage.surroundings l = match m.toStop with
      | some reason => .ok false (m.stop reason)
      | none => .ok true m := by
  obtain ⟨b, k, hpaint, hpause⟩ := bind_eq_ok h
  have hkey : Terminal.keyPending m.terminal = (m.terminal.buffer.keyPending, m.terminal) := rfl
  have hpoll : (modifyGet fun l => l.poll (Stage.surroundings.cancelled l.terminal) :
      EStateM Fault (Loop Stage) Bool) m =
      .ok (m.poll m.terminal.cancelled).1 (m.poll m.terminal.cancelled).2 := rfl
  rw [turn_eq, bind_ok hpaint, bind_ok hpause, hpoll, poll_running hrun hkey, toStop]
  cases m.due m.terminal.buffer.keyPending m.terminal.cancelled <;> rfl

/-- As long as there is no reason to stop, the run and the loop that is never polled are the same. -/
theorem polled_unpolled (h : l.start.Ready) (n : Nat)
    (hn : ∀ k, 0 < k → k ≤ n → ¬(l.start.unpolled k).Ripe) :
    l.polled Stage.surroundings n = some (true, l.start.unpolled n) := by
  induction n with
  | zero => rfl
  | succ n ih =>
    have hbefore := ih fun k hk hkn => hn k hk (Nat.le_succ_of_le hkn)
    have hturn := turn_of_cycle (h.cycle_unpolled n) (h.course (n + 1)).ready.running
    rw [toStop_eq_none.mpr (hn (n + 1) n.succ_pos (Nat.le_refl _))] at hturn
    exact polled_succ.mpr ⟨_, hbefore, hturn⟩

theorem FirstRipe.not_ripe {i : Nat} (h : l.FirstRipe i) {k : Nat} (hk : 0 < k) (hki : k < i) :
    ¬(l.unpolled k).Ripe :=
  fun hripe => Nat.not_le.mpr hki (h.2 ⟨hk, hripe⟩)

/-- At the first reason to stop, the run returns. -/
theorem FirstRipe.run_eq {i : Nat} (hi : l.start.FirstRipe i) (h : l.start.Ready) :
    ∃ reason, (l.start.unpolled i).toStop = some reason ∧ ∀ limit, l.run Stage.surroundings limit =
      if limit < i then none else some (.ok reason ((l.start.unpolled i).stop reason)) := by
  obtain ⟨n, rfl⟩ := Nat.exists_eq_add_one.mpr hi.1.1
  obtain ⟨reason, hreason⟩ := exists_toStop hi.1.2
  refine ⟨reason, hreason, fun limit => ?_⟩
  have hrun := (h.course (n + 1)).ready.running
  have hturn := turn_of_cycle (h.cycle_unpolled n) hrun
  rw [hreason] at hturn
  have hgoes : l.polled Stage.surroundings n = some (true, l.start.unpolled n) :=
    polled_unpolled h n fun k hk hkn => hi.not_ripe hk (Nat.lt_succ_of_le hkn)
  split
  · next hless =>
    refine run_eq_none_iff.mpr ⟨_, polled_unpolled h limit fun k hk hkl => ?_⟩
    exact hi.not_ripe hk (Nat.lt_of_le_of_lt hkl hless)
  · next hmore =>
    obtain ⟨more, rfl⟩ : ∃ more, limit = n + (more + 1) := ⟨limit - (n + 1), by omega⟩
    rw [run, turns_polled hgoes, turns, hturn]
    simp only [Option.map_some, settle, stop_reason reason _ hrun,
      stop_not_running _ _ (stop_ne_running reason _)]

theorem exists_firstRipe {k : Nat} (hk : 0 < k) (hripe : (l.unpolled k).Ripe) :
    ∃ i ≤ k, l.FirstRipe i := by
  classical
  have hsome : ∃ k, 0 < k ∧ (l.unpolled k).Ripe := ⟨k, hk, hripe⟩
  exact ⟨Nat.find hsome, Nat.find_min' hsome ⟨hk, hripe⟩, Nat.find_spec hsome,
    fun j hj => Nat.find_min' hsome hj⟩

/-- A run goes on for as long as there is no reason to stop. -/
theorem run_goes_on_iff (h : l.start.Ready) {limit : Nat} :
    l.run Stage.surroundings limit = none ↔
      ∀ k, 0 < k → k ≤ limit → ¬(l.start.unpolled k).Ripe := by
  constructor
  · intro hnone k hk hkl hripe
    obtain ⟨i, hik, hi⟩ := exists_firstRipe hk hripe
    obtain ⟨reason, -, hrun⟩ := hi.run_eq h
    rw [hrun, if_neg (by omega)] at hnone
    cases hnone
  · exact fun hn => run_eq_none_iff.mpr ⟨_, polled_unpolled h limit hn⟩

/-- A run that returns has come to its first reason to stop. -/
theorem eq_of_run_eq (h : l.start.Ready) {limit : Nat} {reason : StopReason} {m : Loop Stage}
    (hm : l.run Stage.surroundings limit = some (.ok reason m)) :
    ∃ i, l.start.FirstRipe i ∧ (l.start.unpolled i).toStop = some reason ∧
      m = (l.start.unpolled i).stop reason := by
  have hripe : ∃ k, 0 < k ∧ (l.start.unpolled k).Ripe := by
    by_contra hnone
    rw [(run_goes_on_iff h).mpr fun k hk _ hripe => hnone ⟨k, hk, hripe⟩] at hm
    cases hm
  obtain ⟨k, hk, hripe⟩ := hripe
  obtain ⟨i, -, hi⟩ := exists_firstRipe hk hripe
  obtain ⟨reason', hreason, hrun⟩ := hi.run_eq h
  rw [hrun] at hm
  split at hm
  · cases hm
  · cases hm
    exact ⟨i, hi, hreason, rfl⟩

/-! ### Moments -/

theorem Ready.writes_mono (h : l.Ready) : Monotone fun n => (l.unpolled n).terminal.writes := by
  refine monotone_nat_of_le_succ fun n => ?_
  show (l.unpolled n).terminal.writes ≤ (l.unpolled (n + 1)).terminal.writes
  rw [(h.cycled_unpolled n).passes.writes]
  exact Nat.le_add_right _ _

/-- A write that is made is made in some cycle, and what happens during it happens in that cycle. -/
theorem Ready.cycle_of_write (h : l.Ready) {n w : Nat} (hw : l.terminal.writes < w)
    (hn : w ≤ (l.unpolled n).terminal.writes) :
    ∃ j < n, (l.unpolled (j + 1)).terminal.writes = w ∧
      (Signals (l.terminal.schedule.during .beforeWrite w ++
        l.terminal.schedule.during .afterWrite w) → (l.unpolled (j + 1)).terminal.Signalled) := by
  induction n with
  | zero => exact absurd hn (Nat.not_le.mpr hw)
  | succ n ih =>
    -- if the write is not among those of the first `n` cycles, the next cycle has made it
    by_cases hbefore : w ≤ (l.unpolled n).terminal.writes
    · obtain ⟨j, hj, hrest⟩ := ih hbefore
      exact ⟨j, Nat.lt_succ_of_lt hj, hrest⟩
    · have hcycled := h.cycled_unpolled n
      have hwrites := hcycled.passes.writes
      have hroom : (l.unpolled n).hasRoom = true := by
        cases hroom : (l.unpolled n).hasRoom with
        | true => rfl
        | false => rw [hroom, Bool.toNat_false] at hwrites; omega
      rw [hroom, Bool.toNat_true] at hwrites
      have hnow : (l.unpolled n).terminal.writes + 1 = w := by omega
      refine ⟨n, Nat.lt_succ_self n, hwrites.trans hnow, fun hsignals => ?_⟩
      refine hcycled.passes.signalled.mpr (.inr (signals_append.mpr (.inl ?_)))
      rw [duringPaint, if_pos hroom, Stage.duringWrite, (h.course n).schedule, hnow]
      exact hsignals

/-- Once a key was pressed or the run was cancelled, the next poll finds that, so the glyphs of the
first cycle that ends with a reason to stop are at most one more. -/
theorem Ready.writes_le_writtenBy (h : l.Ready) {i n : Nat} {moment : Moment}
    (hi : l.FirstRipe i) (hahead : l.terminal.Ahead moment n)
    (hsignals : Signals (l.terminal.schedule.during moment n)) :
    (l.unpolled i).terminal.writes ≤ l.writtenBy moment n + 1 := by
  have hwrite : l.terminal.writes < n →
      Signals (l.terminal.schedule.during .beforeWrite n ++
        l.terminal.schedule.during .afterWrite n) → (l.unpolled i).terminal.writes ≤ n := by
    -- a run that goes on beyond this write has polled after its cycle, and would have stopped there
    intro hn hduring
    by_contra hmore
    obtain ⟨j, hj, hwrites, hsignalled⟩ := h.cycle_of_write hn (Nat.le_of_not_le hmore)
    have hij : i ≤ j + 1 := hi.2 ⟨j.succ_pos, .inl (hsignalled hduring)⟩
    have hle : (l.unpolled i).terminal.writes ≤ (l.unpolled (j + 1)).terminal.writes :=
      h.writes_mono hij
    omega
  cases moment with
  | beforeWrite =>
    have hn := hwrite hahead (signals_append.mpr (.inl hsignals))
    simp only [writtenBy]
    omega
  | afterWrite => exact Nat.le_succ_of_le (hwrite hahead (signals_append.mpr (.inr hsignals)))
  | pause =>
    obtain ⟨j, rfl⟩ : ∃ j, n = l.terminal.pauses + (j + 1) :=
      ⟨n - l.terminal.pauses - 1, by have : l.terminal.pauses < n := hahead; omega⟩
    have hsignalled : (l.unpolled (j + 1)).terminal.Signalled := by
      refine (h.cycled_unpolled j).passes.signalled.mpr (.inr (signals_append.mpr (.inr ?_)))
      rw [(h.course j).schedule, (h.course j).pauses]
      exact hsignals
    have hle : (l.unpolled i).terminal.writes ≤ (l.unpolled (j + 1)).terminal.writes :=
      h.writes_mono (hi.2 ⟨j.succ_pos, .inl hsignalled⟩)
    rw [writtenBy, Nat.add_sub_cancel_left]
    exact Nat.le_succ_of_le hle

/-- A key press or a cancellation from before the first cycle leaves room for one glyph. -/
theorem Ready.writes_le_of_signalled (h : l.Ready) {i : Nat}
    (hi : l.FirstRipe i) (hsignalled : l.terminal.Signalled) :
    (l.unpolled i).terminal.writes ≤ l.terminal.writes + 1 := by
  have hpasses : Stage.Passes _ _ _ l.terminal (l.unpolled 1).terminal :=
    (h.cycled_unpolled 0).passes
  have hone : i ≤ 1 := hi.2 ⟨Nat.one_pos, .inl (hpasses.signalled.mpr (.inl hsignalled))⟩
  have hle : (l.unpolled i).terminal.writes ≤ (l.unpolled 1).terminal.writes := h.writes_mono hone
  have hroom := Bool.toNat_le l.hasRoom
  have hwrites : (l.unpolled 1).terminal.writes = l.terminal.writes + l.hasRoom.toNat :=
    hpasses.writes
  omega

/-! ### Numbers of glyphs -/

/-- Each cycle paints at most one glyph, so the number asked for is not passed before a poll finds
it reached. -/
theorem Ready.painted_le_count (h : l.Ready) (hcount : 0 < l.config.count) (hstart : ¬l.Enough)
    {n : Nat} (hn : ∀ k, 0 < k → k ≤ n → ¬(l.unpolled k).Ripe) :
    ((l.unpolled (n + 1)).painted : Int) ≤ l.config.count.toInt := by
  have hless : ¬(l.unpolled n).Enough := by
    cases n with
    | zero => exact hstart
    | succ n => exact fun henough => hn (n + 1) n.succ_pos (Nat.le_refl _) (.inr henough)
  have hbefore : ((l.unpolled n).painted : Int) < l.config.count.toInt := by
    rw [Enough, (h.course n).config] at hless
    exact Int.not_le.mp fun hle => hless ⟨hcount, hle⟩
  have hroom := Bool.toNat_le (l.unpolled n).hasRoom
  rw [(h.cycled_unpolled n).painted]
  omega

/-! ### New loops and stopped loops -/

theorem stop_passes (reason : StopReason) (l : Loop Stage) :
    Stage.Passes [] 0 [] l.terminal (l.stop reason).terminal := by
  by_cases h : l.phase = .running
  · rw [stop_terminal reason l h]
    refine .of_kept rfl rfl rfl ?_ rfl rfl
    show (((l.terminal.calls.push _).push _).push _).toList.filterMap _ = _
    simp [Stage.sleeps]
  · rw [stop_not_running reason l h]
    exact .refl _

theorem start_passes (l : Loop Stage) : Stage.Passes [] 0 [] l.terminal l.start.terminal := by
  unfold start
  split
  · show Stage.Passes [] 0 [] l.terminal (if _ then _ else _)
    split
    · exact .refl _
    · show Stage.Passes [] 0 [] l.terminal (if _ then _ else _)
      split
      · exact .of_kept rfl rfl rfl (by simp [Stage.sleeps, Stage.record]) rfl rfl
      · exact .refl _
  · exact .refl _

theorem new_started_ready (clock : Int64) {s : Stage} (config : RunSettings)
    (hcalm : s.schedule.Calm) : (Loop.new clock s config).start.Ready := by
  have hpasses := start_passes (Loop.new clock s config)
  exact ⟨rfl, .of_range rfl, hpasses.schedule ▸ hcalm⟩

/-- The pause of a new loop. -/
theorem new_interval (clock : Int64) (s : Stage) (config : RunSettings) :
    (Loop.new clock s config).start.interval =
      if 0 < config.interval then config.interval else 5000000 := by
  show (if config.interval ≤ 0 then defaultInterval else config.interval) = _
  by_cases h : 0 < config.interval
  · rw [if_pos h, if_neg (Int64.not_le.mpr h)]
  · rw [if_neg h, if_pos (Int64.not_lt.mp h)]
    rfl

end Loop

/-- **A run stops after the first cycle that gives it a reason.** On a stage without faults, the run of
a new loop is that many paints and pauses, each pause as long as configured or else five milliseconds,
and it has counted the paints that found a cell. A pending key is its reason before cancellation, and
cancellation before the number of glyphs. If there is no such cycle, it never returns. So the number of
glyphs asked for is not exceeded, and is reached if it is the reason. And once a key is pressed or the
run is cancelled, be it before the start, at most one more glyph is written. -/
theorem run_stops (clock : Int64) (s : Stage) (config : RunSettings) (hcalm : s.schedule.Calm) :
    let l := Loop.new clock s config
    (∀ i, l.start.FirstRipe i → ∃ m,
      (∀ limit, l.run Stage.surroundings limit =
        if limit < i then none else some (.ok m.reason m)) ∧
      m = (l.start.unpolled i).stop m.reason ∧
      m.terminal.sleeps = s.sleeps ++
        List.replicate i (if 0 < config.interval then config.interval else 5000000) ∧
      m.painted = ((List.range i).countP fun j => (l.start.unpolled j).hasRoom) ∧
      m.terminal.writes = s.writes + m.painted ∧
      m.reason = if (l.start.unpolled i).terminal.buffer.keyPending then .key
        else if (l.start.unpolled i).terminal.cancelled then .cancelled else .count) ∧
    ((∀ i, ¬l.start.FirstRipe i) → ∀ limit, l.run Stage.surroundings limit = none) ∧
    (0 < config.count → ∀ limit, l.run Stage.surroundings limit = none →
      ((l.start.unpolled (limit + 1)).painted : Int) ≤ config.count.toInt) ∧
    (∀ limit reason m, l.run Stage.surroundings limit = some (.ok reason m) →
      (0 < config.count → (m.painted : Int) ≤ config.count.toInt) ∧
      (reason = .count → 0 < config.count ∧ (m.painted : Int) = config.count.toInt) ∧
      (s.Signalled → m.terminal.writes ≤ s.writes + 1) ∧
      ∀ moment n, s.Ahead moment n → Signals (s.schedule.during moment n) →
        m.terminal.writes ≤ l.start.writtenBy moment n + 1) := by
  intro l
  have hready : l.start.Ready := Loop.new_started_ready clock config hcalm
  have hstart : Stage.Passes [] 0 [] s l.start.terminal := l.start_passes
  have hbegin : 0 < config.count → ¬l.start.Enough := fun hcount henough =>
    Int.not_le.mpr (Int64.lt_iff_toInt_lt.mp hcount) henough.2
  refine ⟨fun i hi => ?_, fun hnone limit => ?_, fun hcount limit hlimit => ?_,
    fun limit reason m hm => ?_⟩
  · obtain ⟨reason, hreason, hrun⟩ := hi.run_eq hready
    have hrunning := (hready.course i).ready.running
    refine ⟨(l.start.unpolled i).stop reason, ?_, ?_, ?_, ?_, ?_, ?_⟩
    · rw [Loop.stop_reason reason _ hrunning]
      exact hrun
    · rw [Loop.stop_reason reason _ hrunning]
    · rw [(Loop.stop_passes reason _).sleeps, (hready.course i).sleeps, hstart.sleeps,
        Loop.new_interval, List.append_nil, List.append_nil]
    · rw [(Loop.stop_frame reason _).2.2, hready.painted_unpolled]
      exact Nat.zero_add _
    · have hwrites := (hready.course i).writes
      have hbefore : l.start.terminal.writes = s.writes := hstart.writes
      rw [(Loop.stop_passes reason _).writes, (Loop.stop_frame reason _).2.2, ← hbefore]
      exact hwrites
    · rw [Loop.stop_reason reason _ hrunning]
      exact Loop.toStop_reason hreason
  · refine (Loop.run_goes_on_iff hready).mpr fun k hk _ hripe => ?_
    obtain ⟨i, -, hi⟩ := Loop.exists_firstRipe hk hripe
    exact hnone i hi
  · exact hready.painted_le_count hcount (hbegin hcount) ((Loop.run_goes_on_iff hready).mp hlimit)
  · obtain ⟨i, hi, hreason, rfl⟩ := Loop.eq_of_run_eq hready hm
    have hlimit : 0 < config.count → ((l.start.unpolled i).painted : Int) ≤ config.count.toInt := by
      intro hcount
      obtain ⟨n, rfl⟩ := Nat.exists_eq_add_one.mpr hi.1.1
      exact hready.painted_le_count hcount (hbegin hcount) fun k hk hkn =>
        hi.not_ripe hk (Nat.lt_succ_of_le hkn)
    have hwrites : ((l.start.unpolled i).stop reason).terminal.writes =
        (l.start.unpolled i).terminal.writes := (Loop.stop_passes reason _).writes
    rw [(Loop.stop_frame reason _).2.2, hwrites]
    refine ⟨hlimit, ?_, fun hsignalled => ?_, fun moment n hahead hsignal => ?_⟩
    · rintro rfl
      obtain ⟨hcount, hreached⟩ := Loop.enough_of_toStop hreason
      rw [(hready.course i).config] at hcount hreached
      exact ⟨hcount, Int.le_antisymm (hlimit hcount) hreached⟩
    · rw [← Nat.add_zero s.writes, ← hstart.writes]
      exact hready.writes_le_of_signalled hi (hstart.signalled.mpr (.inl hsignalled))
    · exact hready.writes_le_writtenBy hi (hstart.ahead hahead) (hstart.schedule ▸ hsignal)

/-- A key press in the second pause ends a run there. -/
theorem run_stops_second_pause :
    let s := { Stage.ofBuffer (.new 3 2) with schedule := .ofList [⟨.pause, 2, .key⟩] }
    let l := Loop.new 1 s .default
    s.schedule.Calm ∧ l.start.FirstRipe 2 ∧ ∃ m, l.run Stage.surroundings 2 = some (.ok .key m) ∧
      m.terminal.sleeps = [5000000, 5000000] := by
  intro s l
  have hcalm : s.schedule.Calm := by
    intro moment n text hmem
    obtain ⟨k, hk, hfault⟩ := List.mem_map.mp hmem
    rw [List.mem_singleton.mp (List.mem_filter.mp hk).1] at hfault
    cases hfault
  have hready : l.start.Ready := Loop.new_started_ready 1 .default hcalm
  have hstart : Stage.Passes [] 0 [] s l.start.terminal := l.start_passes
  have hfirst : Loop.Cycled l.start (l.start.unpolled 1) := hready.cycled_unpolled 0
  have hsecond := hready.cycled_unpolled 1
  have hnone : l.start.duringPaint = [] := by
    rw [Loop.duringPaint, Stage.duringWrite, hstart.schedule, hstart.writes]
    exact ite_self _
  have hquiet : ¬(l.start.unpolled 1).terminal.Signalled := by
    rw [hfirst.passes.signalled, hstart.signalled, hnone, hstart.schedule, hstart.pauses]
    simp only [Stage.Signalled, Signals]
    decide
  have hkey : (l.start.unpolled 2).terminal.buffer.keyPending = true := by
    rw [hsecond.passes.pressed, hfirst.passes.pauses, hfirst.passes.schedule, hstart.schedule,
      hstart.pauses]
    exact .inr (List.mem_append_right _ (by decide))
  have hunlimited : ∀ n, ¬(l.start.unpolled n).Enough := by
    intro n henough
    rw [Loop.Enough, (hready.course n).config] at henough
    exact absurd henough.1 (by decide)
  have hleast : l.start.FirstRipe 2 := by
    refine ⟨⟨Nat.two_pos, .inl (.inl hkey)⟩, fun i ⟨hi, hripe⟩ => ?_⟩
    by_contra hless
    obtain rfl : i = 1 := by omega
    exact hripe.elim hquiet (hunlimited 1)
  obtain ⟨m, hrun, -, hsleeps, -, -, hreason⟩ := (run_stops 1 s .default hcalm).1 2 hleast
  rw [if_pos hkey] at hreason
  refine ⟨hcalm, hleast, m, ?_, ?_⟩
  · rw [hrun 2, if_neg (by decide), hreason]
  · exact hsleeps

end Screensaver
