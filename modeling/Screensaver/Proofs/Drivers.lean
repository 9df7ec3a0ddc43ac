import Screensaver.Proofs.Coupling
import Screensaver.Session
import Screensaver.Stage

/-! A run and a session are the same.

A run takes turns of a paint, a pause and a poll; a session paints once when it is started, and then
each tick polls and, if the loop goes on, paints. So the two cut the same work at different points.
Incidents reach the one during its pauses and the other between its ticks.

`drivers_agree` says that with the same incidents in the same rounds nothing tells the two apart: each
poll of the one finds and leaves what the poll of the other does, and the session asks to be ended at
the tick after the very pause after which the run returns. The invariant is that the session after
`n` ticks mirrors the run's loop in its pause number `n + 1`, where both have painted. -/
namespace Screensaver

/-- What can reach both a run and a session. -/
inductive Incident where
  | key
  | resize (width height : Int64)
  | cancel

/-- An incident as something that happens on a stage. -/
def Incident.happening : Incident → Happening
  | .key => .key
  | .resize w h => .resize w h
  | .cancel => .cancel

/-- During pause number `n` the incidents of round `n` happen, and nothing else ever. -/
def Schedule.ofPauses (rounds : Nat → List Incident) : Schedule where
  during
    | .pause, n => (rounds n).map Incident.happening
    | _, _ => []

namespace Session

/-- An incident reaches the session. Only cancelling is not a message. -/
def meet (s : Session) : Incident → Session
  | .key => (s.update .key).2
  | .resize w h => (s.update (.resize w h)).2
  | .cancel => { s with cancelled := true }

variable (rounds : Nat → List Incident)

/-- The session when it has been started and has had `n` ticks, each after the incidents of its
round. -/
def ticked (s : Session) : Nat → Session
  | 0 => s.init.2
  | n + 1 => (((rounds (n + 1)).foldl meet (ticked s n)).update .tick).2

/-- The session that is about to get tick number `n + 1`. -/
def expecting (s : Session) (n : Nat) : Session :=
  (rounds (n + 1)).foldl meet (s.ticked rounds n)

/-- What poll number `n` of the session says and leaves, and nothing if the session has asked to be
ended before. Starting counts as a poll that goes on. -/
def polled (s : Session) : Nat → Option (Bool × Loop Buffer)
  | 0 => some (true, s.loop.start)
  | n + 1 =>
    if (s.ticked rounds n).quitting then none
    else some ((s.expecting rounds n).loop.poll (s.expecting rounds n).cancelled)

theorem ticked_succ (s : Session) (n : Nat) :
    s.ticked rounds (n + 1) = ((s.expecting rounds n).update .tick).2 := rfl

theorem meet_quitting (s : Session) (i : Incident) : (s.meet i).quitting = s.quitting := by
  cases i <;> rfl

theorem meetAll_quitting (is : List Incident) (s : Session) :
    (is.foldl meet s).quitting = s.quitting := by
  induction is generalizing s with
  | nil => rfl
  | cons i rest ih => exact (ih (s.meet i)).trans (meet_quitting s i)

theorem expecting_quitting (s : Session) (n : Nat) :
    (s.expecting rounds n).quitting = (s.ticked rounds n).quitting :=
  meetAll_quitting _ _

/-- A tick of a session whose poll goes on. -/
theorem tick_goes_on {s : Session} (h : (s.loop.poll s.cancelled).1 = true) :
    s.update .tick =
      (some (.tick (s.update .tick).2.loop.interval),
        { s with loop := (s.loop.poll s.cancelled).2 }.paint) := by
  simp only [update]
  split
  · rename_i loop hpoll
    rw [hpoll]
  · rename_i loop hpoll
    rw [hpoll] at h
    cases h

/-- A tick of a session whose poll stops the loop or finds it stopped. -/
theorem tick_quits {s : Session} (h : (s.loop.poll s.cancelled).1 = false) :
    s.update .tick =
      (some .quit, { s with loop := (s.loop.poll s.cancelled).2, quitting := true }) := by
  simp only [update]
  split
  · rename_i loop hpoll
    rw [hpoll] at h
    cases h
  · rename_i loop hpoll
    rw [hpoll]

theorem update_quitting {s : Session} (m : Message) (h : s.quitting = true) :
    (s.update m).2.quitting = true := by
  cases m with
  | tick =>
    cases hanswer : (s.loop.poll s.cancelled).1 with
    | true => rw [tick_goes_on hanswer]; exact h
    | false => rw [tick_quits hanswer]
  | key => exact h
  | resize _ _ => exact h
  | other => exact h

end Session

namespace Loop
variable {τ : Type} [Terminal τ] (around : Surroundings τ)

/-- What poll number `n` of a run says and leaves, and nothing if the run has ended before. Starting
counts as a poll that goes on. -/
def polled (l : Loop τ) : Nat → Option (Bool × Loop τ)
  | 0 => some (true, l.start)
  | n + 1 =>
    match polled l n with
    | some (true, m) =>
      match turn around m with
      | .ok b k => some (b, k)
      | .error _ _ => none
    | _ => none

/-- The run returns after pause number `n + 1`, and not earlier. -/
def Returns (l : Loop τ) (n : Nat) (reason : StopReason) (m : Loop τ) : Prop :=
  l.run around n = none ∧ l.run around (n + 1) = some (.ok reason m)

/-- The loop on the buffer of its stage. -/
def seen (l : Loop Stage) : Loop Buffer :=
  l.onto l.terminal.buffer

variable {around} {l m : Loop τ}

theorem polled_succ {n : Nat} {b : Bool} :
    l.polled around (n + 1) = some (b, m) ↔
      ∃ k, l.polled around n = some (true, k) ∧ turn around k = .ok b m := by
  rw [polled]
  constructor
  · intro h
    split at h
    · rename_i k hk
      split at h
      · rename_i hturn
        cases h
        exact ⟨k, hk, hturn⟩
      · cases h
    · cases h
  · rintro ⟨k, hk, hturn⟩
    rw [hk]
    simp only [hturn]

/-- After the turns whose polls went on, the other turns remain. -/
theorem turns_polled {n : Nat} (h : l.polled around n = some (true, m)) (i : Nat) :
    turns around (n + i) l.start = turns around i m := by
  induction n generalizing m i with
  | zero => cases h; rw [Nat.zero_add]
  | succ n ih =>
    obtain ⟨k, hk, hturn⟩ := polled_succ.mp h
    rw [Nat.add_right_comm, Nat.add_assoc, ih hk (i + 1), turns, hturn]

/-- A run that has ended keeps its answer if it may take more turns. -/
theorem turns_succ {n : Nat} {r : EStateM.Result Fault (Loop τ) StopReason}
    (h : turns around n l = some r) : turns around (n + 1) l = some r := by
  induction n generalizing l with
  | zero => cases h
  | succ n ih =>
    rw [turns] at h ⊢
    cases hturn : turn around l with
    | error e k => rw [hturn] at h; exact h
    | ok b k =>
      rw [hturn] at h
      cases b with
      | false => exact h
      | true => exact ih h

/-- A run of `n` turns has not ended exactly if all their polls went on. -/
theorem run_eq_none_iff {n : Nat} :
    l.run around n = none ↔ ∃ m, l.polled around n = some (true, m) := by
  rw [run, Option.map_eq_none_iff]
  constructor
  · intro h
    induction n with
    | zero => exact ⟨l.start, rfl⟩
    | succ n ih =>
      have hbefore : turns around n l.start = none := by
        cases hr : turns around n l.start with
        | none => rfl
        | some r => rw [turns_succ hr] at h; cases h
      obtain ⟨k, hk⟩ := ih hbefore
      rw [turns_polled hk 1, turns] at h
      cases hturn : turn around k with
      | error e m => rw [hturn] at h; cases h
      | ok b m =>
        rw [hturn] at h
        cases b with
        | false => cases h
        | true => exact ⟨m, polled_succ.mpr ⟨k, hk, hturn⟩⟩
  · rintro ⟨m, hm⟩
    exact turns_polled hm 0

/-- A poll that does not go on leaves a loop that does not run. -/
theorem poll_stops {cancelled : Bool} (h : (l.poll cancelled).1 = false) :
    (l.poll cancelled).2.phase ≠ .running := by
  by_cases hrun : l.phase = .running
  · simp only [poll, if_pos hrun] at h ⊢
    split at h
    · exact stop_ne_running _ _
    · cases h
  · simp only [poll, if_neg hrun]
    exact hrun

end Loop

namespace Stage

/-- The stage shows the buffer, all of it, and its incidents so far are those of `n` rounds. -/
structure Mirrors (rounds : Nat → List Incident) (n : Nat) (cancelled : Bool) (b : Buffer)
    (t : Stage) : Prop where
  buffer : t.buffer = b
  whole : t.window = none
  titled : t.titled = true
  schedule : t.schedule = .ofPauses rounds
  pauses : t.pauses = n
  cancelled : t.cancelled = cancelled

variable {rounds : Nat → List Incident} {n : Nat} {cancelled : Bool}

theorem Mirrors.loop_eq {l : Loop Buffer} {m : Loop Stage}
    (h : Loop.Coupled (Mirrors rounds n cancelled) l m) : l = m.seen := by
  rw [Loop.seen, h.terminals.buffer, h.alike]
  rfl

theorem Mirrors.write {b : Buffer} {t : Stage} (h : Mirrors rounds n cancelled b t) (g : Int32) :
    ∃ t', Stage.write g t = .ok () t' ∧ Mirrors rounds n cancelled (b.write g) t' := by
  have hnone : ∀ k, t.schedule.during .beforeWrite k = [] ∧ t.schedule.during .afterWrite k = [] := by
    rw [h.schedule]
    exact fun _ => ⟨rfl, rfl⟩
  refine ⟨{ t.record (.write g) with writes := t.writes + 1, buffer := t.buffer.write g }, ?_, ?_⟩
  · unfold Stage.write
    refine (bind_ok (modify_ok _ _)).trans ((bind_ok (get_ok _)).trans ?_)
    simp only [record, hnone, happenAll]
    rfl
  · exact ⟨by rw [h.buffer], h.whole, h.titled, h.schedule, h.pauses, h.cancelled⟩

/-- A loop cannot tell a stage without happenings in its writes from its buffer. -/
theorem mirrors_coupling : Terminal.Coupling (Mirrors rounds n cancelled) where
  foreground h := congrArg Buffer.fg h.buffer
  background h := congrArg Buffer.bg h.buffer
  viewport {b t} h := by
    show t.window.getD t.buffer.viewport = b.viewport
    rw [h.whole, h.buffer]
    rfl
  setForeground c h := ⟨congrArg (Terminal.setForeground c) h.buffer, h.whole, h.titled, h.schedule,
    h.pauses, h.cancelled⟩
  setBackground c h := ⟨congrArg (Terminal.setBackground c) h.buffer, h.whole, h.titled, h.schedule,
    h.pauses, h.cancelled⟩
  setCursor col row h := ⟨congrArg (Terminal.setCursor col row) h.buffer, h.whole, h.titled,
    h.schedule, h.pauses, h.cancelled⟩
  write {b t} g h := by
    obtain ⟨t', hwrite, hm⟩ := h.write g
    exact ⟨b.write g, t', rfl, hwrite, hm⟩
  clear h := ⟨congrArg Buffer.clear h.buffer, h.whole, h.titled, h.schedule, h.pauses, h.cancelled⟩
  keyPending h := ⟨congrArg Buffer.keyPending h.buffer, h⟩
  retitle {b t} text h := by
    show Mirrors rounds n cancelled _ (if t.titled then _ else _)
    rw [if_pos h.titled]
    exact ⟨congrArg (Terminal.retitle text) h.buffer, h.whole, h.titled, h.schedule, h.pauses,
      h.cancelled⟩

end Stage

/-! ### Rounds -/

/-- The session has the loop of a run that has met the incidents of `n` rounds. -/
def Session.Follows (rounds : Nat → List Incident) (n : Nat) (s : Session) (l : Loop Stage) : Prop :=
  Loop.Coupled (Stage.Mirrors rounds n s.cancelled) s.loop l

namespace Session.Follows
variable {rounds : Nat → List Incident} {n : Nat} {s : Session} {l : Loop Stage}

theorem meet (h : Follows rounds n s l) (i : Incident) :
    ∃ t, Stage.happen i.happening l.terminal = .ok () t ∧
      Follows rounds n (s.meet i) { l with terminal := t } := by
  have hl := h.alike
  obtain ⟨hbuffer, hwhole, htitled, hschedule, hpauses, hcancelled⟩ := h.terminals
  cases i with
  | key =>
    refine ⟨_, rfl, ⟨congrArg Buffer.pressKey hbuffer, hwhole, htitled, hschedule, hpauses,
      hcancelled⟩, ?_, h.printable⟩
    exact congrArg (Loop.onto _) hl
  | resize w h' =>
    refine ⟨_, rfl, ⟨congrArg (Buffer.resize · w h') hbuffer, hwhole, htitled, hschedule, hpauses,
      hcancelled⟩, ?_, h.printable⟩
    exact congrArg (Loop.onto _) hl
  | cancel =>
    refine ⟨_, rfl, ⟨hbuffer, hwhole, htitled, hschedule, hpauses, rfl⟩, ?_, h.printable⟩
    exact congrArg (Loop.onto _) hl

theorem meetAll (h : Follows rounds n s l) (is : List Incident) :
    ∃ t, Stage.happenAll (is.map Incident.happening) l.terminal = .ok () t ∧
      Follows rounds n (is.foldl Session.meet s) { l with terminal := t } := by
  induction is generalizing s l with
  | nil => exact ⟨l.terminal, rfl, h⟩
  | cons i rest ih =>
    obtain ⟨t, ht, hfirst⟩ := h.meet i
    obtain ⟨u, hu, hrest⟩ := ih hfirst
    exact ⟨u, (bind_ok ht).trans hu, hrest⟩

/-- A pause of the run is a round of the session. -/
theorem pause (h : Follows rounds n s l) :
    ∃ m, Loop.pause Stage.surroundings l = .ok () m ∧
      Follows rounds (n + 1) ((rounds (n + 1)).foldl Session.meet s) m := by
  let t : Stage := { l.terminal.record (.pause l.interval) with pauses := l.terminal.pauses + 1 }
  have hl := h.alike
  obtain ⟨hbuffer, hwhole, htitled, hschedule, hpauses, hcancelled⟩ := h.terminals
  have hbegin : Follows rounds (n + 1) s { l with terminal := t } :=
    ⟨⟨hbuffer, hwhole, htitled, hschedule, congrArg (· + 1) hpauses, hcancelled⟩,
      congrArg (Loop.onto t) hl, h.printable⟩
  obtain ⟨u, hu, hround⟩ := hbegin.meetAll (rounds (n + 1))
  have hnow : t.schedule.during .pause t.pauses = (rounds (n + 1)).map Incident.happening := by
    show l.terminal.schedule.during .pause (l.terminal.pauses + 1) = _
    rw [hschedule, hpauses]
    rfl
  have hpause : Stage.pause l.interval l.terminal = .ok () u := by
    refine (bind_ok (modify_ok _ _)).trans ((bind_ok (get_ok _)).trans ?_)
    exact (congrArg (Stage.happenAll · t) hnow).trans hu
  refine ⟨{ l with terminal := u }, ?_, hround⟩
  simp only [Loop.pause, Stage.surroundings, hpause]

/-- A turn of the run, of which the session has already made the paint, is a round of the session
with the poll of its tick. -/
theorem turn (h : Follows rounds n s l) {k : Loop Stage} {b : Bool}
    (hpaint : Loop.paint k = .ok b l) (s' : Session)
    (hs' : s' = (rounds (n + 1)).foldl Session.meet s) :
    ∃ m, Loop.turn Stage.surroundings k = .ok (s'.loop.poll s'.cancelled).1 m ∧
      Loop.Coupled (Stage.Mirrors rounds (n + 1) s'.cancelled) (s'.loop.poll s'.cancelled).2 m := by
  obtain ⟨m, hpause, hround⟩ := h.pause
  rw [← hs'] at hround
  obtain ⟨hanswer, hleft⟩ := Loop.Coupled.poll Stage.mirrors_coupling hround s'.cancelled
  refine ⟨(m.poll s'.cancelled).2, ?_, hleft⟩
  have hpoll : (modifyGet fun l => l.poll (Stage.surroundings.cancelled l.terminal) :
      EStateM Fault (Loop Stage) Bool) m =
      .ok (m.poll m.terminal.cancelled).1 (m.poll m.terminal.cancelled).2 := rfl
  rw [Loop.turn_eq, bind_ok hpaint, bind_ok hpause, hpoll, hround.terminals.cancelled, hanswer]

end Session.Follows

/-! ### All rounds -/

namespace Session
variable {rounds : Nat → List Incident} {s : Session} {l : Loop Stage}

/-- How a session stands to a run after `n` rounds: both go on, and the session has made the next
paint of the run, or both are over. -/
inductive Level (rounds : Nat → List Incident) (s : Session) (l : Loop Stage) (n : Nat) : Prop where
  | goesOn {m k : Loop Stage} {b : Bool} : l.polled Stage.surroundings n = some (true, m) →
      Loop.paint m = .ok b k → Follows rounds n (s.ticked rounds n) k →
      (s.ticked rounds n).quitting = false → Level rounds s l n
  | ended : (∀ m, l.polled Stage.surroundings n ≠ some (true, m)) →
      (s.ticked rounds n).quitting = true → Level rounds s l n

theorem Follows.paint {n : Nat} {m : Loop Stage} (h : Follows rounds n s m) :
    ∃ b k, Loop.paint m = .ok b k ∧ Follows rounds n s.paint k := by
  obtain ⟨b, l', k, hl, hm, hcoupled⟩ := Loop.Coupled.paint Stage.mirrors_coupling h
  refine ⟨b, k, hm, ?_⟩
  rw [Session.paint, hl]
  exact hcoupled

theorem level_zero (h : Follows rounds 0 s l) (hs : s.quitting = false) : Level rounds s l 0 := by
  have hstart : Follows rounds 0 { s with loop := s.loop.start } l.start :=
    Loop.Coupled.start Stage.mirrors_coupling h
  obtain ⟨b, k, hpaint, hfollows⟩ := hstart.paint
  exact .goesOn rfl hpaint hfollows hs

theorem level_succ {n : Nat} (h : Level rounds s l n) : Level rounds s l (n + 1) := by
  cases h with
  | ended hpolled hquitting =>
    refine .ended (fun m hm => ?_) ?_
    · obtain ⟨k, hk, -⟩ := Loop.polled_succ.mp hm
      exact hpolled k hk
    · rw [ticked_succ]
      exact update_quitting _ ((expecting_quitting _ _ _).trans hquitting)
  | @goesOn m k b hpolled hpaint hfollows hquitting =>
    obtain ⟨m', hturn, hcoupled⟩ := hfollows.turn hpaint (s.expecting rounds n) rfl
    rw [← expecting_quitting] at hquitting
    cases hanswer : ((s.expecting rounds n).loop.poll (s.expecting rounds n).cancelled).1 with
    | true =>
      rw [hanswer] at hturn
      have hnext : Follows rounds (n + 1) { s.expecting rounds n with
          loop := ((s.expecting rounds n).loop.poll (s.expecting rounds n).cancelled).2 } m' :=
        hcoupled
      obtain ⟨b', k', hpaint', hfollows'⟩ := hnext.paint
      refine .goesOn (Loop.polled_succ.mpr ⟨m, hpolled, hturn⟩) hpaint' ?_ ?_
      · rw [ticked_succ, tick_goes_on hanswer]
        exact hfollows'
      · rw [ticked_succ, tick_goes_on hanswer]
        exact hquitting
    | false =>
      refine .ended (fun j hj => ?_) ?_
      · obtain ⟨i, hi, hturn'⟩ := Loop.polled_succ.mp hj
        rw [hpolled] at hi
        cases hi
        rw [hturn, hanswer] at hturn'
        cases hturn'
      · rw [ticked_succ, tick_quits hanswer]

theorem level (h : Follows rounds 0 s l) (hs : s.quitting = false) (n : Nat) :
    Level rounds s l n := by
  induction n with
  | zero => exact level_zero h hs
  | succ n ih => exact level_succ ih

/-- The polls of a session and of a run agree. -/
theorem polled_eq (h : Follows rounds 0 s l) (hs : s.quitting = false) (n : Nat) :
    s.polled rounds n = (l.polled Stage.surroundings n).map (Prod.map id Loop.seen) := by
  cases n with
  | zero =>
    have hstart := Loop.Coupled.start Stage.mirrors_coupling h
    exact congrArg (fun k => some (true, k)) (Stage.Mirrors.loop_eq hstart)
  | succ n =>
    cases level h hs n with
    | ended hpolled hquitting =>
      have hnone : l.polled Stage.surroundings (n + 1) = none := by
        cases hm : l.polled Stage.surroundings (n + 1) with
        | none => rfl
        | some p =>
          obtain ⟨k, hk, -⟩ := Loop.polled_succ.mp hm
          exact absurd hk (hpolled k)
      rw [polled, if_pos hquitting, hnone]
      rfl
    | goesOn hpolled hpaint hfollows hquitting =>
      obtain ⟨m', hturn, hcoupled⟩ := hfollows.turn hpaint (s.expecting rounds n) rfl
      rw [polled, hquitting, Loop.polled_succ.mpr ⟨_, hpolled, hturn⟩]
      exact congrArg (fun k => some (_, k)) (Stage.Mirrors.loop_eq hcoupled)

/-- What tick number `n + 1` does, as long as the session has not asked to be ended: it asks for that
if the run returns after its pause number `n + 1`, and else for the next tick. -/
theorem tick_of_level {n : Nat} (h : Level rounds s l n)
    (hquitting : (s.ticked rounds n).quitting = false) :
    (∃ m, l.Returns Stage.surroundings n m.reason m ∧
        (s.expecting rounds n).update .tick = (some .quit, s.ticked rounds (n + 1)) ∧
        (s.ticked rounds (n + 1)).quitting = true ∧
        (s.ticked rounds (n + 1)).loop = m.seen) ∨
      (l.run Stage.surroundings (n + 1) = none ∧
        ((s.expecting rounds n).update .tick).1 ≠ some .quit ∧
        (s.ticked rounds (n + 1)).quitting = false) := by
  cases h with
  | ended _ hover => rw [hquitting] at hover; cases hover
  | @goesOn m k b hpolled hpaint hfollows _ =>
    obtain ⟨m', hturn, hcoupled⟩ := hfollows.turn hpaint (s.expecting rounds n) rfl
    have hrun : l.run Stage.surroundings n = none := Loop.run_eq_none_iff.mpr ⟨m, hpolled⟩
    cases hanswer : ((s.expecting rounds n).loop.poll (s.expecting rounds n).cancelled).1 with
    | true =>
      rw [hanswer] at hturn
      refine .inr ⟨Loop.run_eq_none_iff.mpr ⟨m', Loop.polled_succ.mpr ⟨m, hpolled, hturn⟩⟩, ?_, ?_⟩
      · rw [tick_goes_on hanswer]
        exact nofun
      · rw [ticked_succ, tick_goes_on hanswer]
        exact (expecting_quitting rounds s n).trans hquitting
    | false =>
      have hphase : m'.phase ≠ .running := hcoupled.phase ▸ Loop.poll_stops hanswer
      rw [hanswer] at hturn
      refine .inl ⟨m', ⟨hrun, ?_⟩, ?_, ?_, ?_⟩
      · rw [Loop.run, Loop.turns_polled hpolled 1, Loop.turns, hturn]
        show some (Loop.settle (.ok m'.reason m')) = _
        rw [Loop.settle, Loop.stop_not_running _ m' hphase]
      · rw [ticked_succ, tick_quits hanswer]
      · rw [ticked_succ, tick_quits hanswer]
      · rw [ticked_succ, tick_quits hanswer]
        exact Stage.Mirrors.loop_eq hcoupled

theorem Level.not_returns {n : Nat} (h : Level rounds s l n)
    (hquitting : (s.ticked rounds n).quitting = true) {reason : StopReason} {m : Loop Stage} :
    ¬l.Returns Stage.surroundings n reason m := by
  intro hreturns
  cases h with
  | goesOn _ _ _ hgoes => rw [hgoes] at hquitting; cases hquitting
  | ended hpolled _ =>
    obtain ⟨k, hk⟩ := Loop.run_eq_none_iff.mp hreturns.1
    exact hpolled k hk

/-- Unless the seed is the clock's, a new session has the loop of a new run. -/
theorem follows_new (clock clock' : Int64) (config : RunSettings) (hseed : config.seed ≠ 0)
    (w h : Int64) :
    Follows rounds 0 (.new clock config w h)
      (.new clock' { Stage.ofBuffer (.new w h) with schedule := .ofPauses rounds } config) := by
  have hconfig : Loop.effective clock' config = Loop.effective clock config := by
    simp only [Loop.effective, if_neg hseed]
  refine ⟨⟨rfl, rfl, rfl, rfl, rfl, rfl⟩, ?_, .of_range rfl⟩
  rw [Loop.new, hconfig]
  rfl

end Session

/-- **A run and a session agree in every round.** The same incidents, whatever they are, reach the
run during its pause number `n` and the session before its tick number `n`. Then poll number `n` of
the one says what that of the other says and leaves the same loop: the same phase, reason, count,
colours and interval, and the same buffer. While the polls go on, the session shows after `n` ticks
what the run shows in its next pause. And the tick at which the session asks to be ended is the one
after whose pause the run returns; it returns what the session is left with. -/
theorem drivers_agree (clock clock' : Int64) (config : RunSettings) (hseed : config.seed ≠ 0)
    (w h : Int64) (rounds : Nat → List Incident) (n : Nat) :
    let s := Session.new clock config w h
    let l := Loop.new clock' { Stage.ofBuffer (.new w h) with schedule := .ofPauses rounds } config
    s.polled rounds n = (l.polled Stage.surroundings n).map (Prod.map id Loop.seen) ∧
    (∀ m, l.polled Stage.surroundings n = some (true, m) →
      ∃ b k, Loop.paint m = .ok b k ∧ (s.ticked rounds n).loop = k.seen) ∧
    ((s.ticked rounds n).quitting = false ∧
        ((s.expecting rounds n).update .tick).1 = some .quit ↔
      ∃ reason m, l.Returns Stage.surroundings n reason m) ∧
    ((s.ticked rounds n).quitting = false ∧ (s.ticked rounds (n + 1)).quitting = true ↔
      ∃ reason m, l.Returns Stage.surroundings n reason m) ∧
    (∀ reason m, l.Returns Stage.surroundings n reason m →
      reason = m.reason ∧ (s.ticked rounds (n + 1)).loop = m.seen) := by
  intro s l
  have hnew : Session.Follows rounds 0 s l := Session.follows_new clock clock' config hseed w h
  have hlevel : Session.Level rounds s l n := Session.level hnew rfl n
  refine ⟨Session.polled_eq hnew rfl n, fun m hm => ?_, ?_⟩
  · cases hlevel with
    | ended hpolled _ => exact absurd hm (hpolled m)
    | goesOn hpolled hpaint hfollows _ =>
      rw [hpolled] at hm
      cases hm
      exact ⟨_, _, hpaint, Stage.Mirrors.loop_eq hfollows⟩
  · cases hquitting : (s.ticked rounds n).quitting with
    | true =>
      have hnever : ∀ reason m, ¬l.Returns Stage.surroundings n reason m :=
        fun reason m hreturns => hlevel.not_returns hquitting hreturns
      simp [hnever]
    | false =>
      rcases Session.tick_of_level hlevel hquitting with
        ⟨m, hreturns, htick, hquits, hloop⟩ | ⟨hrun, htick, hstays⟩
      · rw [htick, hquits]
        refine ⟨?_, ?_, fun reason k hk => ?_⟩
        · exact ⟨fun _ => ⟨_, m, hreturns⟩, fun _ => ⟨rfl, rfl⟩⟩
        · exact ⟨fun _ => ⟨_, m, hreturns⟩, fun _ => ⟨rfl, rfl⟩⟩
        · have hsame := hreturns.2.symm.trans hk.2
          cases hsame
          exact ⟨rfl, hloop⟩
      · have hnever : ∀ reason m, ¬l.Returns Stage.surroundings n reason m := by
          intro reason m hreturns
          rw [hreturns.2] at hrun
          cases hrun
        simp [hnever, htick, hstays]

/-- On a screen without cells that grows to five columns and three rows, and on which a key is pressed,
both in the first round, the session ends at its first tick and the run after its first pause. -/
theorem drivers_agree_key :
    let rounds : Nat → List Incident := fun n => if n = 1 then [.resize 5 3, .key] else []
    let config := { RunSettings.default with seed := 1 }
    let s := Session.new 7 config 0 0
    let l := Loop.new 8 { Stage.ofBuffer (.new 0 0) with schedule := .ofPauses rounds } config
    ((s.expecting rounds 0).update .tick).1 = some .quit ∧
      ∃ m, l.Returns Stage.surroundings 0 m.reason m ∧ (s.ticked rounds 1).loop = m.seen := by
  intro rounds config s l
  obtain ⟨fg, bg, p, hc, -, -⟩ := Picker.colors_ok s.loop.start.picker
  have hpaint := Loop.paint_empty s.loop.start rfl rfl hc
  have hinit : s.ticked rounds 0 = { s with loop := { s.loop.start with picker := p } } := by
    show Session.paint { s with loop := s.loop.start } = _
    rw [Session.paint, hpaint]
    rfl
  have hquit : ((s.expecting rounds 0).update .tick).1 = some .quit := by
    rw [Session.expecting, hinit]
    rfl
  have hgoes : (s.ticked rounds 0).quitting = false := by
    rw [hinit]
    rfl
  obtain ⟨-, -, hends, -, hleft⟩ := drivers_agree 7 8 config (by decide) 0 0 rounds 0
  obtain ⟨reason, m, hreturns⟩ := hends.mp ⟨hgoes, hquit⟩
  obtain ⟨rfl, hloop⟩ := hleft reason m hreturns
  exact ⟨hquit, m, hreturns, hloop⟩

end Screensaver
