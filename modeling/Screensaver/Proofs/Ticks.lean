import Mathlib.Data.Multiset.AddSub
import Screensaver.Proofs.Arrivals

/-! The chain of ticks.

A session goes on only because it asks for another tick whenever it has handled one. One request too
few and the session stands still, and no key can end it any more; one too many and it paints twice as
fast for ever.

An `Exchange` is a session together with the messages that are under way to it. A request for a tick
puts one tick under way; keys, changes of size and other messages are sent from outside at any time;
and whatever is under way may arrive next. `chain_of_ticks` says that in every history, as long as the
loop runs there is exactly one tick under way, and that the tick which stops the loop is the last one
and the only one on which the session asks to be ended. -/
namespace Screensaver

/-! ### What a session does with its loop -/

/-- Something a session does with its loop. -/
inductive Deed where
  | start
  | paint
  | poll
deriving DecidableEq

/-- The loop when this has been done; a poll is told whether the session was cancelled. -/
def Deed.perform (cancelled : Bool) (l : Loop Buffer) : Deed → Loop Buffer
  | .start => l.start
  | .paint => leftBehind (Loop.paint l)
  | .poll => (l.poll cancelled).2

namespace Session

/-- What the session does with its loop on a message. -/
def deeds (s : Session) : Message → List Deed
  | .tick => if (s.loop.poll s.cancelled).1 then [.poll, .paint] else [.poll]
  | _ => []

/-- The loop as the message itself has left it, before the session does anything. -/
def touched (s : Session) : Message → Loop Buffer
  | .key => { s.loop with terminal := s.buffer.pressKey }
  | .resize w h => { s.loop with terminal := s.buffer.resize w h }
  | _ => s.loop

/-- Starting a session is starting its loop and painting once. -/
theorem init_deeds (s : Session) :
    s.init.2.loop = [Deed.start, .paint].foldl (Deed.perform s.cancelled) s.loop :=
  rfl

theorem init_requests (s : Session) :
    s.init.1 = .tick s.init.2.loop.interval ::
      if s.init.2.buffer.title = "" then [] else [.retitle s.init.2.buffer.title] :=
  rfl

/-- Handling a message is doing these things with the loop and nothing else. -/
theorem update_deeds (s : Session) (m : Message) :
    (s.update m).2.loop = (s.deeds m).foldl (Deed.perform s.cancelled) (s.touched m) := by
  cases m with
  | tick =>
    simp only [update, deeds, touched]
    split <;> rename_i hpoll <;> simp [hpoll, Deed.perform, paint]
  | key => rfl
  | resize _ _ => rfl
  | other => rfl

/-- A session that has a reason to stop does not paint any more. -/
theorem deeds_signalled {s : Session} (h : s.buffer.keyPending = true ∨ s.cancelled = true)
    (m : Message) :
    (s.deeds m).count .paint = 0 ∧ (s.update m).2.loop.painted = s.loop.painted := by
  cases m with
  | key => exact ⟨rfl, rfl⟩
  | resize _ _ => exact ⟨rfl, rfl⟩
  | other => exact ⟨rfl, rfl⟩
  | tick =>
    have hanswer : (s.loop.poll s.cancelled).1 = false := by
      by_cases hs : s.loop.phase = .running
      · have hkey : Terminal.keyPending s.loop.terminal = (s.buffer.keyPending, s.loop.terminal) := rfl
        rw [Loop.poll_running hs hkey]
        cases hdue : s.loop.due s.buffer.keyPending s.cancelled with
        | some reason => rfl
        | none =>
          obtain ⟨hnokey, hnotcancelled, -⟩ := Loop.due_eq_none.mp hdue
          rw [hnokey, hnotcancelled] at h
          simp at h
      · rw [Loop.poll, if_neg hs]
    refine ⟨by simp [deeds, hanswer], ?_⟩
    rw [update_deeds]
    simp only [deeds, hanswer, touched, Bool.false_eq_true, if_false, List.foldl_cons, List.foldl_nil,
      Deed.perform]
    unfold Loop.poll
    split
    · dsimp only
      split
      · exact (Loop.stop_frame _ _).2.2
      · rfl
    · rfl

end Session

/-! ### Messages under way -/

/-- The message that a request puts under way, if any. -/
def Request.brings : Request → Option Message
  | .tick _ => some .tick
  | .retitle _ => none
  | .quit => none

/-- A session and what is under way to it, with a record of what it has asked for and of what it has
done with its loop, the latest last. -/
structure Exchange where
  session : Session
  underway : Multiset Message
  asked : List Request
  deeds : List Deed

/-- What happens to an exchange. -/
inductive Event where
  /-- A message is sent from outside. -/
  | send (m : Message)
  /-- A message that is under way arrives. -/
  | arrive (m : Message)
  | cancel
deriving DecidableEq

/-- What reaches the session by an event. -/
def Event.arrival? : Event → Option Arrival
  | .send _ => none
  | .arrive m => some (.message m)
  | .cancel => some .cancel

namespace Exchange

/-- The session has just been started. -/
def begin (s : Session) : Exchange where
  session := s.init.2
  underway := s.init.1.filterMap Request.brings
  asked := s.init.1
  deeds := [.start, .paint]

/-- A message reaches the session, and what the session then asks for is granted. -/
def deliver (x : Exchange) (m : Message) : Exchange where
  session := (x.session.update m).2
  underway := x.underway.erase m + (x.session.update m).1.toList.filterMap Request.brings
  asked := x.asked ++ (x.session.update m).1.toList
  deeds := x.deeds ++ x.session.deeds m

/-- What comes of an event. Nobody but the session can have ticks sent, and nothing arrives that is
not under way. -/
def step (x : Exchange) : Event → Option Exchange
  | .send m => if m = .tick then none else some { x with underway := m ::ₘ x.underway }
  | .arrive m => if m ∈ x.underway then some (x.deliver m) else none
  | .cancel => some { x with session := x.session.receive .cancel }

/-- What comes of a list of events. -/
def history (x : Exchange) (es : List Event) : Option Exchange :=
  es.foldlM step x

theorem history_append (x : Exchange) (es fs : List Event) :
    x.history (es ++ fs) = (x.history es).bind fun y => y.history fs :=
  List.foldlM_append

theorem history_concat (x : Exchange) (es : List Event) (e : Event) :
    x.history (es ++ [e]) = (x.history es).bind fun y => y.step e := by
  rw [history_append]
  congr 1
  funext y
  simp [history]

/-- All that an event can do. -/
theorem step_cases {x y : Exchange} {e : Event} (h : x.step e = some y) :
    (∃ m, e = .send m ∧ m ≠ .tick ∧ y = { x with underway := m ::ₘ x.underway }) ∨
      (∃ m, e = .arrive m ∧ m ∈ x.underway ∧ y = x.deliver m) ∨
      (e = .cancel ∧ y = { x with session := x.session.receive .cancel }) := by
  cases e with
  | send m =>
    rw [step] at h
    split at h
    · cases h
    · cases h
      exact .inl ⟨m, rfl, ‹_›, rfl⟩
  | arrive m =>
    rw [step] at h
    split at h
    · cases h
      exact .inr (.inl ⟨m, rfl, ‹_›, rfl⟩)
    · cases h
  | cancel =>
    cases h
    exact .inr (.inr ⟨rfl, rfl⟩)

/-- The loop as an event itself has left it, before the session does anything. -/
def touched (x : Exchange) : Event → Loop Buffer
  | .arrive m => x.session.touched m
  | _ => x.session.loop

/-- What the session does on an event is recorded, and the loop is what that makes of it. -/
theorem step_deeds {x y : Exchange} {e : Event} (h : x.step e = some y) :
    ∃ done, y.deeds = x.deeds ++ done ∧
      y.session.loop = done.foldl (Deed.perform x.session.cancelled) (x.touched e) := by
  obtain ⟨m, rfl, -, rfl⟩ | ⟨m, rfl, -, rfl⟩ | ⟨rfl, rfl⟩ := step_cases h
  · exact ⟨[], (List.append_nil _).symm, rfl⟩
  · exact ⟨x.session.deeds m, rfl, x.session.update_deeds m⟩
  · exact ⟨[], (List.append_nil _).symm, rfl⟩

/-- Of a history, the session sees what reaches it. -/
theorem history_session {s : Session} {es : List Event} {x : Exchange}
    (h : (begin s).history es = some x) : x.session = s.after (es.filterMap Event.arrival?) := by
  induction es using List.reverseRecOn generalizing x with
  | nil => cases h; rfl
  | append_singleton es e ih =>
    rw [history_concat] at h
    obtain ⟨y, hy, hstep⟩ := Option.bind_eq_some_iff.mp h
    have hbefore := ih hy
    rw [List.filterMap_append]
    obtain ⟨m, rfl, -, rfl⟩ | ⟨m, rfl, -, rfl⟩ | ⟨rfl, rfl⟩ := step_cases hstep
    · exact hbefore.trans (congrArg s.after (List.append_nil _).symm)
    · refine Eq.trans ?_ (s.after_concat _ (.message m)).symm
      rw [← hbefore]
      rfl
    · refine Eq.trans ?_ (s.after_concat _ .cancel).symm
      rw [← hbefore]

theorem mem_arrivals {es : List Event} {a : Arrival} {e : Event} (h : e.arrival? = some a) :
    a ∈ es.filterMap Event.arrival? ↔ e ∈ es := by
  rw [List.mem_filterMap]
  refine ⟨fun ⟨f, hf, hfa⟩ => ?_, fun he => ⟨e, he, h⟩⟩
  have hsame : f = e := by
    cases e <;> cases h <;> cases f <;> cases hfa <;> rfl
  exact hsame ▸ hf

/-- In every history the session is sound, and knows which keys have arrived and whether it was
cancelled. -/
theorem history_told {clock : Int64} {config : RunSettings} {w h : Int64} {es : List Event}
    {x : Exchange} (hx : (begin (.new clock config w h)).history es = some x) :
    x.session.Sound (Loop.effective clock config) ∧
      (x.session.buffer.keyPending = true ↔ .arrive .key ∈ es) ∧
      (x.session.cancelled = true ↔ .cancel ∈ es) := by
  obtain ⟨hsound, htold⟩ := Session.new_after clock config w h (es.filterMap Event.arrival?)
  rw [← history_session hx] at hsound htold
  exact ⟨hsound, htold.keyPending_iff.trans (mem_arrivals rfl), htold.cancelled.trans (mem_arrivals rfl)⟩

/-- A tick that finds the loop running either stops it and is the end, or is followed by a paint and
by the next tick. -/
theorem deliver_tick {x : Exchange} (h : x.session.loop.phase = .running) :
    (∃ reason, x.session.loop.due x.session.buffer.keyPending x.session.cancelled = some reason ∧
      x.deliver .tick =
        { session := { x.session with loop := x.session.loop.stop reason, quitting := true }
          underway := x.underway.erase .tick
          asked := x.asked ++ [.quit]
          deeds := x.deeds ++ [.poll] }) ∨
    (x.session.loop.due x.session.buffer.keyPending x.session.cancelled = none ∧
      x.deliver .tick =
        { session := x.session.paint
          underway := x.underway.erase .tick + {.tick}
          asked := x.asked ++ [.tick x.session.paint.loop.interval]
          deeds := x.deeds ++ [.poll, .paint] }) := by
  have hkey : Terminal.keyPending x.session.loop.terminal =
      (x.session.buffer.keyPending, x.session.loop.terminal) := rfl
  have hpoll := Loop.poll_running h hkey x.session.cancelled
  have hupdate := Session.tick_running h
  cases hdue : x.session.loop.due x.session.buffer.keyPending x.session.cancelled with
  | some reason =>
    rw [hdue] at hpoll hupdate
    refine .inl ⟨reason, rfl, ?_⟩
    simp only [deliver, Session.deeds, hpoll, hupdate, Option.toList_some, List.filterMap_cons,
      Request.brings, List.filterMap_nil, Multiset.coe_nil, Multiset.add_zero]
    rfl
  | none =>
    rw [hdue] at hpoll hupdate
    refine .inr ⟨rfl, ?_⟩
    simp only [deliver, Session.deeds, hpoll, hupdate]
    rfl

/-! ### The chain -/

/-- The tick that comes after these events stops the loop, and on it the session asks to be ended. -/
def StopsAfter (x₀ : Exchange) (before : List Event) : Prop :=
  ∃ y z, x₀.history before = some y ∧ y.step (.arrive .tick) = some z ∧
    y.session.loop.phase = .running ∧ z.session.loop.phase = .stopped ∧ z.asked = y.asked ++ [.quit]

/-- What the events since `x₀` have come to: the loop runs and one tick is under way, or a tick has
stopped the loop and none is. There was one paint at the start and one for each tick but the last. -/
inductive Chain (x₀ : Exchange) (es : List Event) (x : Exchange) : Prop where
  | goesOn : x.session.loop.phase = .running → x.underway.count .tick = 1 →
      x.asked.count .quit = 0 → x.deeds.count .paint = 1 + es.count (.arrive .tick) → Chain x₀ es x
  | ended {before rest : List Event} : es = before ++ .arrive .tick :: rest → x₀.StopsAfter before →
      x.session.loop.phase = .stopped → x.underway.count .tick = 0 → x.asked.count .quit = 1 →
      x.deeds.count .paint = es.count (.arrive .tick) → Chain x₀ es x

namespace Chain
variable {x₀ x y : Exchange} {es : List Event} {e : Event}

/-- Events that deliver no tick and leave what was asked for, what was done and the phase alone. -/
theorem quiet (h : Chain x₀ es x) (he : e ≠ .arrive .tick)
    (hphase : y.session.loop.phase = x.session.loop.phase)
    (hticks : y.underway.count .tick = x.underway.count .tick) (hasked : y.asked = x.asked)
    (hdeeds : y.deeds = x.deeds) : Chain x₀ (es ++ [e]) y := by
  have hcount : (es ++ [e]).count (.arrive .tick) = es.count (.arrive .tick) := by
    rw [List.count_append, List.count_singleton, beq_eq_false_iff_ne.mpr he]
    rfl
  cases h with
  | goesOn hrun htick hquit hpaint =>
    refine .goesOn (hphase.trans hrun) (hticks.trans htick) (hasked ▸ hquit) ?_
    rw [hdeeds, hcount, hpaint]
  | @ended before rest hsplit hstops hstopped htick hquit hpaint =>
    have hsplit' : es ++ [e] = before ++ .arrive .tick :: (rest ++ [e]) := by
      rw [hsplit]
      simp
    refine .ended hsplit' hstops (hphase.trans hstopped) (hticks.trans htick) (hasked ▸ hquit) ?_
    rw [hdeeds, hcount, hpaint]

theorem phases (h : Chain x₀ es x) :
    x.session.loop.phase = .running ∧ x.underway.count .tick = 1 ∧ x.asked.count .quit = 0 ∨
      x.session.loop.phase = .stopped ∧ x.underway.count .tick = 0 ∧ x.asked.count .quit = 1 ∧
        ∃ before rest, es = before ++ .arrive .tick :: rest ∧ x₀.StopsAfter before := by
  cases h with
  | goesOn hrun htick hquit _ => exact .inl ⟨hrun, htick, hquit⟩
  | ended hsplit hstops hstopped htick hquit _ =>
    exact .inr ⟨hstopped, htick, hquit, _, _, hsplit, hstops⟩

theorem paints (h : Chain x₀ es x) :
    x.deeds.count .paint + (if x.session.loop.phase = .stopped then 1 else 0) =
      1 + es.count (.arrive .tick) := by
  cases h with
  | goesOn hrun _ _ hpaint =>
    rw [if_neg (by rw [hrun]; decide), hpaint]
    rfl
  | ended _ _ hstopped _ _ hpaint => rw [if_pos hstopped, hpaint, Nat.add_comm]

/-- A tick can only be under way while the loop runs. -/
theorem running_of_tick (h : Chain x₀ es x) (htick : .tick ∈ x.underway) :
    x.session.loop.phase = .running ∧ x.underway.count .tick = 1 ∧ x.asked.count .quit = 0 ∧
      x.deeds.count .paint = 1 + es.count (.arrive .tick) := by
  cases h with
  | goesOn hrun hone hquit hpaint => exact ⟨hrun, hone, hquit, hpaint⟩
  | ended _ _ _ hnone _ _ => exact absurd (Multiset.count_pos.mpr htick) (by omega)

/-- The one tick under way arrives: it is the last, or it is replaced by the next. -/
theorem tick (h : Chain x₀ es x) (hx : x₀.history es = some x) (htick : .tick ∈ x.underway)
    (hp : x.session.loop.picker.Printable) : Chain x₀ (es ++ [.arrive .tick]) (x.deliver .tick) := by
  obtain ⟨hrun, hone, hquit, hpaint⟩ := h.running_of_tick htick
  have hcount : (es ++ [Event.arrive .tick]).count (.arrive .tick) = es.count (.arrive .tick) + 1 := by
    simp
  have hgone : (x.underway.erase .tick).count .tick = 0 := by
    rw [Multiset.count_erase_self, hone]
  obtain ⟨reason, -, hdeliver⟩ | ⟨-, hdeliver⟩ := deliver_tick hrun
  · have hstopped : (x.deliver .tick).session.loop.phase = .stopped := by
      rw [hdeliver]
      exact Loop.stop_phase reason _ hrun
    refine .ended rfl ⟨x, x.deliver .tick, hx, if_pos htick, hrun, hstopped, by rw [hdeliver]⟩ hstopped
      ?_ ?_ ?_
    · rw [hdeliver]
      exact hgone
    · simp [hdeliver, hquit]
    · simp [hdeliver, hpaint, Nat.add_comm]
  · refine .goesOn ?_ ?_ ?_ ?_
    · rw [hdeliver]
      exact (congrArg Loop.phase (Loop.paint_inked _ hp).frame).trans hrun
    · rw [hdeliver]
      show (x.underway.erase .tick + {.tick}).count .tick = 1
      rw [Multiset.count_add, hgone]
      rfl
    · simp [hdeliver, hquit]
    · rw [hdeliver, hcount]
      show (x.deeds ++ [Deed.poll, .paint]).count .paint = _
      rw [List.count_append, hpaint]
      rfl

/-- Every event continues the chain. -/
theorem step (h : Chain x₀ es x) (hx : x₀.history es = some x)
    (hp : x.session.loop.picker.Printable) (hy : x.step e = some y) : Chain x₀ (es ++ [e]) y := by
  obtain ⟨m, rfl, hm, rfl⟩ | ⟨m, rfl, hm, rfl⟩ | ⟨rfl, rfl⟩ := step_cases hy
  · exact h.quiet nofun rfl (Multiset.count_cons_of_ne hm.symm _) rfl rfl
  · by_cases htick : m = .tick
    · subst htick
      exact h.tick hx hm hp
    · have hupdate : (x.session.update m).1 = none ∧
          (x.session.update m).2.loop.phase = x.session.loop.phase ∧ x.session.deeds m = [] := by
        cases m with
        | tick => exact absurd rfl htick
        | key => exact ⟨rfl, rfl, rfl⟩
        | resize _ _ => exact ⟨rfl, rfl, rfl⟩
        | other => exact ⟨rfl, rfl, rfl⟩
      obtain ⟨hnone, hphase, hdeeds⟩ := hupdate
      refine h.quiet (by simpa using htick) hphase ?_ ?_ ?_
      · simp only [deliver, hnone]
        show (x.underway.erase m + ([] : List Message)).count .tick = x.underway.count .tick
        rw [Multiset.coe_nil, Multiset.add_zero, Multiset.count_erase_of_ne (Ne.symm htick)]
      · simp [deliver, hnone]
      · simp [deliver, hdeeds]
  · exact h.quiet nofun rfl rfl rfl rfl

end Chain

/-- However a session is started, one tick is under way. -/
theorem begin_underway (s : Session) : (begin s).underway = {.tick} := by
  show ((s.init.1.filterMap Request.brings : List Message) : Multiset Message) = {.tick}
  rw [Session.init_requests]
  split <;> rfl

theorem begin_chain (clock : Int64) (config : RunSettings) (w h : Int64) :
    Chain (begin (.new clock config w h)) [] (begin (.new clock config w h)) := by
  refine .goesOn (Session.new_init_running clock config w h) ?_ ?_ rfl
  · rw [begin_underway]
    rfl
  · show (Session.new clock config w h).init.1.count .quit = 0
    rw [Session.init_requests]
    split <;> rfl

/-- Every history is a chain. -/
theorem history_chain {clock : Int64} {config : RunSettings} {w h : Int64} {es : List Event}
    {x : Exchange} (hx : (begin (.new clock config w h)).history es = some x) :
    Chain (begin (.new clock config w h)) es x := by
  induction es using List.reverseRecOn generalizing x with
  | nil => cases hx; exact begin_chain clock config w h
  | append_singleton es e ih =>
    rw [history_concat] at hx
    obtain ⟨y, hy, hstep⟩ := Option.bind_eq_some_iff.mp hx
    exact (ih hy).step hy (history_told hy).1.printable hstep

/-! ### After a reason to stop -/

/-- Once a key has arrived or the session was cancelled, no event paints. -/
theorem history_paints {clock : Int64} {config : RunSettings} {w h : Int64} {before rest : List Event}
    {y x : Exchange} (hsignal : .arrive .key ∈ before ∨ .cancel ∈ before)
    (hy : (begin (.new clock config w h)).history before = some y)
    (hx : (begin (.new clock config w h)).history (before ++ rest) = some x) :
    x.deeds.count .paint = y.deeds.count .paint ∧
      x.session.loop.painted = y.session.loop.painted := by
  induction rest using List.reverseRecOn generalizing x with
  | nil =>
    rw [List.append_nil, hy] at hx
    cases hx
    exact ⟨rfl, rfl⟩
  | append_singleton rest e ih =>
    rw [← List.append_assoc, history_concat] at hx
    obtain ⟨z, hz, hstep⟩ := Option.bind_eq_some_iff.mp hx
    obtain ⟨hpaints, hpainted⟩ := ih hz
    obtain ⟨-, hkey, hcancelled⟩ := history_told hz
    have hknown : z.session.buffer.keyPending = true ∨ z.session.cancelled = true := by
      rw [hkey, hcancelled]
      exact hsignal.imp (List.mem_append_left rest) (List.mem_append_left rest)
    rw [← hpaints, ← hpainted]
    obtain ⟨m, rfl, -, rfl⟩ | ⟨m, rfl, -, rfl⟩ | ⟨rfl, rfl⟩ := step_cases hstep
    · exact ⟨rfl, rfl⟩
    · obtain ⟨hnone, hsame⟩ := Session.deeds_signalled hknown m
      refine ⟨?_, hsame⟩
      show (z.deeds ++ z.session.deeds m).count .paint = _
      rw [List.count_append, hnone, Nat.add_zero]
    · exact ⟨rfl, rfl⟩

/-- Once a key has arrived or the session was cancelled, the next tick stops the loop. -/
theorem history_stops {clock : Int64} {config : RunSettings} {w h : Int64} {before : List Event}
    {y z : Exchange} (hsignal : .arrive .key ∈ before ∨ .cancel ∈ before)
    (hy : (begin (.new clock config w h)).history before = some y)
    (hz : y.step (.arrive .tick) = some z) :
    z.session.loop.phase = .stopped ∧
      z.session.loop.reason = if .arrive .key ∈ before then .key else .cancelled := by
  obtain ⟨-, hkey, hcancelled⟩ := history_told hy
  have htick : .tick ∈ y.underway ∧ z = y.deliver .tick := by
    obtain ⟨_, hm, _, _⟩ | ⟨_, hm, hmem, hz⟩ | ⟨hm, _⟩ := step_cases hz <;> cases hm
    exact ⟨hmem, hz⟩
  obtain ⟨hmem, rfl⟩ := htick
  have hrun := ((history_chain hy).running_of_tick hmem).1
  obtain ⟨reason, hdue, hdeliver⟩ | ⟨hdue, -⟩ := deliver_tick hrun
  · rw [hdeliver]
    refine ⟨Loop.stop_phase reason _ hrun, (Loop.stop_reason reason _ hrun).trans ?_⟩
    by_cases hpressed : .arrive .key ∈ before
    · rw [if_pos hpressed]
      rw [hkey.mpr hpressed] at hdue
      exact (Option.some.inj hdue).symm
    · have hnokey : y.session.buffer.keyPending = false := by
        rw [← Bool.not_eq_true, hkey]
        exact hpressed
      rw [if_neg hpressed]
      rw [hnokey, hcancelled.mpr (hsignal.resolve_left hpressed)] at hdue
      exact (Option.some.inj hdue).symm
  · obtain ⟨hnokey, hnotcancelled, -⟩ := Loop.due_eq_none.mp hdue
    rw [← hkey, ← hcancelled, hnokey, hnotcancelled] at hsignal
    simp at hsignal

end Exchange

/-- **The chain of ticks neither breaks nor forks.** Of a session that has been started, in whatever
order messages are sent and arrive and whenever it is cancelled: as long as the loop runs, one tick is
under way and the session has not asked to be ended; once the loop has stopped, none is under way, and
the session has asked once to be ended, on the tick that stopped the loop. It has painted once at the
start and once on each tick but that one. After a key or cancellation it does not paint again, and the
next tick stops the loop, for the key if there is one. The number of glyphs asked for is never
exceeded. What is recorded of the session's dealings with its loop is all there is: the loop is what
they make of it, from the start on and event by event. -/
theorem chain_of_ticks (clock : Int64) (config : RunSettings) (w h : Int64) (es : List Event)
    (x : Exchange) (hx : (Exchange.begin (.new clock config w h)).history es = some x) :
    (x.session.loop.phase = .running ∧ x.underway.count .tick = 1 ∧ x.asked.count .quit = 0 ∨
      x.session.loop.phase = .stopped ∧ x.underway.count .tick = 0 ∧ x.asked.count .quit = 1 ∧
        ∃ before rest, es = before ++ .arrive .tick :: rest ∧
          (Exchange.begin (.new clock config w h)).StopsAfter before) ∧
    x.deeds.count .paint + (if x.session.loop.phase = .stopped then 1 else 0) =
      1 + es.count (.arrive .tick) ∧
    (∀ before rest, es = before ++ rest → .arrive .key ∈ before ∨ .cancel ∈ before →
      ∃ y, (Exchange.begin (.new clock config w h)).history before = some y ∧
        x.deeds.count .paint = y.deeds.count .paint ∧
        x.session.loop.painted = y.session.loop.painted) ∧
    (∀ before rest, es = before ++ .arrive .tick :: rest → .arrive .key ∈ before ∨ .cancel ∈ before →
      ∃ y z, (Exchange.begin (.new clock config w h)).history before = some y ∧
        y.step (.arrive .tick) = some z ∧ z.session.loop.phase = .stopped ∧
        z.session.loop.reason = if .arrive .key ∈ before then .key else .cancelled) ∧
    (0 < config.count → (x.session.loop.painted : Int) ≤ config.count.toInt) ∧
    (Exchange.begin (.new clock config w h)).session.loop =
      (Exchange.begin (.new clock config w h)).deeds.foldl (Deed.perform false)
        (.new clock (.new w h) config) ∧
    (∀ before e rest, es = before ++ e :: rest →
      ∃ y z done, (Exchange.begin (.new clock config w h)).history before = some y ∧
        y.step e = some z ∧ z.deeds = y.deeds ++ done ∧
        z.session.loop = done.foldl (Deed.perform y.session.cancelled) (y.touched e)) := by
  have hchain := Exchange.history_chain hx
  refine ⟨hchain.phases, hchain.paints, fun before rest hsplit hsignal => ?_,
    fun before rest hsplit hsignal => ?_, (Exchange.history_told hx).1.bounded, Session.init_deeds _,
    fun before e rest hsplit => ?_⟩
  · subst hsplit
    have hboth := hx
    rw [Exchange.history_append] at hboth
    obtain ⟨y, hy, -⟩ := Option.bind_eq_some_iff.mp hboth
    exact ⟨y, hy, Exchange.history_paints hsignal hy hx⟩
  · subst hsplit
    rw [Exchange.history_append] at hx
    obtain ⟨y, hy, hrest⟩ := Option.bind_eq_some_iff.mp hx
    obtain ⟨z, hz, -⟩ := Option.bind_eq_some_iff.mp hrest
    obtain ⟨hstopped, hreason⟩ := Exchange.history_stops hsignal hy hz
    exact ⟨y, z, hy, hz, hstopped, hreason⟩
  · subst hsplit
    rw [Exchange.history_append] at hx
    obtain ⟨y, hy, hrest⟩ := Option.bind_eq_some_iff.mp hx
    obtain ⟨z, hz, -⟩ := Option.bind_eq_some_iff.mp hrest
    obtain ⟨done, hdone, hloop⟩ := Exchange.step_deeds hz
    exact ⟨y, z, done, hy, hz, hdone, hloop⟩

/-- A key that is sent before the session is cancelled and arrives after that, and then the tick. -/
theorem chain_of_ticks_key :
    ∃ x, (Exchange.begin (.new 0 { RunSettings.default with seed := 1 } 5 3)).history
        [.send .key, .cancel, .arrive .key, .arrive .tick] = some x ∧
      x.session.loop.phase = .stopped ∧ x.session.loop.reason = .key ∧
      x.underway.count .tick = 0 ∧ x.asked.count .quit = 1 ∧ x.deeds.count .paint = 1 := by
  have hx : ∃ x, (Exchange.begin (.new 0 { RunSettings.default with seed := 1 } 5 3)).history
      [.send .key, .cancel, .arrive .key, .arrive .tick] = some x := by
    simp [Exchange.history, Exchange.step, Exchange.deliver, Exchange.begin_underway]
  obtain ⟨x, hx⟩ := hx
  obtain ⟨hphases, hpaints, -, hstops, -⟩ := chain_of_ticks 0 _ 5 3 _ x hx
  obtain ⟨y, z, hy, hz, hstopped, hreason⟩ :=
    hstops [.send .key, .cancel, .arrive .key] [] rfl (by simp)
  have hend : z = x := by
    have hlast := Exchange.history_concat (.begin (.new 0 { RunSettings.default with seed := 1 } 5 3))
      [.send .key, .cancel, .arrive .key] (.arrive .tick)
    rw [hy, Option.bind_some, hz] at hlast
    exact Option.some.inj (hlast.symm.trans hx)
  subst hend
  refine ⟨z, hx, hstopped, hreason.trans (if_pos (by simp)), ?_⟩
  rw [if_pos hstopped] at hpaints
  rcases hphases with ⟨hrun, -⟩ | ⟨-, htick, hquit, -⟩
  · rw [hrun] at hstopped
    cases hstopped
  · exact ⟨htick, hquit, Nat.add_right_cancel hpaints⟩

end Screensaver
