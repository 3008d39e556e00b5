import Chip8.Proofs.Machine.News
import Chip8.Proofs.Session.Run
import Chip8.Proofs.Session.Serial

/-!
# The stages of a session without a run

As long as nobody runs the machine, the loop with its updates, its channel and its flag does one
thing after the other, as `Serial` has it. This file follows the loop from action to action and
keeps the two together (`Quiescent.moves`). What makes that possible is that a step which succeeds
announces itself: its updates may be dropped, but not if the channel is empty, and it is empty
whenever the loop polls. So the flag is up before the next poll exactly if a render is due.

Every action of the loop also brings the end nearer (`World.left`).
-/

set_option autoImplicit false

namespace Chip8

/-- What polls come to in a session without a run, whose input does not break down. -/
def Poll.isPlain : Poll → Bool
  | .nothing | .unbound _ => true
  | .command .run => false
  | .command _ => true
  | _ => false

namespace Frontend

variable {f f' : Frontend} {u : Update}

theorem waiting_of_receive (h : f.receive = some (u, f')) : f.waiting = u :: f'.waiting := by
  unfold receive at h
  split at h
  · cases h
  · next c hc =>
    split at h
    · cases h
    · next w rest hw =>
      cases h
      simp only [waiting, hc, hw]

theorem waiting_of_receive_none (h : f.receive = none) : f.waiting = [] := by
  unfold receive at h
  split at h
  · next hc => simp only [waiting, hc]
  · next c hc =>
    split at h
    · next hw => simp only [waiting, hc, hw]
    · cases h

theorem length_waiting_send_le (f : Frontend) (u : Update) :
    (f.send u).waiting.length ≤ f.waiting.length + 1 := by
  unfold send
  cases hc : f.channel with
  | none => simp only; omega
  | some c =>
    simp only [waiting, hc, Channel.waiting_offer]
    split
    · simp
    · omega

end Frontend

/-- The second action of a step does what the step does, but for telling. -/
theorem Machine.Alike.advance_stepHolding {m m' : Machine} (h : m.Alike m'.takeKeys.2) (now : Nat)
    (random : UInt8) :
    (m.advance now random (.stepHolding m'.queue)).1.Alike (m'.stepOnce now random).1
      ∧ (m.advance now random (.stepHolding m'.queue)).2
        = .sending (m'.keyNews now ++ Update.ofStep ((m'.refreshed now).1.outcome random))
            (((m'.refreshed now).1.outcome random).map fun _ => ()) := by
  obtain ⟨applied, changed⟩ := h.refreshKeys now m'.queue
  obtain ⟨executed, came⟩ := applied.execute random
  refine ⟨executed.trans (m'.stepped_alike now random).symm, ?_⟩
  show Progress.sending ((if (m.refreshKeys now m'.queue).2 then [.keys] else [])
      ++ Update.ofStep ((m.refreshKeys now m'.queue).1.outcome random))
    (((m.refreshKeys now m'.queue).1.outcome random).map fun _ => ()) = _
  rw [changed, came]
  rfl

namespace World

/-- The deed that a turn does. A step is done when its instruction is executed, and everything else
when it is polled. -/
def does (w : World) (t : Turn) : Option Deed :=
  match t.who, w.session.point with
  | .session, .polling =>
    match w.session.next with
    | .command .step => none
    | p => some ⟨p, t.now, t.random⟩
  | .session, .calling (.stepHolding _) _ => some ⟨.command .step, t.now, t.random⟩
  | _, _ => none

end World

/-! ## Where the loop can be -/

/-- Nothing runs, somebody listens, and nothing breaks down. -/
structure Quiescent (w : World) : Prop where
  fresh : w.machine.Fresh
  listening : w.machine.frontend.Listening
  works : w.session.screen.fails = none
  plain : ∀ p ∈ w.session.input, p.isPlain = true
  quits : w.session.afterInput = .command .quit

/-- Machine and screen are what they are in `s`. -/
structure Same (s : Serial) (w : World) : Prop where
  machine : w.machine.Alike s.machine
  screen : w.session.screen = s.screen

/-- Where there are no marks, the state is known in full. -/
theorem Same.state_of_unmarked {s : Serial} {w : World} {m : Machine} (h : Same s w)
    (unmarked : s.Unmarked) (bare : s.machine.Resembles m) : w.machine.state = m.state.seen := by
  have same : w.machine.state = s.machine.state := congrArg Interpreter.state h.machine.interpreter
  rw [same, ← unmarked]
  exact bare.state

/-- What `s` has come to, while the loop tells of a step that came to `result`. -/
def Came (s : Serial) (waiting pending : List Update) : Except StackFault Unit → Prop
  | .ok () => s.result = none ∧ s.due = true ∧ (pending ≠ [] ∨ waiting ≠ [])
  | .error fault => s.result = some (.error (.stack fault))

/-- Where the loop can be when the deeds have come to `s`. It polls what has settled, and a step that
is under way is none of the deeds yet. -/
inductive Stage (s : Serial) (w : World) : Prop
  | receiving (point : w.session.point = .receiving none) (same : Same s w) (going : s.result = none)
      (due : s.due = true ↔ w.session.dirty = true ∨ w.machine.frontend.waiting ≠ [])
  | checking (point : w.session.point = .checking none) (same : Same s w) (going : s.result = none)
      (read : w.machine.frontend.waiting = []) (due : s.due = w.session.dirty)
  | rendering (point : w.session.point = .rendering) (same : Same s w) (going : s.result = none)
      (read : w.machine.frontend.waiting = []) (due : s.due = true)
  | polling (point : w.session.point = .polling) (same : Same s.settled w) (going : s.result = none)
      (read : w.machine.frontend.waiting = []) (clean : w.session.dirty = false)
  | stepping (point : w.session.point = .calling .step .command) (same : Same s.settled w)
      (going : s.result = none) (read : w.machine.frontend.waiting = [])
      (clean : w.session.dirty = false)
  | holding {events : List KeyEvent} (point : w.session.point = .calling (.stepHolding events) .command)
      (machine : w.machine.Alike s.settled.machine.takeKeys.2)
      (taken : events = s.settled.machine.queue) (screen : w.session.screen = s.settled.screen)
      (going : s.result = none) (read : w.machine.frontend.waiting = [])
      (clean : w.session.dirty = false)
  | telling {pending : List Update} {result : Except StackFault Unit}
      (point : w.session.point = .calling (.sending pending result) .command) (same : Same s w)
      (came : Came s w.machine.frontend.waiting pending result)
      (untold : ∀ u ∈ pending, u.isFault = false) (clean : w.session.dirty = false)
  | told {result : Except StackFault Unit}
      (point : w.session.point = .calling (.returned result) .command) (same : Same s w)
      (came : Came s w.machine.frontend.waiting [] result) (clean : w.session.dirty = false)
  | stopping {call : Progress} (point : w.session.point = .calling call .commandThenRender)
      (place : call = .stop ∨ call = .returned (.ok ())) (same : Same s w) (going : s.result = none)
      (due : s.due = true)
  | quitting {call : Progress} (point : w.session.point = .calling call .quit)
      (place : call = .stop ∨ call = .returned (.ok ())) (same : Same s w)
      (quit : s.result = some (.ok ()))
  | ended {result : Except Error Unit} (point : w.session.point = .ended result) (same : Same s w)
      (result : s.result = some result)

namespace Stage

variable {s : Serial} {w : World}

theorem of_polling (stage : Stage s w) (point : w.session.point = .polling) :
    Same s.settled w ∧ s.result = none := by
  cases stage with
  | polling _ same going => exact ⟨same, going⟩
  | receiving h | checking h | rendering h | stepping h | holding h | telling h | told h
  | stopping h | quitting h | ended h => rw [point] at h; cases h

theorem of_ended {result : Except Error Unit} (stage : Stage s w)
    (point : w.session.point = .ended result) : Same s w ∧ s.result = some result := by
  cases stage with
  | ended h same hr => rw [point] at h; cases h; exact ⟨same, hr⟩
  | receiving h | checking h | rendering h | polling h | stepping h | holding h | telling h
  | told h | stopping h | quitting h => rw [point] at h; cases h

end Stage

/-- The poll that has been used and is none of the deeds yet. -/
def Point.underWay : Point → List Poll
  | .calling .step _ | .calling (.stepHolding _) _ => [.command .step]
  | _ => []

namespace World

/-- A bound for the actions that the loop still takes. Between two polls it takes less than twenty. -/
def left (w : World) : Nat :=
  let rest := 20 * w.session.input.length
  let waiting := w.machine.frontend.waiting.length
  match w.session.point with
  | .polling => rest + 4
  | .rendering => rest + 5
  | .checking _ => rest + 6
  | .receiving _ => rest + waiting + 7
  | .calling (.returned _) .quit => 1
  | .calling _ .quit => 2
  | .calling (.returned _) _ => rest + waiting + 8
  | .calling (.sending pending _) _ => rest + waiting + 2 * pending.length + 9
  | .calling (.stepHolding _) _ => rest + waiting + 16
  | .calling .step _ => rest + waiting + 17
  | .calling _ _ => rest + waiting + 9
  | _ => 0

end World

/-- What an action of the loop does that is taken while the deeds have come to `s`, and that does
`d`, if anything. -/
structure Moves (s : Serial) (w w' : World) (d : Option Deed) : Prop where
  quiescent : Quiescent w'
  stage : Stage (s.performAll d.toList) w'
  going : d ≠ none → s.result = none
  used : (d.map Deed.poll).toList ++ (w'.session.point.underWay ++ w'.session.input)
      = w.session.point.underWay ++ w.session.input
    ∨ (w.session.input = [] ∧ w.session.point.underWay = [] ∧ d.map Deed.poll = some (.command .quit)
      ∧ w'.session.point.underWay = [] ∧ w'.session.input = [])
  nearer : w'.left < w.left

namespace Moves

variable {s : Serial} {w w' : World}

/-- An action that is no deed. -/
theorem silent (quiescent : Quiescent w') (stage : Stage s w')
    (used : w'.session.point.underWay ++ w'.session.input
      = w.session.point.underWay ++ w.session.input) (nearer : w'.left < w.left) :
    Moves s w w' none :=
  ⟨quiescent, stage, nofun, .inl used, nearer⟩

/-- A deed that the input asked for. -/
theorem doing {d : Deed} (quiescent : Quiescent w') (stage : Stage (s.perform d) w')
    (going : s.result = none)
    (used : d.poll :: (w'.session.point.underWay ++ w'.session.input)
      = w.session.point.underWay ++ w.session.input) (nearer : w'.left < w.left) :
    Moves s w w' (some d) :=
  ⟨quiescent, stage, fun _ => going, .inl used, nearer⟩

end Moves

/-! ## From action to action -/

namespace Quiescent

variable {s : Serial} {w : World}

/-- The loop goes on to another point, and that is all. -/
theorem goes (h : Quiescent w) {now : Nat} {random : UInt8} {p : Point}
    (acts : w.actSession now random = w.withPoint p) (stage : Stage s (w.withPoint p))
    (used : p.underWay = w.session.point.underWay) (nearer : (w.withPoint p).left < w.left) :
    Moves s w (w.actSession now random) none := by
  rw [acts]
  refine .silent ⟨h.fresh, h.listening, h.works, h.plain, h.quits⟩ stage ?_ nearer
  exact congrArg (· ++ w.session.input) used

theorem receives (h : Quiescent w) (now : Nat) (random : UInt8)
    (point : w.session.point = .receiving none) (same : Same s w) (going : s.result = none)
    (due : s.due = true ↔ w.session.dirty = true ∨ w.machine.frontend.waiting ≠ []) :
    Moves s w (w.actSession now random) none := by
  cases hr : w.machine.frontend.receive with
  | none =>
    have read := Frontend.waiting_of_receive_none hr
    -- nothing waits any more, so a picture is due exactly if the flag says so
    have flag : s.due = w.session.dirty := by
      rw [read] at due
      cases hd : s.due <;> cases hw : w.session.dirty <;> simp_all
    refine h.goes (by simp only [World.actSession, point, hr])
      (.checking rfl ⟨same.machine, same.screen⟩ going read flag) (by rw [point]; rfl) ?_
    simp only [World.left, World.withPoint, point]
    omega
  | some received =>
    obtain ⟨u, f⟩ := received
    have waited := Frontend.waiting_of_receive hr
    -- what was told of has not been rendered yet, and the flag takes the place of the update
    have isDue : s.due = true := due.mpr (.inr (by simp [waited]))
    have untold : u.isFault = false := h.fresh.untold u (Frontend.mem_waiting_receive hr).1
    have acts : w.actSession now random
        = ⟨{ w.machine with frontend := f }, { w.session with dirty := true }⟩ := by
      -- only the update of a fault turns the loop elsewhere, and there has been no fault
      cases u with
      | fault message => cases untold
      | display | registers | keys => simp only [World.actSession, point, hr]
    rw [acts]
    refine .silent ⟨⟨h.fresh.stopped, ?_⟩, h.listening.receive hr, h.works, h.plain, h.quits⟩
      (.receiving point ⟨⟨same.machine.interpreter, same.machine.queue, same.machine.config⟩,
        same.screen⟩ going (iff_of_true isDue (.inl rfl))) rfl ?_
    · exact fun v hv => h.fresh.untold v ((Frontend.mem_waiting_receive hr).2 v hv)
    · simp [World.left, point, waited]

theorem checks (h : Quiescent w) (now : Nat) (random : UInt8)
    (point : w.session.point = .checking none) (same : Same s w) (going : s.result = none)
    (read : w.machine.frontend.waiting = []) (due : s.due = w.session.dirty) :
    Moves s w (w.actSession now random) none := by
  have unhalted : w.machine.hasHalted = false := by simp [Machine.hasHalted, h.fresh.stopped]
  cases hd : w.session.dirty with
  | true =>
    exact h.goes (by simp [World.actSession, point, unhalted, hd])
      (.rendering rfl ⟨same.machine, same.screen⟩ going read (due.trans hd)) (by rw [point]; rfl)
      (by simp [World.left, World.withPoint, point])
  | false =>
    -- nothing is due, so the deeds so far and the deeds with a picture after them are the same
    have rests : s.settled = s := by simp [Serial.settled, due, hd]
    have settled : Same s.settled w := by rw [rests]; exact same
    exact h.goes (by simp [World.actSession, point, unhalted, hd])
      (.polling rfl ⟨settled.machine, settled.screen⟩ going read hd) (by rw [point]; rfl)
      (by simp [World.left, World.withPoint, point])

theorem renders (h : Quiescent w) (now : Nat) (random : UInt8)
    (point : w.session.point = .rendering) (same : Same s w) (going : s.result = none)
    (read : w.machine.frontend.waiting = []) (due : s.due = true) :
    Moves s w (w.actSession now random) none := by
  have works : (w.session.screen.render w.machine.snapshot.1).2 = .ok () := by
    simp [Screen.render, Screen.outcome, h.works]
  have acts : w.actSession now random
      = ⟨w.machine.snapshot.2,
          { w.session with screen := (w.session.screen.render w.machine.snapshot.1).1,
                           point := .polling, dirty := false }⟩ := by
    simp [World.actSession, point, World.render, works]
  have settles : s.settled
      = { s with machine := s.machine.snapshot.2,
                 screen := (s.screen.render s.machine.snapshot.1).1, due := false } := if_pos due
  obtain ⟨machine, view⟩ := same.machine.snapshot
  rw [acts]
  refine .silent ⟨⟨h.fresh.stopped, h.fresh.untold⟩, h.listening, h.works, h.plain, h.quits⟩
    (.polling rfl ?_ going read rfl) ?_ ?_
  · rw [settles]
    refine ⟨machine, ?_⟩
    rw [view, same.screen]
  · simp [point, Point.underWay]
  · simp [World.left, point]

/-- A poll that is a deed leaves the rest of the input. -/
theorem polled (h : Quiescent w) {now : Nat} {random : UInt8} (point : w.session.point = .polling)
    (going : s.result = none) {p : Poll} {rest : List Poll} (hinput : w.session.input = p :: rest)
    {m : Machine} {session : Session} (hactivities : m.activities = w.machine.activities)
    (hfrontend : m.frontend = w.machine.frontend) (hrest : session.input = rest)
    (hafter : session.afterInput = w.session.afterInput)
    (hfails : session.screen.fails = w.session.screen.fails)
    (idle : session.point.underWay = [])
    (near : (World.mk m session).left ≤ 20 * rest.length + 20)
    (stage : Stage (s.perform ⟨p, now, random⟩) ⟨m, session⟩) :
    Moves s w ⟨m, session⟩ (some ⟨p, now, random⟩) := by
  refine .doing ⟨⟨hactivities.trans h.fresh.stopped, ?_⟩, ?_, hfails.trans h.works, ?_,
    hafter.trans h.quits⟩ stage going ?_ ?_
  · rw [hfrontend]
    exact h.fresh.untold
  · rw [hfrontend]
    exact h.listening
  · rw [hrest]
    exact fun q hq => h.plain q (by simp [hinput, hq])
  · show p :: (session.point.underWay ++ session.input) = _
    rw [idle, hrest, point, hinput]
    rfl
  · simp only [World.left, point, hinput, List.length_cons] at near ⊢
    omega

theorem polls (h : Quiescent w) (now : Nat) (random : UInt8)
    (point : w.session.point = .polling) (same : Same s.settled w) (going : s.result = none)
    (read : w.machine.frontend.waiting = []) (clean : w.session.dirty = false) {p : Poll}
    {rest : List Poll} (hinput : w.session.input = p :: rest) :
    Moves s w (w.actSession now random) (w.does ⟨now, random, .session⟩) := by
  have next : w.session.next = p := by rw [Session.next, hinput]; rfl
  have settledGoing : s.settled.result = none := s.settled_result.trans going
  have settledDue := s.settled_due
  -- what the user does takes effect on what has been shown, so the stage reached is one of
  -- `s.settled`
  have plain := h.plain p (by simp [hinput])
  have acts : w.actSession now random = w.poll := by simp only [World.actSession, point]
  rw [acts]
  simp only [World.poll, World.does, point, next, Session.take, hinput]
  cases p with
  -- the machine is left alone: the loop comes round again with nothing new to show
  | nothing =>
    refine h.polled point going hinput rfl rfl rfl rfl rfl rfl ?_
      (.receiving rfl ⟨same.machine, same.screen⟩ settledGoing ?_)
    · simp [World.left, Session.turn, read]
    · simp [Serial.perform, Serial.deed, settledDue, Session.turn, clean, read]
  | unbound key =>
    refine h.polled point going hinput rfl rfl rfl rfl rfl rfl ?_
      (.receiving rfl ⟨?_, same.screen⟩ settledGoing ?_)
    · simp [World.left, Session.turn, Machine.log, read]
    · exact (Machine.Alike.log _ _).trans same.machine
    · simp [Serial.perform, Serial.deed, settledDue, Session.turn, clean, Machine.log, read]
  | command c =>
    have logged := (Machine.Alike.log w.machine [.command c]).trans same.machine
    -- a command is logged first; what the machine does with it does not depend on the log
    cases c with
    | key k =>
      refine h.polled point going hinput rfl rfl rfl rfl rfl rfl ?_
        (.receiving rfl ⟨logged.sendKey _, same.screen⟩ settledGoing ?_)
      · simp [World.left, Session.turn, Machine.sendKey, Machine.log, read]
      · simp [Serial.perform, Serial.deed, settledDue, Session.turn, clean,
          Machine.sendKey, Machine.log, read]
    | scroll direction =>
      refine h.polled point going hinput rfl rfl rfl rfl rfl rfl ?_
        (.receiving rfl ⟨logged, ?_⟩ settledGoing ?_)
      · simp [World.left, Session.turn, Machine.log, read]
      · exact congrArg (Screen.scroll · direction) same.screen
      · simp [Serial.perform, Serial.deed]
    -- stopping and quitting are calls: the deed counts as done when the call begins, since a
    -- machine that is not running has nothing to be stopped
    | stop =>
      refine h.polled point going hinput rfl rfl rfl rfl rfl rfl ?_
        (.stopping rfl (.inl rfl) ⟨logged, same.screen⟩ settledGoing rfl)
      simp [World.left, Progress.stop, Machine.log, read]
    | quit =>
      refine h.polled point going hinput rfl rfl rfl rfl rfl rfl ?_
        (.quitting rfl (.inl rfl) ⟨logged, same.screen⟩ rfl)
      simp [World.left, Progress.stop]
    -- a machine that runs is not alone with its session; such input is excluded
    | run => cases plain
    | step =>
      -- the step is under way, and none of the deeds before its instruction is executed
      refine .silent ⟨⟨h.fresh.stopped, h.fresh.untold⟩, h.listening, h.works, ?_, h.quits⟩
        (.stepping rfl ⟨logged, same.screen⟩ going read clean) ?_ ?_
      · exact fun q hq => h.plain q (by rw [hinput]; exact List.mem_cons_of_mem _ hq)
      · simp [World.obey, World.withPoint, Point.underWay, point, hinput]
      · simp [World.left, World.obey, World.withPoint, Machine.log, point, hinput, read]
        omega
  | failure | untilSteps | untilKeysThenSteps => cases plain

/-- Once the input is used up, the user quits. -/
theorem polls_nothing (h : Quiescent w) (now : Nat) (random : UInt8)
    (point : w.session.point = .polling) (same : Same s.settled w) (going : s.result = none)
    (hinput : w.session.input = []) :
    Moves s w (w.actSession now random) (w.does ⟨now, random, .session⟩) := by
  have next : w.session.next = .command .quit := by
    rw [Session.next, hinput]
    exact h.quits
  have acts : w.actSession now random = w.poll := by simp only [World.actSession, point]
  rw [acts]
  simp only [World.poll, World.does, point, next, Session.take, hinput]
  refine ⟨⟨⟨h.fresh.stopped, h.fresh.untold⟩, h.listening, h.works, ?_, h.quits⟩,
    .quitting rfl (.inl rfl) ⟨?_, same.screen⟩ rfl, fun _ => going, .inr ⟨hinput, ?_, rfl, rfl, ?_⟩,
    ?_⟩
  · simp [World.obey, World.withPoint, hinput]
  · exact (Machine.Alike.log _ _).trans same.machine
  · simp [point, Point.underWay]
  · simp [World.obey, World.withPoint, hinput]
  · simp [World.left, World.obey, World.withPoint, Progress.stop, point]

theorem steps (h : Quiescent w) (now : Nat) (random : UInt8)
    (point : w.session.point = .calling .step .command) (same : Same s.settled w)
    (going : s.result = none) (read : w.machine.frontend.waiting = [])
    (clean : w.session.dirty = false) : Moves s w (w.actSession now random) none := by
  have acts : w.actSession now random
      = ⟨w.machine.takeKeys.2,
          { w.session with point := .calling (.stepHolding w.machine.queue) .command }⟩ := by
    simp [World.actSession, point, Machine.advance, Machine.takeKeys]
  rw [acts]
  refine .silent ⟨⟨h.fresh.stopped, h.fresh.untold⟩, h.listening, h.works, h.plain, h.quits⟩
    (.holding rfl same.machine.takeKeys same.machine.queue same.screen going read clean) ?_ ?_
  · simp [point, Point.underWay]
  · simp [World.left, point, Machine.takeKeys]

/-- The step is done. What it announces is enough for the loop to render. -/
theorem holds (h : Quiescent w) (now : Nat) (random : UInt8) {events : List KeyEvent}
    (point : w.session.point = .calling (.stepHolding events) .command)
    (machine : w.machine.Alike s.settled.machine.takeKeys.2)
    (taken : events = s.settled.machine.queue) (screen : w.session.screen = s.settled.screen)
    (going : s.result = none) (clean : w.session.dirty = false) :
    Moves s w (w.actSession now random) (some ⟨.command .step, now, random⟩) := by
  have acts : w.actSession now random
      = ⟨(w.machine.advance now random (.stepHolding events)).1,
          { w.session with
              point := .calling (w.machine.advance now random (.stepHolding events)).2 .command }⟩ := by
    simp only [World.actSession, point]
  -- the instruction is the deed. It is executed on the machine that the deeds before it leave, but
  -- for what has been logged and told
  have untold := @Machine.advance_pending now random w.machine (.stepHolding events) nofun
  subst taken
  obtain ⟨same, call⟩ := machine.advance_stepHolding now random
  have result : (s.settled.machine.stepOnce now random).2
      = ((s.settled.machine.refreshed now).1.outcome random).map Executed.listing := rfl
  -- a step has few updates to send, which is what the bound for the actions left counts on
  have few := s.settled.machine.length_news_lt now
    ((s.settled.machine.refreshed now).1.outcome random)
  rw [call] at untold
  rw [acts, call]
  refine .doing ⟨⟨h.fresh.stopped, h.fresh.untold⟩, h.listening, h.works, h.plain, h.quits⟩ ?_
    going ?_ ?_
  · cases came : (s.settled.machine.refreshed now).1.outcome random with
    -- a step that succeeds always has something to tell, and so the loop will come to render
    | ok done =>
      rw [came] at result untold
      rw [Serial.perform, Serial.deed_step_ok result]
      refine .telling rfl ⟨same, screen⟩ ⟨s.settled_result.trans going, rfl, .inl ?_⟩ untold clean
      exact List.append_ne_nil_of_right_ne_nil _ (Update.ofStep_ok_ne_nil done)
    -- a step that fails ends the session, whatever it has told
    | error fault =>
      rw [came] at result untold
      rw [Serial.perform, Serial.deed_step_error result]
      exact .telling rfl ⟨same, screen⟩ rfl untold clean
  · rw [point]
    rfl
  · simp only [World.left, point]
    show 20 * w.session.input.length + w.machine.frontend.waiting.length + _ + 9 < _
    omega

/-- An update that is sent leaves one to be read. -/
theorem tells (h : Quiescent w) (now : Nat) (random : UInt8) {pending : List Update}
    {result : Except StackFault Unit}
    (point : w.session.point = .calling (.sending pending result) .command) (same : Same s w)
    (came : Came s w.machine.frontend.waiting pending result)
    (untold : ∀ u ∈ pending, u.isFault = false) (clean : w.session.dirty = false) :
    Moves s w (w.actSession now random) none := by
  cases pending with
  | nil =>
    have acts : w.actSession now random = w.withPoint (.calling (.returned result) .command) := by
      simp [World.actSession, World.withPoint, point, Machine.advance]
    exact h.goes acts (.told rfl ⟨same.machine, same.screen⟩ came clean) (by rw [point]; rfl)
      (by simp [World.left, World.withPoint, point])
  | cons u rest =>
    have acts : w.actSession now random
        = ⟨w.machine.notify u,
            { w.session with point := .calling (.sending rest result) .command }⟩ := by
      simp [World.actSession, point, Machine.advance]
    -- the update may be dropped. Then the channel is full, and holds another one to be read
    have fresh := h.fresh.quiet (w.machine.notify_quiet (untold u (List.mem_cons_self ..)))
    obtain ⟨listening, heard⟩ := h.listening.send u
    rw [← Machine.notify_frontend] at listening heard
    have held := w.machine.frontend.length_waiting_send_le u
    rw [← Machine.notify_frontend] at held
    rw [acts]
    refine .silent ⟨fresh, listening, h.works, h.plain, h.quits⟩
      (.telling rfl ⟨(Machine.Alike.notify _ u).trans same.machine, same.screen⟩ ?_ ?_ clean) ?_ ?_
    · cases result with
      | ok _ => exact ⟨came.1, came.2.1, .inr heard⟩
      | error fault => exact came
    · exact fun v hv => untold v (List.mem_cons_of_mem _ hv)
    · simp [point, Point.underWay]
    · simp only [World.left, point, List.length_cons]
      omega

theorem returns (h : Quiescent w) (now : Nat) (random : UInt8) {result : Except StackFault Unit}
    (point : w.session.point = .calling (.returned result) .command) (same : Same s w)
    (came : Came s w.machine.frontend.waiting [] result) :
    Moves s w (w.actSession now random) none := by
  cases result with
  | ok _ =>
    obtain ⟨going, due, told⟩ := came
    have acts : w.actSession now random = w.withPoint (.receiving none) := by
      simp [World.actSession, World.withPoint, point, World.resume, Session.turn]
    -- everything is sent, so what was told waits to be read, and reading it makes a picture due
    have waits := told.resolve_left (· rfl)
    exact h.goes acts
      (.receiving rfl ⟨same.machine, same.screen⟩ going (iff_of_true due (.inr waits)))
      (by rw [point]; rfl) (by simp [World.left, World.withPoint, point])
  | error fault =>
    have acts : w.actSession now random
        = w.withPoint (.ended (.error (.stack fault))) := by
      simp [World.actSession, World.withPoint, point, World.resume, Session.finish]
    exact h.goes acts (.ended rfl ⟨same.machine, same.screen⟩ came) (by rw [point]; rfl)
      (by simp [World.left, World.withPoint, point])

/-- To stop a machine that is not running does nothing. -/
theorem halts (h : Quiescent w) (now : Nat) (random : UInt8) {purpose : Purpose}
    (point : w.session.point = .calling .stop purpose) :
    w.actSession now random = w.withPoint (.calling (.returned (.ok ())) purpose) := by
  simp [World.actSession, World.withPoint, point, Progress.stop, Machine.advance, h.fresh.stopped]

theorem stops (h : Quiescent w) (now : Nat) (random : UInt8) {call : Progress}
    (point : w.session.point = .calling call .commandThenRender)
    (place : call = .stop ∨ call = .returned (.ok ())) (same : Same s w) (going : s.result = none)
    (due : s.due = true) : Moves s w (w.actSession now random) none := by
  -- the call is two actions: it looks, and it returns
  rcases place with rfl | rfl
  · exact h.goes (h.halts now random point)
      (.stopping rfl (.inr rfl) ⟨same.machine, same.screen⟩ going due) (by rw [point]; rfl)
      (by simp [World.left, World.withPoint, point, Progress.stop])
  · have acts : w.actSession now random
        = ⟨w.machine, { w.session.turn with dirty := true }⟩ := by
      simp [World.actSession, point, World.resume]
    rw [acts]
    refine .silent ⟨h.fresh, h.listening, h.works, h.plain, h.quits⟩
      (.receiving rfl ⟨same.machine, same.screen⟩ going (iff_of_true due (.inl rfl))) ?_ ?_
    · simp [Session.turn, point, Point.underWay]
    · simp [World.left, Session.turn, point]

theorem leaves (h : Quiescent w) (now : Nat) (random : UInt8) {call : Progress}
    (point : w.session.point = .calling call .quit)
    (place : call = .stop ∨ call = .returned (.ok ())) (same : Same s w)
    (quit : s.result = some (.ok ())) : Moves s w (w.actSession now random) none := by
  rcases place with rfl | rfl
  · exact h.goes (h.halts now random point)
      (.quitting rfl (.inr rfl) ⟨same.machine, same.screen⟩ quit) (by rw [point]; rfl)
      (by simp [World.left, World.withPoint, point, Progress.stop])
  · have acts : w.actSession now random = w.withPoint (.ended (.ok ())) := by
      simp only [World.actSession, point]
      rfl
    exact h.goes acts (.ended rfl ⟨same.machine, same.screen⟩ quit) (by rw [point]; rfl)
      (by simp [World.left, World.withPoint, point])

/-- **Every action of the loop** leads from stage to stage, until the session has ended. -/
theorem moves (h : Quiescent w) (stage : Stage s w)
    (ongoing : ∀ result, w.session.point ≠ .ended result) (now : Nat) (random : UInt8) :
    Moves s w (w.actSession now random) (w.does ⟨now, random, .session⟩) := by
  -- a deed is done where the loop polls and where a step executes its instruction, and nowhere else
  have silent (idle : ∀ events purpose, w.session.point ≠ .calling (.stepHolding events) purpose)
      (unpolled : w.session.point ≠ .polling) : w.does ⟨now, random, .session⟩ = none := by
    unfold World.does
    split
    · next hp => exact absurd hp unpolled
    · next hp => exact absurd hp (idle _ _)
    · rfl
  cases stage with
  | polling point same going read clean =>
    cases hinput : w.session.input with
    | nil => exact h.polls_nothing now random point same going hinput
    | cons p rest => exact h.polls now random point same going read clean hinput
  | holding point machine taken screen going _ clean =>
    have does : w.does ⟨now, random, .session⟩ = some ⟨.command .step, now, random⟩ := by
      simp only [World.does, point]
    rw [does]
    exact h.holds now random point machine taken screen going clean
  | stopping point place same going due =>
    rw [silent (by rcases place with rfl | rfl <;> simp [point, Progress.stop]) (by simp [point])]
    exact h.stops now random point place same going due
  | quitting point place same quit =>
    rw [silent (by rcases place with rfl | rfl <;> simp [point, Progress.stop]) (by simp [point])]
    exact h.leaves now random point place same quit
  | ended point => exact absurd point (ongoing _)
  | receiving point same going due =>
    rw [silent (by simp [point]) (by simp [point])]
    exact h.receives now random point same going due
  | checking point same going read due =>
    rw [silent (by simp [point]) (by simp [point])]
    exact h.checks now random point same going read due
  | rendering point same going read due =>
    rw [silent (by simp [point]) (by simp [point])]
    exact h.renders now random point same going read due
  | stepping point same going read clean =>
    rw [silent (by simp [point]) (by simp [point])]
    exact h.steps now random point same going read clean
  | telling point same came untold clean =>
    rw [silent (by simp [point]) (by simp [point])]
    exact h.tells now random point same came untold clean
  | told point same came =>
    rw [silent (by simp [point]) (by simp [point])]
    exact h.returns now random point same came

end Quiescent

end Chip8
