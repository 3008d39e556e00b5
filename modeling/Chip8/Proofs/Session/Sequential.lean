import Chip8.Proofs.Session.Stages

/-!
# A session without a run

Whoever never runs the machine uses it as a plain interpreter of commands: one poll after the
other, each leading to one deed, until the user quits or a step fails (`session_is_sequential`).
The session ends for sure, within so many of its own actions. Whether the activities are given
turns in between makes no difference, for there are none.
-/

set_option autoImplicit false

namespace Chip8

/-- A session with everything that was done in it. -/
structure Recorded where
  world : World
  deeds : List Deed

namespace Recorded

/-- A session that is about to begin. Once its input is used up, the user quits. -/
def start (m : Machine) (input : List Poll) (screen : Screen) : Recorded :=
  ⟨⟨m, Session.new input (.command .quit) screen⟩, []⟩

def act (r : Recorded) (t : World.Turn) : Recorded :=
  ⟨r.world.act t.now t.random t.who, r.deeds ++ (r.world.does t).toList⟩

def run (r : Recorded) (turns : List World.Turn) : Recorded := turns.foldl act r

def polls (r : Recorded) : List Poll := r.deeds.map Deed.poll

/-- What every turn keeps. -/
structure Follows (m : Machine) (input : List Poll) (screen : Screen) (r : Recorded) : Prop where
  quiescent : Quiescent r.world
  stage : Stage ((Serial.start m screen).performAll r.deeds) r.world
  used : r.polls ++ (r.world.session.point.underWay ++ r.world.session.input) = input
    ∨ (r.polls = input ++ [.command .quit]
      ∧ r.world.session.point.underWay = [] ∧ r.world.session.input = []
      ∧ ((Serial.start m screen).performAll r.deeds).result.isSome = true)
  going : ∀ before d after, r.deeds = before ++ d :: after →
    ((Serial.start m screen).performAll before).result = none

variable {m : Machine} {input : List Poll} {screen : Screen} {r : Recorded}

theorem Follows.start (fresh : m.Fresh) (listening : m.frontend.Listening)
    (plain : ∀ p ∈ input, p.isPlain = true) (works : screen.fails = none) :
    Follows m input screen (start m input screen) := by
  refine ⟨⟨fresh, listening, works, plain, rfl⟩, .receiving rfl ⟨⟨rfl, rfl, rfl⟩, rfl⟩ rfl ?_,
    .inl rfl, ?_⟩
  · exact iff_of_true rfl (.inl rfl)
  · intro before d after h
    simp [Recorded.start] at h

namespace Follows

/-- Turns of the activities, and turns after the end. -/
theorem rests (h : Follows m input screen r) (t : World.Turn)
    (idle : t.who ≠ .session ∨ ∃ result, r.world.session.point = .ended result) :
    r.act t = r := by
  obtain ⟨now, random, who⟩ := t
  cases who with
  | activity actor =>
    have still : r.world.act now random (.activity actor) = r.world := by
      simp only [World.act, Machine.act, h.quiescent.fresh.stopped]
    simp [act, still, World.does]
  | session =>
    obtain ⟨result, point⟩ := idle.resolve_left (fun other => other rfl)
    have still : r.world.act now random .session = r.world := by
      simp only [World.act, World.actSession, point]
    simp [act, still, World.does, point]

theorem kept (h : Follows m input screen r) {w' : World}
    (moves : Moves ((Serial.start m screen).performAll r.deeds) r.world w' none) :
    Follows m input screen ⟨w', r.deeds⟩ := by
  refine ⟨moves.quiescent, moves.stage, ?_, h.going⟩
  rcases moves.used with same | ⟨-, -, quit, -⟩
  · have same : w'.session.point.underWay ++ w'.session.input
        = r.world.session.point.underWay ++ r.world.session.input := same
    rcases h.used with before | ⟨all, idle, nothing, closed⟩
    · exact .inl (by rw [same]; exact before)
    · rw [idle, nothing, List.append_nil, List.append_eq_nil_iff] at same
      exact .inr ⟨all, same.1, same.2, closed⟩
  · cases quit

theorem done (h : Follows m input screen r) {w' : World} {d : Deed}
    (moves : Moves ((Serial.start m screen).performAll r.deeds) r.world w' (some d)) :
    Follows m input screen ⟨w', r.deeds ++ [d]⟩ := by
  have going := moves.going nofun
  -- the user has not quit yet, or there would be a result
  have before : r.polls ++ (r.world.session.point.underWay ++ r.world.session.input) = input := by
    rcases h.used with before | ⟨-, -, -, closed⟩
    · exact before
    · rw [going] at closed
      cases closed
  have polls : polls ⟨w', r.deeds ++ [d]⟩ = r.polls ++ [d.poll] := by
    simp [Recorded.polls]
  refine ⟨moves.quiescent, ?_, ?_, ?_⟩
  · rw [Serial.performAll_append]
    exact moves.stage
  · rw [polls]
    rcases moves.used with used | ⟨nothing, idle, quit, idle', nothing'⟩
    · left
      rw [List.append_assoc, ← before]
      exact congrArg (r.polls ++ ·) used
    · right
      have quit : d.poll = .command .quit := Option.some.inj quit
      rw [idle, nothing, List.append_nil, List.append_nil] at before
      refine ⟨by rw [before, quit], idle', nothing', ?_⟩
      rw [Serial.performAll_append]
      show (Serial.deed _ d).result.isSome = true
      simp [Serial.deed, quit]
  · intro earlier e later split
    -- `e` is the new deed, or one of those before it
    rcases List.eq_nil_or_concat later with rfl | ⟨later, last, rfl⟩
    · obtain ⟨rfl, -⟩ := List.append_inj' split rfl
      exact going
    · refine h.going earlier e later ?_
      rw [List.concat_eq_append, ← List.cons_append, ← List.append_assoc] at split
      exact (List.append_inj' split rfl).1

/-- An action of the loop, as long as the session has not ended. -/
theorem proceeds (h : Follows m input screen r) (now : Nat) (random : UInt8)
    (ongoing : ∀ result, r.world.session.point ≠ .ended result) :
    Follows m input screen (r.act ⟨now, random, .session⟩)
      ∧ (r.act ⟨now, random, .session⟩).world.left < r.world.left := by
  have moves := h.quiescent.moves h.stage ongoing now random
  refine ⟨?_, moves.nearer⟩
  unfold act
  cases hd : r.world.does ⟨now, random, .session⟩ with
  | none =>
    rw [hd] at moves
    rw [Option.toList_none, List.append_nil]
    exact h.kept moves
  | some d =>
    rw [hd] at moves
    exact h.done moves

theorem act (h : Follows m input screen r) (t : World.Turn) : Follows m input screen (r.act t) := by
  by_cases idle : t.who ≠ .session ∨ ∃ result, r.world.session.point = .ended result
  · rw [h.rests t idle]
    exact h
  · obtain ⟨who, ongoing⟩ := not_or.mp idle
    obtain ⟨now, random, who'⟩ := t
    obtain rfl : who' = .session := Decidable.not_not.mp who
    exact (h.proceeds now random (not_exists.mp ongoing)).1

theorem run (h : Follows m input screen r) (turns : List World.Turn) :
    Follows m input screen (r.run turns) := by
  induction turns generalizing r with
  | nil => exact h
  | cons t turns ih => exact ih (h.act t)

theorem run_of_ended (h : Follows m input screen r) (turns : List World.Turn)
    (ended : ∃ result, r.world.session.point = .ended result) : r.run turns = r := by
  induction turns with
  | nil => rfl
  | cons t turns ih =>
    show (r.act t).run turns = r
    rw [h.rests t (.inr ended), ih]

/-- **The session ends**: every turn of the loop's uses up some of what is left. -/
theorem run_left (h : Follows m input screen r) (turns : List World.Turn) :
    (∃ result, (r.run turns).world.session.point = .ended result)
      ∨ (r.run turns).world.left + turns.countP (·.who = .session) ≤ r.world.left := by
  -- a turn that is not the loop's changes nothing, and neither does one after the end
  induction turns generalizing r with
  | nil => exact .inr (Nat.le_refl _)
  | cons t turns ih =>
    show (∃ result, ((r.act t).run turns).world.session.point = .ended result) ∨ _
    by_cases ended : ∃ result, r.world.session.point = .ended result
    · left
      rw [h.rests t (.inr ended), h.run_of_ended turns ended]
      exact ended
    · by_cases who : t.who = .session
      · obtain ⟨now, random, _⟩ := t
        subst who
        obtain ⟨follows, nearer⟩ := h.proceeds now random (not_exists.mp ended)
        rcases ih follows with closed | left
        · exact .inl closed
        · right
          rw [List.countP_cons_of_pos (by simp)]
          show ((r.act _).run turns).world.left + _ ≤ _
          omega
      · rcases ih (h.act t) with closed | left
        · exact .inl closed
        · right
          rw [List.countP_cons_of_neg (by simpa using who)]
          show ((r.act t).run turns).world.left + _ ≤ _
          rw [h.rests t (.inl who)] at left ⊢
          exact left

end Follows

/-- How matters stand where the loop polls. -/
structure AtPoll (m : Machine) (input : List Poll) (screen : Screen) (r : Recorded) : Prop where
  used : r.polls ++ r.world.session.input = input
  same : Same ((Serial.start m screen).performAll r.deeds).settled r.world
  state : r.world.machine.state = (r.deeds.foldl Machine.perform m).state.seen
  queue : r.world.machine.queue = (r.deeds.foldl Machine.perform m).queue
  showing : r.world.session.screen.Showing r.world.machine.state
  renders : r.world.session.screen.shown.length
    = screen.shown.length + 1 + r.deeds.countP Deed.asks
  scrolls : r.world.session.screen.scrolls
    = (r.deeds.filterMap Deed.scroll?).reverse ++ screen.scrolls

/-- How matters stand at the end. The last deed is what ended the session. -/
structure AtEnd (m : Machine) (input : List Poll) (screen : Screen) (r : Recorded)
    (before : List Deed) (last : Deed) (result : Except Error Unit) : Prop where
  deeds : r.deeds = before ++ [last]
  closes : Serial.Closes m before last result
  used : r.polls ++ r.world.session.input = input
    ∨ r.polls = input ++ [.command .quit] ∧ r.world.session.input = []
  same : Same ((Serial.start m screen).performAll r.deeds) r.world
  state : r.world.machine.state = (r.deeds.foldl Machine.perform m).state.seen
  queue : r.world.machine.queue = (r.deeds.foldl Machine.perform m).queue
  renders : r.world.session.screen.shown.length
    = screen.shown.length + 1 + before.countP Deed.asks
  scrolls : r.world.session.screen.scrolls
    = (r.deeds.filterMap Deed.scroll?).reverse ++ screen.scrolls

namespace Follows

theorem start_renders (m : Machine) (screen : Screen) :
    (Serial.start m screen).renders = screen.shown.length + 1 := by
  simp [Serial.renders, Serial.settled, Serial.start, Screen.render]

theorem atPoll (h : Follows m input screen r) (point : r.world.session.point = .polling) :
    AtPoll m input screen r := by
  obtain ⟨same, going⟩ := h.stage.of_polling point
  have shown := (Serial.start m screen).performAll_renders r.deeds going
  have bare := (Serial.settled_resembles _).trans
    ((Serial.start m screen).performAll_resembles r.deeds)
  have unmarked := Serial.settled_unmarked _
    ((Serial.start m screen).performAll_unmarked r.deeds (.inl rfl))
  refine ⟨?_, same, same.state_of_unmarked unmarked bare, same.machine.queue.trans bare.queue,
    ?_, ?_, ?_⟩
  · rcases h.used with used | ⟨-, -, -, closed⟩
    · rw [point] at used
      exact used
    · rw [going] at closed
      cases closed
  · have current := (Serial.start m screen).performAll_current r.deeds (.inl rfl) going
    rw [same.screen, Machine.state, same.machine.interpreter]
    exact current
  · rw [start_renders] at shown
    rw [same.screen]
    exact shown
  · rw [same.screen, Serial.settled_scrolls, Serial.performAll_scrolls]
    rfl

theorem atEnd (h : Follows m input screen r) {result : Except Error Unit}
    (point : r.world.session.point = .ended result) :
    ∃ before last, AtEnd m input screen r before last result := by
  obtain ⟨same, closed⟩ := h.stage.of_ended point
  rcases List.eq_nil_or_concat r.deeds with nothing | ⟨before, last, deeds⟩
  · rw [nothing] at closed
    cases closed
  rw [List.concat_eq_append] at deeds
  have going := h.going
  rw [deeds] at going
  have first := going before last [] rfl
  have shown := (Serial.start m screen).performAll_renders before first
  have bare := (Serial.start m screen).performAll_resembles r.deeds
  -- the last deed asks for no render, so there are no marks for one to take
  have unmarked : ((Serial.start m screen).performAll r.deeds).Unmarked := by
    refine ((Serial.start m screen).performAll_unmarked r.deeds (.inl rfl)).resolve_left ?_
    rw [deeds, Serial.performAll_append] at closed ⊢
    have rests := Serial.deed_over _ last (Serial.settled_due _)
      ((Serial.settled_result _).trans first) (Option.isSome_of_eq_some closed)
    exact Bool.eq_false_iff.mp rests
  refine ⟨before, last, deeds, ?_, ?_, same, same.state_of_unmarked unmarked bare,
    same.machine.queue.trans bare.queue, ?_, ?_⟩
  · rw [deeds] at closed
    exact (Serial.start m screen).closes going closed
  · rcases h.used with used | ⟨all, -, nothing, -⟩
    · rw [point] at used
      exact .inl used
    · exact .inr ⟨all, nothing⟩
  · rw [start_renders] at shown
    rw [same.screen, deeds, Serial.performAll_append]
    exact (congrArg List.length (Serial.deed_shown _ last)).trans shown
  · rw [same.screen, Serial.performAll_scrolls]
    rfl

end Follows

/-- **A session without a run is a plain interpreter of its commands.** Let a session be held with a
machine that is not running and whose frontend somebody listens to, on a channel that can hold an
update and holds none of a fault. Let it be driven by commands other than run and by idle polls,
and then be quit, and let the screen work.

Wherever it polls, the polls before have been used one by one, the machine is in the state that
their keys and steps have made, but that the renders have taken the marks of the registers away,
and the screen shows it. The screen was rendered once at first and then once for every step, stop
and scroll. When the session ends, the last poll used is the first one to quit or the first step to
fail, and the result says which; nothing after it was used, and nothing was rendered for it. And it
does end, once the loop has acted often enough. -/
theorem session_is_sequential {m : Machine} (fresh : m.Fresh) (listening : m.frontend.Listening)
    {input : List Poll} (plain : ∀ p ∈ input, p.isPlain = true) {screen : Screen}
    (works : screen.fails = none) (turns : List World.Turn) :
    let r := (start m input screen).run turns
    (r.world.session.point = .polling → AtPoll m input screen r)
      ∧ (∀ result, r.world.session.result? = some result →
          ∃ before last, AtEnd m input screen r before last result)
      ∧ (20 * input.length + m.frontend.waiting.length + 7 < turns.countP (·.who = .session) →
          r.world.session.result?.isSome = true) := by
  intro r
  have begins := Follows.start fresh listening plain works
  have follows : Follows m input screen r := begins.run turns
  refine ⟨follows.atPoll, ?_, ?_⟩
  · intro result ended
    have point : r.world.session.point = .ended result := by
      unfold Session.result? at ended
      split at ended
      · next result' hp =>
        cases ended
        exact hp
      · cases ended
    exact follows.atEnd point
  · intro enough
    rcases begins.run_left turns with ⟨result, point⟩ | left
    · have point : r.world.session.point = .ended result := point
      simp [Session.result?, point]
    · have all : (start m input screen).world.left
          = 20 * input.length + m.frontend.waiting.length + 7 := rfl
      omega

/-- A machine whose second instruction fails, and whose frontend has room for one update. -/
def failing : Machine :=
  ((Machine.new {} (Frontend.ofCapacity 1) none).load ⟨[0x60, 0x05, 0x00, 0xEE], none⟩).1

def commands : List Poll :=
  [.command .step, .command (.key 7), .nothing, .command (.scroll .down), .command .step,
    .command .step]

/-- The loop acts as often as it needs to. -/
def patient : List World.Turn := List.replicate 129 ⟨0, 0, .session⟩

theorem session_is_sequential_failing :
    let r := (start failing commands {}).run patient
    (failing.Fresh ∧ failing.frontend.Listening ∧ (∀ p ∈ commands, p.isPlain = true))
      ∧ 20 * commands.length + failing.frontend.waiting.length + 7
        < patient.countP (·.who = .session)
      ∧ r.world.session.input = [.command .step]
      ∧ ∃ result, r.world.session.result? = some result
          ∧ ∃ before last, AtEnd failing commands {} r before last result := by
  have listening : failing.frontend.Listening := ⟨_, rfl, rfl, by decide⟩
  have fresh : failing.Fresh := (Machine.Fresh.new {} 1 none).load _
  have plain : ∀ p ∈ commands, p.isPlain = true := by decide
  have enough : 20 * commands.length + failing.frontend.waiting.length + 7
      < patient.countP (·.who = .session) := by decide +kernel
  have unused : ((start failing commands {}).run patient).world.session.input
      = [.command .step] := by decide +kernel
  obtain ⟨-, ends, closed⟩ :=
    @session_is_sequential failing fresh listening commands plain {} rfl patient
  generalize (start failing commands {}).run patient = r at *
  obtain ⟨result, ended⟩ := Option.isSome_iff_exists.mp (closed enough)
  exact ⟨⟨fresh, listening, plain⟩, enough, unused, result, ended, ends result ended⟩

end Recorded

end Chip8
