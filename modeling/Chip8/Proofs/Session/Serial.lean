import Chip8.Proofs.Interpreter.Marks
import Chip8.Proofs.Machine.Stepping
import Chip8.Session.Basic

/-!
# Commands one after the other

What a session amounts to as long as nobody runs the machine: every poll of the input leads to one
deed, and before a poll the screen is rendered if a deed has asked for it. There are no updates in
it, no channel and no loop.

`Serial` is a machine and a screen of which only so much is asked. Its laws say what the deeds come
to. The machine is the one that the keys and steps among them would have made by themselves, but
for the marks of its registers, which renders take away (`performAll_resembles`). The scrolls reach
the screen in order, and it is rendered once at first and then once for every deed that asks.
-/

set_option autoImplicit false

namespace Chip8

/-- What a poll came to, and the moment and the byte of the step, if it was one. -/
structure Deed where
  poll : Poll
  now : Nat
  random : UInt8

namespace Deed

def scroll? (d : Deed) : Option Scroll :=
  match d.poll with
  | .command (.scroll direction) => some direction
  | _ => none

/-- The deeds that ask for a render. -/
def asks (d : Deed) : Bool :=
  match d.poll with
  | .command .step | .command .stop | .command (.scroll _) => true
  | _ => false

end Deed

/-! ## Machines that differ in marks -/

namespace Machine

/-- What a deed does to a machine that is not running. -/
def perform (m : Machine) (d : Deed) : Machine :=
  match d.poll with
  | .command (.key k) => m.sendKey (.press k)
  | .command .step => (m.stepOnce d.now d.random).1
  | _ => m

/-- The same machines but for the marks of their registers, and for whom they tell what. -/
structure Resembles (m m' : Machine) : Prop where
  state : m.state.seen = m'.state.seen
  advancesIndex : m.interpreter.advancesIndex = m'.interpreter.advancesIndex
  queue : m.queue = m'.queue
  config : m.config = m'.config

namespace Resembles

variable {m m' m'' : Machine}

theorem of_alike (h : m.Alike m') : m.Resembles m' :=
  ⟨by rw [Machine.state, Machine.state, h.interpreter], by rw [h.interpreter], h.queue, h.config⟩

theorem trans (h : m.Resembles m') (h' : m'.Resembles m'') : m.Resembles m'' :=
  ⟨h.state.trans h'.state, h.advancesIndex.trans h'.advancesIndex, h.queue.trans h'.queue,
    h.config.trans h'.config⟩

theorem symm (h : m.Resembles m') : m'.Resembles m :=
  ⟨h.state.symm, h.advancesIndex.symm, h.queue.symm, h.config.symm⟩

theorem snapshot (m : Machine) : m.snapshot.2.Resembles m := ⟨rfl, rfl, rfl, rfl⟩

theorem sendKey (h : m.Resembles m') (e : KeyEvent) : (m.sendKey e).Resembles (m'.sendKey e) :=
  ⟨h.state, h.advancesIndex, congrArg (· ++ [e]) h.queue, h.config⟩

theorem refreshed (h : m.Resembles m') (now : Nat) :
    (m.refreshed now).1.Resembles (m'.refreshed now).1 := by
  have hkeypad : m.state.seen.keypad = m'.state.seen.keypad := congrArg State.keypad h.state
  have keypads : (m.refreshed now).1.state.keypad = (m'.refreshed now).1.state.keypad := by
    show (m.state.seen.keypad.refresh m.config.keyRelease now m.queue).1
      = (m'.state.seen.keypad.refresh m'.config.keyRelease now m'.queue).1
    rw [hkeypad, h.config, h.queue]
  refine ⟨?_, h.advancesIndex, rfl, h.config⟩
  show { m.state.seen with keypad := (m.refreshed now).1.state.keypad }
    = { m'.state.seen with keypad := (m'.refreshed now).1.state.keypad }
  rw [keypads, h.state]

theorem execute (h : m.Resembles m') (random : UInt8) :
    (m.execute random).1.Resembles (m'.execute random).1 ∧ m.outcome random = m'.outcome random := by
  obtain ⟨state, result⟩ := State.step_seen_congr h.state m.interpreter.advancesIndex random
  have left : (m.execute random).1.state = (m.state.step m.interpreter.advancesIndex random).1 := rfl
  have right : (m'.execute random).1.state
      = (m'.state.step m'.interpreter.advancesIndex random).1 := rfl
  refine ⟨⟨?_, h.advancesIndex, h.queue, h.config⟩, ?_⟩
  · rw [left, right, ← h.advancesIndex]
    exact state
  · show (m.state.step m.interpreter.advancesIndex random).2
      = (m'.state.step m'.interpreter.advancesIndex random).2
    rw [← h.advancesIndex]
    exact result

/-- **A step does not look at the marks.** -/
theorem stepOnce (h : m.Resembles m') (now : Nat) (random : UInt8) :
    (m.stepOnce now random).1.Resembles (m'.stepOnce now random).1
      ∧ (m.stepOnce now random).2 = (m'.stepOnce now random).2 := by
  obtain ⟨executed, came⟩ := (h.refreshed now).execute random
  have left := of_alike (m.stepped_alike now random)
  have right := of_alike (m'.stepped_alike now random)
  refine ⟨left.trans (executed.trans right.symm), ?_⟩
  rw [stepOnce_eq, stepOnce_eq, came]

theorem perform (h : m.Resembles m') (d : Deed) : (m.perform d).Resembles (m'.perform d) := by
  obtain ⟨poll, now, random⟩ := d
  cases poll with
  | command c =>
    cases c with
    | key k => exact h.sendKey (.press k)
    | step => exact (h.stepOnce now random).1
    | run | stop | scroll | quit => exact h
  | _ => exact h

end Resembles

/-- A step that fails writes no register. -/
theorem registers_of_stepOnce_error {m : Machine} {now : Nat} {random : UInt8} {f : StackFault}
    (h : (m.stepOnce now random).2 = .error f) :
    (m.stepOnce now random).1.state.registers = m.state.registers := by
  have failed : (m.refreshed now).1.outcome random = .error f := by
    rw [stepOnce_eq] at h
    cases came : (m.refreshed now).1.outcome random with
    | ok done => rw [came] at h; cases h
    | error f' => rw [came] at h; cases h; rfl
  have stuck := stuck?_of_execute failed
  have executed : (m.stepOnce now random).1.interpreter
      = ((m.refreshed now).1.execute random).1.interpreter :=
    (m.stepped_alike now random).interpreter
  have noted : ((m.refreshed now).1.execute random).1.state = (m.refreshed now).1.state.noted :=
    congrArg Prod.fst (State.step_of_stuck? stuck _ random)
  have state : (m.stepOnce now random).1.state = ((m.refreshed now).1.execute random).1.state :=
    congrArg Interpreter.state executed
  rw [state, noted]
  rfl

end Machine

/-- What was rendered last is a state, but for the marks. -/
def Screen.Showing (screen : Screen) (s : State) : Prop :=
  ∃ v rest, screen.shown = v :: rest
    ∧ { v.snapshot with changed := s.registers.changed } = s.view

/-! ## Deeds one after the other -/

structure Serial where
  machine : Machine
  screen : Screen
  /-- a render is due before the next poll -/
  due : Bool
  result : Option (Except Error Unit)

namespace Serial

def start (m : Machine) (screen : Screen) : Serial := ⟨m, screen, true, none⟩

variable (s : Serial)

/-- Renders if that is due. -/
def settled : Serial :=
  if s.due then
    { s with machine := s.machine.snapshot.2, screen := (s.screen.render s.machine.snapshot.1).1,
             due := false }
  else s

/-- What a poll leads to. To stop a machine that is not running does nothing, but shows it. -/
def deed (d : Deed) : Serial :=
  match d.poll with
  | .command (.key k) => { s with machine := s.machine.sendKey (.press k) }
  | .command .step =>
    let stepped := (s.machine.stepOnce d.now d.random).1
    match (s.machine.stepOnce d.now d.random).2 with
    | .ok _ => { s with machine := stepped, due := true }
    | .error fault => { s with machine := stepped, result := some (.error (.stack fault)) }
  | .command .stop => { s with due := true }
  | .command (.scroll direction) => { s with screen := s.screen.scroll direction, due := true }
  | .command .quit => { s with result := some (.ok ()) }
  | _ => s

def perform (d : Deed) : Serial := s.settled.deed d

def performAll (deeds : List Deed) : Serial := deeds.foldl perform s

theorem performAll_append (before after : List Deed) :
    s.performAll (before ++ after) = (s.performAll before).performAll after := List.foldl_append

theorem settled_result : s.settled.result = s.result := by
  unfold settled
  split <;> rfl

theorem settled_due : s.settled.due = false := by
  unfold settled
  split
  · rfl
  · next h => exact Bool.eq_false_iff.mpr h

variable {s} in
theorem deed_step_ok {now : Nat} {random : UInt8} {l : Listing}
    (h : (s.machine.stepOnce now random).2 = .ok l) :
    s.deed ⟨.command .step, now, random⟩
      = { s with machine := (s.machine.stepOnce now random).1, due := true } := by
  simp only [deed, h]

variable {s} in
theorem deed_step_error {now : Nat} {random : UInt8} {f : StackFault}
    (h : (s.machine.stepOnce now random).2 = .error f) :
    s.deed ⟨.command .step, now, random⟩
      = { s with machine := (s.machine.stepOnce now random).1,
                 result := some (.error (.stack f)) } := by
  simp only [deed, h]

theorem deed_machine (d : Deed) : (s.deed d).machine = s.machine.perform d := by
  obtain ⟨poll, now, random⟩ := d
  unfold deed Machine.perform
  cases poll with
  | command c =>
    cases c with
    | step => dsimp only; split <;> rfl
    | _ => rfl
  | _ => rfl

theorem settled_resembles : s.settled.machine.Resembles s.machine := by
  unfold settled
  split
  · exact .snapshot _
  · exact .of_alike ⟨rfl, rfl, rfl⟩

/-- **The machine is what keys and steps alone make of it**, but for the marks. -/
theorem performAll_resembles (deeds : List Deed) :
    (s.performAll deeds).machine.Resembles (deeds.foldl Machine.perform s.machine) := by
  have along (deeds : List Deed) : ∀ {s : Serial} {m : Machine}, s.machine.Resembles m →
      (s.performAll deeds).machine.Resembles (deeds.foldl Machine.perform m) := by
    induction deeds with
    | nil => intro s m h; exact h
    | cons d deeds ih =>
      intro s m h
      refine ih (s := s.perform d) ?_
      rw [perform, deed_machine]
      exact (s.settled_resembles.trans h).perform d
  exact along deeds (.of_alike ⟨rfl, rfl, rfl⟩)

theorem settled_scrolls : s.settled.screen.scrolls = s.screen.scrolls := by
  unfold settled
  split <;> rfl

theorem deed_scrolls (d : Deed) :
    (s.deed d).screen.scrolls = d.scroll?.toList ++ s.screen.scrolls := by
  obtain ⟨poll, now, random⟩ := d
  unfold deed Deed.scroll?
  cases poll with
  | command c =>
    cases c with
    | step => dsimp only; split <;> rfl
    | _ => rfl
  | _ => rfl

theorem performAll_scrolls (deeds : List Deed) :
    (s.performAll deeds).screen.scrolls
      = (deeds.filterMap Deed.scroll?).reverse ++ s.screen.scrolls := by
  induction deeds generalizing s with
  | nil => rfl
  | cons d deeds ih =>
    have first : (s.perform d).screen.scrolls = d.scroll?.toList ++ s.screen.scrolls := by
      rw [perform, deed_scrolls, settled_scrolls]
    show ((s.perform d).performAll deeds).screen.scrolls = _
    rw [ih, first, List.filterMap_cons]
    cases d.scroll? <;> simp

/-! ## Renders -/

/-- How often the screen was rendered, once it has been where that is due. -/
def renders : Nat := s.settled.screen.shown.length

theorem deed_result_isSome (d : Deed) (h : s.result.isSome = true) :
    (s.deed d).result.isSome = true := by
  obtain ⟨poll, now, random⟩ := d
  unfold deed
  cases poll with
  | command c =>
    cases c with
    | step =>
      dsimp only
      split
      · exact h
      · rfl
    | quit => rfl
    | _ => exact h
  | _ => exact h

/-- A result, once there is one, is not lost. -/
theorem performAll_result_isSome (deeds : List Deed) (h : s.result.isSome = true) :
    (s.performAll deeds).result.isSome = true := by
  induction deeds generalizing s with
  | nil => exact h
  | cons d deeds ih =>
    refine ih (s.perform d) (s.settled.deed_result_isSome d ?_)
    rw [settled_result]
    exact h

/-- There is no result as long as there is none later. -/
theorem going_of_perform {d : Deed} {deeds : List Deed}
    (h : (s.performAll (d :: deeds)).result = none) : (s.perform d).result = none := by
  cases hr : (s.perform d).result with
  | none => rfl
  | some r =>
    have stays := (s.perform d).performAll_result_isSome deeds (by rw [hr]; rfl)
    rw [show (s.perform d).performAll deeds = s.performAll (d :: deeds) from rfl, h] at stays
    cases stays

/-- A deed renders nothing. -/
theorem deed_shown (d : Deed) : (s.deed d).screen.shown = s.screen.shown := by
  obtain ⟨poll, now, random⟩ := d
  unfold deed
  cases poll with
  | command c =>
    cases c with
    | step => dsimp only; split <;> rfl
    | _ => rfl
  | _ => rfl

theorem deed_renders (d : Deed) (clean : s.due = false) (going : (s.deed d).result = none) :
    (s.deed d).renders = s.screen.shown.length + if d.asks then 1 else 0 := by
  obtain ⟨poll, now, random⟩ := d
  cases poll with
  | command c =>
    cases c with
    | step =>
      cases came : (s.machine.stepOnce now random).2 with
      | ok l => rw [deed_step_ok came]; rfl
      | error f => rw [deed_step_error came] at going; cases going
    | _ => simp [renders, settled, deed, Deed.asks, clean, Screen.render, Screen.scroll]
  | _ => simp [renders, settled, deed, Deed.asks, clean]

/-- **One render at first, and one for every deed that asks.** -/
theorem performAll_renders (deeds : List Deed) (going : (s.performAll deeds).result = none) :
    (s.performAll deeds).renders = s.renders + deeds.countP Deed.asks := by
  induction deeds generalizing s with
  | nil => rfl
  | cons d deeds ih =>
    -- a step that fails asks for a render that never comes, so there must be no result
    have first := s.going_of_perform going
    have one : (s.perform d).renders = s.renders + if d.asks then 1 else 0 :=
      s.settled.deed_renders d s.settled_due first
    show ((s.perform d).performAll deeds).renders = _
    rw [ih (s.perform d) going, one, List.countP_cons]
    omega

/-- The last render shows the machine as it is, but for the marks. -/
def Current : Prop := s.screen.Showing s.machine.state

theorem settled_current (h : s.due = true ∨ s.Current) : s.settled.Current := by
  unfold settled
  split
  · exact ⟨_, _, rfl, rfl⟩
  · next clean => exact h.resolve_left clean

theorem deed_current (d : Deed) (h : s.Current) (going : (s.deed d).result = none) :
    (s.deed d).due = true ∨ (s.deed d).Current := by
  obtain ⟨poll, now, random⟩ := d
  cases poll with
  | command c =>
    cases c with
    | step =>
      cases came : (s.machine.stepOnce now random).2 with
      | ok l => rw [deed_step_ok came]; exact .inl rfl
      | error f => rw [deed_step_error came] at going; cases going
    | stop | scroll => exact .inl rfl
    | _ => exact .inr h
  | _ => exact .inr h

/-- **At every poll the last render shows the machine.** -/
theorem performAll_current (deeds : List Deed) (h : s.due = true ∨ s.Current)
    (going : (s.performAll deeds).result = none) : (s.performAll deeds).settled.Current := by
  induction deeds generalizing s with
  | nil => exact s.settled_current h
  | cons d deeds ih =>
    have first := s.going_of_perform going
    exact ih (s.perform d) (s.settled.deed_current d (s.settled_current h) first) going

/-! ## What the renders leave of the marks -/

def Unmarked : Prop := s.machine.state.seen = s.machine.state

theorem settled_unmarked (h : s.due = true ∨ s.Unmarked) : s.settled.Unmarked := by
  unfold settled
  split
  · rfl
  · next clean => exact h.resolve_left clean

theorem deed_unmarked (d : Deed) (h : s.Unmarked) : (s.deed d).due = true ∨ (s.deed d).Unmarked := by
  obtain ⟨poll, now, random⟩ := d
  cases poll with
  | command c =>
    cases c with
    | step =>
      cases came : (s.machine.stepOnce now random).2 with
      | ok l => rw [deed_step_ok came]; exact .inl rfl
      | error f =>
        right
        rw [deed_step_error came]
        have kept := Machine.registers_of_stepOnce_error came
        have clear : s.machine.state.registers.unmarked = s.machine.state.registers :=
          congrArg State.registers h
        unfold Unmarked State.seen
        dsimp only
        rw [kept, clear, ← kept]
    | stop | scroll => exact .inl rfl
    | _ => exact .inr h
  | _ => exact .inr h

/-- **Unless a render is due, there are no marks.** -/
theorem performAll_unmarked (deeds : List Deed) (h : s.due = true ∨ s.Unmarked) :
    (s.performAll deeds).due = true ∨ (s.performAll deeds).Unmarked := by
  induction deeds generalizing s with
  | nil => exact h
  | cons d deeds ih => exact ih (s.perform d) (s.settled.deed_unmarked d (s.settled_unmarked h))

/-! ## The end -/

/-- What ends the deeds asks for no render. -/
theorem deed_over (d : Deed) (clean : s.due = false) (going : s.result = none)
    (closed : (s.deed d).result.isSome = true) : (s.deed d).due = false := by
  obtain ⟨poll, now, random⟩ := d
  unfold deed at closed ⊢
  cases poll with
  | command c =>
    cases c with
    | step =>
      dsimp only at closed ⊢
      split at closed
      · simp [going] at closed
      · exact clean
    | stop | scroll => simp [going] at closed
    | _ => exact clean
  | _ => exact clean

/-- The deeds that came to `result`: the last one is the first one to quit or the first step to
fail. -/
structure Closes (m : Machine) (before : List Deed) (last : Deed) (result : Except Error Unit) :
    Prop where
  unquit : ∀ d ∈ before, d.poll ≠ .command .quit
  unfailed : ∀ earlier d later, before = earlier ++ d :: later → d.poll = .command .step →
    ∃ l, ((earlier.foldl Machine.perform m).stepOnce d.now d.random).2 = .ok l
  result : (last.poll = .command .quit ∧ result = .ok ())
    ∨ last.poll = .command .step ∧ ∃ f, result = .error (.stack f)
      ∧ ((before.foldl Machine.perform m).stepOnce last.now last.random).2 = .error f

theorem deed_going {d : Deed} (h : (s.deed d).result = none) :
    d.poll ≠ .command .quit
      ∧ (d.poll = .command .step → ∃ l, (s.machine.stepOnce d.now d.random).2 = .ok l) := by
  obtain ⟨poll, now, random⟩ := d
  refine ⟨?_, ?_⟩
  · rintro rfl
    cases h
  · rintro rfl
    cases came : (s.machine.stepOnce now random).2 with
    | ok l => exact ⟨l, rfl⟩
    | error f => rw [deed_step_error came] at h; cases h

theorem deed_closes {d : Deed} {result : Except Error Unit} (going : s.result = none)
    (h : (s.deed d).result = some result) :
    (d.poll = .command .quit ∧ result = .ok ())
      ∨ d.poll = .command .step ∧ ∃ f, result = .error (.stack f)
        ∧ (s.machine.stepOnce d.now d.random).2 = .error f := by
  obtain ⟨poll, now, random⟩ := d
  cases poll with
  | command c =>
    cases c with
    | quit => cases h; exact .inl ⟨rfl, rfl⟩
    | step =>
      cases came : (s.machine.stepOnce now random).2 with
      | ok l =>
        rw [deed_step_ok came] at h
        rw [show ({ s with machine := _, due := true } : Serial).result = s.result from rfl,
          going] at h
        cases h
      | error f => rw [deed_step_error came] at h; cases h; exact .inr ⟨rfl, f, rfl, rfl⟩
    | key | run | stop | scroll => exact absurd (going.symm.trans h) nofun
  | _ => exact absurd (going.symm.trans h) nofun

/-- A step of the machine comes to what it comes to without any renders. -/
theorem performAll_stepOnce (deeds : List Deed) (now : Nat) (random : UInt8) :
    ((s.performAll deeds).settled.machine.stepOnce now random).2
      = ((deeds.foldl Machine.perform s.machine).stepOnce now random).2 :=
  (((s.performAll deeds).settled_resembles.trans (s.performAll_resembles deeds)).stepOnce now
    random).2

theorem closes {deeds : List Deed} {d : Deed} {result : Except Error Unit}
    (going : ∀ before e after, deeds ++ [d] = before ++ e :: after →
      (s.performAll before).result = none)
    (h : (s.performAll (deeds ++ [d])).result = some result) :
    Closes s.machine deeds d result := by
  have inner (earlier : List Deed) (e : Deed) (later : List Deed)
      (hsplit : deeds = earlier ++ e :: later) :
      ((s.performAll earlier).settled.deed e).result = none := by
    cases later with
    | nil =>
      have := going deeds d [] rfl
      rw [hsplit, performAll_append] at this
      exact this
    | cons e' later =>
      have := going (earlier ++ [e]) e' (later ++ [d]) (by simp [hsplit])
      rw [performAll_append] at this
      exact this
  refine ⟨?_, ?_, ?_⟩
  · intro e he
    obtain ⟨earlier, later, hsplit⟩ := List.append_of_mem he
    exact (deed_going _ (inner earlier e later hsplit)).1
  · intro earlier e later hsplit hstep
    obtain ⟨l, hl⟩ := (deed_going _ (inner earlier e later hsplit)).2 hstep
    exact ⟨l, (s.performAll_stepOnce earlier e.now e.random).symm.trans hl⟩
  · rw [performAll_append] at h
    have before := going deeds d [] rfl
    have closing := deed_closes (s.performAll deeds).settled ((settled_result _).trans before) h
    rw [performAll_stepOnce] at closing
    exact closing

end Serial

end Chip8
