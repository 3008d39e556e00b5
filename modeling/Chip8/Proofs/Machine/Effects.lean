import Chip8.Machine.Progress
import Chip8.Proofs.Interpreter.Frame

/-!
# What an action leaves alone

Every action of a call or of an activity is built from a few primitives of `Machine`, and each of
them writes little. This file says for the two that are not read off by `rfl` what they write:
`notify`, which may or may not note a dropped update, and `execute`, which runs any instruction
and never touches the keypad.

Keys come up and go down through `Machine.refreshKeys` only. What it does to the keypad is a
replay (`Keypad.replay`) of the one batch of events it is given.
-/

set_option autoImplicit false

namespace Chip8

namespace Machine

variable (m : Machine) (u : Update)

@[simp] theorem notify_interpreter : (m.notify u).interpreter = m.interpreter := by
  unfold notify; split <;> rfl

@[simp] theorem notify_state : (m.notify u).state = m.state := by
  unfold notify; split <;> rfl

@[simp] theorem notify_queue : (m.notify u).queue = m.queue := by
  unfold notify; split <;> rfl

@[simp] theorem notify_config : (m.notify u).config = m.config := by
  unfold notify; split <;> rfl

@[simp] theorem notify_activities : (m.notify u).activities = m.activities := by
  unfold notify; split <;> rfl

@[simp] theorem notify_frontend : (m.notify u).frontend = m.frontend.send u := by
  unfold notify; split <;> rfl

end Machine

namespace State

/-- No step writes the keypad, whether it fails or not. -/
theorem step_keypad (s : State) (advances : Bool) (random : UInt8) :
    (s.step advances random).1.keypad = s.keypad :=
  (s.step_footprint advances random).keypad

end State

namespace Keypad

/-- The keypad after events that come all at one moment, the first one first. -/
def applyAll (now : Nat) (events : List KeyEvent) (k : Keypad) : Keypad :=
  events.foldl (fun k e => (k.apply e now).1) k

/-- The keypad once keys were given the chance to expire; with no `window` they never do. -/
def settle (window : Option Nat) (now : Nat) (k : Keypad) : Keypad :=
  match window with
  | none => k
  | some window => (k.expire window now).1

/-- The keypad after batches of events, each with the moment it came at. -/
def replay (window : Option Nat) (batches : List (Nat × List KeyEvent)) (k : Keypad) : Keypad :=
  batches.foldl (fun k b => (k.applyAll b.1 b.2).settle window b.1) k

theorem replay_append (window : Option Nat) (before after : List (Nat × List KeyEvent))
    (k : Keypad) :
    k.replay window (before ++ after) = (k.replay window before).replay window after := by
  rw [replay, replay, replay, List.foldl_append]

/-- A refresh applies every event it is given once, in order, and then lets keys expire. -/
theorem refresh_keypad (window : Option Nat) (now : Nat) (events : List KeyEvent) (k : Keypad) :
    (k.refresh window now events).1 = (k.applyAll now events).settle window now := by
  have applied : ∀ (es : List KeyEvent) (k : Keypad) (c : Bool),
      (es.foldl (fun x e => ((x.1.apply e now).1, x.2 || (x.1.apply e now).2)) (k, c)).1
        = k.applyAll now es := by
    intro es
    induction es with
    | nil => intro k c; rfl
    | cons e es ih => intro k c; exact ih _ _
  unfold refresh settle
  cases window with
  | none => exact applied events k false
  | some window => simp only [applied events k false]

end Keypad

namespace Machine

/-- **Keys are refreshed by replaying one batch.** -/
theorem refreshKeys_keypad (now : Nat) (events : List KeyEvent) (m : Machine) :
    (m.refreshKeys now events).1.state.keypad
      = m.state.keypad.replay m.config.keyRelease [(now, events)] :=
  m.state.keypad.refresh_keypad m.config.keyRelease now events

@[simp] theorem execute_keypad (random : UInt8) (m : Machine) :
    (m.execute random).1.state.keypad = m.state.keypad :=
  m.state.step_keypad m.interpreter.advancesIndex random

end Machine

end Chip8
