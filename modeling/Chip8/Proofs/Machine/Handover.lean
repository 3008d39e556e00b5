import Chip8.Proofs.Machine.Lifecycle

/-!
# Handing key events over

A key event is queued, then taken from the queue together with every other event that waits there,
and later applied to the keypad. A `Batch` is what was taken at once. Between the two actions it
is in the hands of whoever took it: of a step in progress, or of the keys activity.

A `Handover` is what one action does in this respect: the batch it takes, if any, and the batch it
applies, if any. The two laws of this file say, for every action of a call (`advance_conveys`) and
of an activity (`act_conveys`), that the queue loses exactly what was taken, and that the keypad
sees exactly what was applied. Who holds what afterwards is the business of `advance_hands`,
`advance_machine_hands` and `act_hands`.

No law here speaks of two actions, so nothing is said about order. That depends on who acts when.
-/

set_option autoImplicit false

namespace Chip8

/-- Key events that were taken from the queue together. -/
abbrev Batch := List KeyEvent

/-- What one action takes from the queue, and what it applies to the keypad. -/
structure Handover where
  taken : List Batch
  applied : List Batch

namespace Handover

def nothing : Handover := ⟨[], []⟩

end Handover

namespace KeysPhase

/-- The batch that was taken and not yet applied, if there is one. -/
def hands : KeysPhase → List Batch
  | .holding events => [events]
  | _ => []

end KeysPhase

namespace Progress

def hands : Progress → List Batch
  | .stepHolding events => [events]
  | _ => []

/-- What the next action of a call hands over, while `queue` waits. -/
def handover (queue : Batch) : Progress → Handover
  | .step => ⟨[queue], []⟩
  | p => ⟨[], p.hands⟩

theorem hands_of_isLifecycle {p : Progress} (h : p.isLifecycle = true) : p.hands = [] := by
  cases p with
  | stepHolding => cases h
  | _ => rfl

theorem handover_of_isLifecycle {p : Progress} (h : p.isLifecycle = true) (queue : Batch) :
    p.handover queue = Handover.nothing := by
  cases p with
  | step | stepHolding | sending => cases h
  | run | halting | joining | spawning | returned => rfl

end Progress

namespace Activities

def handover (a : Activities) (queue : Batch) : Actor → Handover
  | .keys =>
    match a.keys with
    | .due => ⟨[queue], []⟩
    | phase => ⟨[], phase.hands⟩
  | _ => Handover.nothing

theorem hands_of_allFinished {a : Activities} (h : a.allFinished = true) : a.keys.hands = [] := by
  unfold allFinished at h
  split at h
  · next hk => rw [hk]; rfl
  · cases h

end Activities

/-- What an action does to the queue and to the keypad, given what it hands over. -/
structure Conveys (now : Nat) (m m' : Machine) (h : Handover) : Prop where
  queue : h.taken.flatten ++ m'.queue = m.queue
  keypad : m'.state.keypad
    = m.state.keypad.replay m.config.keyRelease (h.applied.map fun batch => (now, batch))
  config : m'.config = m.config

namespace Conveys

variable {now : Nat} {m m' : Machine}

theorem idle (hqueue : m'.queue = m.queue) (hkeypad : m'.state.keypad = m.state.keypad)
    (hconfig : m'.config = m.config) : Conveys now m m' Handover.nothing :=
  ⟨hqueue, hkeypad, hconfig⟩

end Conveys

namespace Machine

def hands (m : Machine) : List Batch :=
  match m.activities with
  | none => []
  | some a => a.keys.hands

def handover (m : Machine) (actor : Actor) : Handover :=
  match m.activities with
  | none => Handover.nothing
  | some a => a.handover m.queue actor

theorem hands_of_activities {m m' : Machine} (h : m'.activities = m.activities) :
    m'.hands = m.hands := by
  rw [hands, hands, h]

/-! ## Calls -/

namespace Course

variable {m m' : Machine} {p q : Progress}

theorem conveys (h : Course m p m' q) (now : Nat) : Conveys now m m' Handover.nothing := by
  cases h <;> exact Conveys.idle rfl rfl rfl

/-- **A call takes nothing out of the hands of the keys activity**: a run is ended once that
activity is done, and begun when there is none. -/
theorem hands (h : Course m p m' q) (hspawn : p = .spawning → m.activities = none) :
    m'.hands = m.hands := by
  cases h with
  | halts ha => simp only [Machine.hands, raiseHalt, log, ha, Option.map_some]
  | reaps ha hdone | collects ha hdone =>
    simp only [Machine.hands, ha, Activities.hands_of_allFinished hdone]
  | spawns =>
    have hnone := hspawn rfl
    simp only [Machine.hands, spawn, log, hnone]
    rfl
  | _ => rfl

end Course

/-- **What a call's action does to the queue and to the keypad.** -/
theorem advance_conveys (now : Nat) (random : UInt8) (m : Machine) (p : Progress) :
    Conveys now m (m.advance now random p).1 (p.handover m.queue) := by
  cases p with
  | step => exact ⟨by simp [Progress.handover, advance, takeKeys], rfl, rfl⟩
  | stepHolding events =>
    -- the instruction comes after the events, and leaves the keypad as they made it
    refine ⟨rfl, ?_, rfl⟩
    show ((m.refreshKeys now events).1.execute random).1.state.keypad = _
    rw [execute_keypad, refreshKeys_keypad]
    rfl
  | sending pending result =>
    cases pending with
    | nil => exact Conveys.idle rfl rfl rfl
    | cons u rest =>
      exact Conveys.idle (m.notify_queue u) (by simp [advance]) (m.notify_config u)
  | run | halting | joining | spawning | returned =>
    exact (m.advance_course now random rfl).conveys now

theorem advance_hands (now : Nat) (random : UInt8) (m : Machine) (p : Progress) :
    (m.advance now random p).2.hands = (p.handover m.queue).taken := by
  cases p with
  | step | stepHolding => rfl
  | sending pending result => cases pending <;> rfl
  | run | halting | joining | spawning | returned =>
    exact Progress.hands_of_isLifecycle (m.advance_course now random rfl).isLifecycle

theorem advance_machine_hands (now : Nat) (random : UInt8) (m : Machine) {p : Progress}
    (h : p = .spawning → m.activities = none) : (m.advance now random p).1.hands = m.hands := by
  cases p with
  | step | stepHolding | sending =>
    exact hands_of_activities (advance_activities now random m rfl)
  | run | halting | joining | spawning | returned =>
    exact (m.advance_course now random rfl).hands h

/-! ## Activities -/

theorem actCpu_conveys (now : Nat) (random : UInt8) (m : Machine) (a : Activities) :
    Conveys now m (m.actCpu random a) Handover.nothing := by
  have executed := m.execute_keypad random
  unfold actCpu
  split
  · split <;> exact Conveys.idle rfl rfl rfl
  · dsimp only
    split <;> exact Conveys.idle rfl executed rfl
  · next u rest fault _ =>
    exact Conveys.idle (m.notify_queue u) (congrArg State.keypad (m.notify_state u))
      (m.notify_config u)
  · exact Conveys.idle rfl rfl rfl
  · exact Conveys.idle rfl rfl rfl
  · exact Conveys.idle rfl rfl rfl

theorem actTimers_conveys (now : Nat) (m : Machine) (a : Activities) :
    Conveys now m (m.actTimers a) Handover.nothing := by
  unfold actTimers
  split
  · split <;> exact Conveys.idle rfl rfl rfl
  · exact Conveys.idle rfl rfl rfl
  · exact Conveys.idle rfl rfl rfl

theorem actKeys_conveys (now : Nat) (m : Machine) (a : Activities) :
    Conveys now m (m.actKeys now a) (a.handover m.queue .keys) := by
  unfold actKeys Activities.handover
  cases a.keys with
  | resting =>
    dsimp only
    split <;> exact Conveys.idle rfl rfl rfl
  | due => exact ⟨by simp [takeKeys], rfl, rfl⟩
  | holding events => exact ⟨rfl, m.refreshKeys_keypad now events, rfl⟩
  | sending =>
    exact Conveys.idle (m.notify_queue .keys) (congrArg State.keypad (m.notify_state .keys))
      (m.notify_config .keys)
  | finished => exact Conveys.idle rfl rfl rfl

/-- **What an activity's action does to the queue and to the keypad.** -/
theorem act_conveys (now : Nat) (random : UInt8) (m : Machine) (actor : Actor) :
    Conveys now m (m.act now random actor) (m.handover actor) := by
  unfold act handover
  cases m.activities with
  | none => exact Conveys.idle rfl rfl rfl
  | some a =>
    cases actor with
    | cpu => exact actCpu_conveys now random m a
    | timers => exact actTimers_conveys now m a
    | keys => exact actKeys_conveys now m a

theorem actCpu_activities (random : UInt8) {m : Machine} {a : Activities}
    (h : m.activities = some a) :
    ∃ b, (m.actCpu random a).activities = some b ∧ b.keys = a.keys := by
  unfold actCpu
  split
  · split <;> exact ⟨_, rfl, rfl⟩
  · dsimp only
    split <;> exact ⟨_, rfl, rfl⟩
  · exact ⟨_, rfl, rfl⟩
  · exact ⟨_, rfl, rfl⟩
  · exact ⟨_, rfl, rfl⟩
  · exact ⟨a, h, rfl⟩

theorem actTimers_activities {m : Machine} {a : Activities} (h : m.activities = some a) :
    ∃ b, (m.actTimers a).activities = some b ∧ b.keys = a.keys := by
  unfold actTimers
  split
  · split <;> exact ⟨_, rfl, rfl⟩
  · exact ⟨_, rfl, rfl⟩
  · exact ⟨a, h, rfl⟩

/-- What the keys activity took is in its hands, and nothing else is. -/
theorem actKeys_activities (now : Nat) {m : Machine} {a : Activities} (h : m.activities = some a) :
    ∃ b, (m.actKeys now a).activities = some b
      ∧ b.keys.hands = (a.handover m.queue .keys).taken := by
  unfold actKeys Activities.handover
  cases hk : a.keys with
  | resting =>
    dsimp only
    split <;> exact ⟨_, rfl, by simp only [KeysPhase.hands]⟩
  | due => exact ⟨_, rfl, rfl⟩
  | holding events =>
    refine ⟨_, rfl, ?_⟩
    dsimp only
    split <;> rfl
  | sending => exact ⟨_, rfl, rfl⟩
  | finished => exact ⟨a, h, by rw [hk]; rfl⟩

/-- An activity neither begins nor gives up a run. -/
theorem act_activities_eq_none (now : Nat) (random : UInt8) (m : Machine) (actor : Actor) :
    (m.act now random actor).activities = none ↔ m.activities = none := by
  cases ha : m.activities with
  | none => simp only [act, ha]
  | some a =>
    have some : ∃ b, (m.act now random actor).activities = some b := by
      cases actor with
      | cpu =>
        obtain ⟨b, hb, -⟩ := actCpu_activities random ha
        exact ⟨b, by simp only [act, ha, hb]⟩
      | timers =>
        obtain ⟨b, hb, -⟩ := actTimers_activities ha
        exact ⟨b, by simp only [act, ha, hb]⟩
      | keys =>
        obtain ⟨b, hb, -⟩ := actKeys_activities now ha
        exact ⟨b, by simp only [act, ha, hb]⟩
    obtain ⟨b, hb⟩ := some
    rw [hb]
    exact ⟨fun h => (by cases h), fun h => (by cases h)⟩

/-- **What was in the hands of the keys activity stays there until it is applied.** -/
theorem act_hands (now : Nat) (random : UInt8) (m : Machine) (actor : Actor) :
    ((m.handover actor).taken ++ m.hands).Perm
      ((m.handover actor).applied ++ (m.act now random actor).hands) := by
  cases ha : m.activities with
  | none => simp only [handover, hands, act, ha]; exact .refl _
  | some a =>
    simp only [handover, hands, act, ha]
    cases actor with
    | cpu =>
      obtain ⟨b, hb, kept⟩ := actCpu_activities random ha
      simp only [hb, kept]
      exact .refl _
    | timers =>
      obtain ⟨b, hb, kept⟩ := actTimers_activities ha
      simp only [hb, kept]
      exact .refl _
    | keys =>
      obtain ⟨b, hb, taken⟩ := actKeys_activities now ha
      have given : (a.handover m.queue .keys).applied = a.keys.hands := by
        unfold Activities.handover
        cases a.keys <;> rfl
      simp only [hb, taken, given]
      exact List.perm_append_comm

end Machine

end Chip8
