import Chip8.Proofs.Machine.Shared

/-!
# No key event is lost or applied twice

For every list of moves of a shared machine, the events sent so far are the events in the queue,
the events in somebody's hands and the events applied, each as often as it was sent. A run that
is halted by a fault or ended by a call makes no difference: an activity looks at the halt flag
only between two ticks, when its hands are empty, and a step that faults has applied what it took
before it executes anything.

Nothing is said here about the order in which events are applied, and nothing about when. An event
may wait in the queue for ever if nobody takes it.
-/

set_option autoImplicit false

namespace Chip8

namespace Shared

/-- The event that a turn sends, if it sends one. -/
def Turn.sends (t : Turn) : List KeyEvent :=
  match t.move with
  | .send e => [e]
  | _ => []

theorem act_sent (s : Shared) (t : Turn) : (s.act t).sent = s.sent ++ t.sends := by
  unfold act moved Turn.sends
  cases t.move with
  | send e => rfl
  | step earlier =>
    dsimp only
    split <;> exact (List.append_nil _).symm
  | call c =>
    dsimp only
    split <;> exact (List.append_nil _).symm
  | enter | owner | activity => exact (List.append_nil _).symm

theorem run_sent (s : Shared) (turns : List Turn) :
    (s.run turns).sent = s.sent ++ turns.flatMap Turn.sends := by
  induction turns generalizing s with
  | nil => exact (List.append_nil _).symm
  | cons t turns ih => rw [run_cons, ih, act_sent, List.flatMap_cons, List.append_assoc]

/-- Nobody holds a batch once every step has returned and the activities are gone. -/
theorem hands_eq_nil {s : Shared} (hsteps : ∀ p ∈ s.steps, p.isReturned = true)
    (hnone : s.machine.activities = none) : s.hands = [] := by
  have idle : s.steps.flatMap Progress.hands = [] := by
    refine List.flatMap_eq_nil_iff.mpr ?_
    intro p hp
    cases p with
    | stepHolding => cases hsteps _ hp
    | _ => rfl
  rw [hands, idle, Machine.hands, hnone]
  rfl

/-- What was sent is in the queue, in somebody's hands, or applied. -/
theorem Custody.sent_perm {m : Machine} {s : Shared} (custody : Custody m s) :
    s.sent.Perm (s.machine.queue ++ s.hands.flatten ++ s.appliedEvents) := by
  have batches := custody.taken.flatten
  rw [List.flatten_append] at batches
  rw [← custody.sent, List.append_assoc]
  refine List.perm_append_comm.trans (List.Perm.append_left _ ?_)
  exact batches.trans List.perm_append_comm

/-- **No key event is lost or applied twice.** Let a stopped machine be used in any way. The events
that waited at first and those sent since are, as often as they were sent, the events that wait
in the queue, the events that somebody took and did not apply yet, and the events that were
applied; and the keypad is what applying those makes of it. Once a stop has returned and no step is
in progress, every event waits or was applied. -/
theorem key_events_conserved (m : Machine) (h : m.activities = none) (turns : List Turn) :
    let s := (start m).run turns
    (m.queue ++ turns.flatMap Turn.sends).Perm
        (s.machine.queue ++ s.hands.flatten ++ s.appliedEvents)
      ∧ s.machine.state.keypad = m.state.keypad.replay m.config.keyRelease s.applied
      ∧ (s.last = .stop → s.owner.isReturned = true →
          (∀ p ∈ s.steps, p.isReturned = true) →
          (m.queue ++ turns.flatMap Turn.sends).Perm (s.machine.queue ++ s.appliedEvents)) := by
  intro s
  obtain ⟨placed, custody⟩ := run_custody h turns
  have sent : s.sent = m.queue ++ turns.flatMap Turn.sends := run_sent (start m) turns
  have conserved := custody.sent_perm
  rw [sent] at conserved
  refine ⟨conserved, custody.keypad, ?_⟩
  intro hlast howner hsteps
  have hnone : s.machine.activities = none := by
    rcases placed.stopped hlast with hp | hp | ⟨-, hnone⟩
    · rw [hp] at howner; cases howner
    · rw [hp] at howner; cases howner
    · exact hnone
  have empty : s.hands = [] := hands_eq_nil hsteps hnone
  rw [empty] at conserved
  simpa only [List.flatten_nil, List.append_nil] using conserved

/-- A stopped machine whose program is a single return, so that its first instruction faults. -/
def returning : Machine :=
  ((Machine.new {} (Frontend.ofCapacity 4) none).replaceProgram ⟨[0x00, 0xEE], none⟩).1

/-- A run that faults while the keys activity and a step hold one event each, and is then stopped.
The last event comes too late for anybody. -/
def faultedRun : List Turn :=
  [.send (.press 1), .call .run, .owner, .owner, .activity .keys, .activity .keys,
    .send (.release 1), .activity .cpu, .activity .cpu, .enter, .step 0, .activity .cpu,
    .activity .cpu, .call .stop, .owner, .step 0, .activity .keys, .activity .keys, .activity .keys,
    .activity .timers, .owner, .step 0, .step 0, .step 0, .send (.press 2)].map fun move =>
    ⟨0, 0, move⟩

theorem key_events_conserved_faultedRun :
    let s := (start returning).run faultedRun
    returning.activities = none
      ∧ (s.last = .stop ∧ s.owner.isReturned = true ∧ s.steps.all Progress.isReturned = true)
      ∧ (returning.queue ++ faultedRun.flatMap Turn.sends).Perm
          (s.machine.queue ++ s.appliedEvents) := by
  have stopped : returning.activities = none := by decide +kernel
  have hlast : ((start returning).run faultedRun).last = .stop := by decide +kernel
  have howner : ((start returning).run faultedRun).owner.isReturned = true := by decide +kernel
  have hsteps : ((start returning).run faultedRun).steps.all Progress.isReturned = true := by
    decide +kernel
  exact ⟨stopped, ⟨hlast, howner, hsteps⟩,
    (key_events_conserved returning stopped faultedRun).2.2 hlast howner
      (List.all_eq_true.mp hsteps)⟩

end Shared

end Chip8
