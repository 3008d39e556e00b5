import Chip8.Machine.Calls
import Chip8.Proofs.Interpreter.Fault
import Chip8.Proofs.Machine.Lifecycle

/-!
# What becomes of a fault

The cpu activity that meets a fault carries it: first while it sends the update that tells of it,
then as what it finished with. This file says what an action can do to a fault that was met, and
to what is known of it.

Most actions do nothing to either (`Quiet`). They leave alone what the next instruction fails
with, what the cpu carries and whether there is a run; they add no fault update to those on their
way; and they raise the halt flag only where the cpu carries a fault. Actions that execute an
instruction are the exception, and for them `stuck_execute` says the one thing that matters: a
fault that was met once is what every later instruction comes to. Beginning, halting and giving up
a run are left to whoever does it.
-/

set_option autoImplicit false

namespace Chip8

namespace Update

def isFault : Update → Bool
  | fault _ => true
  | _ => false

theorem isFault_ofStep {outcome : Except StackFault Executed} {u : Update}
    (h : u ∈ ofStep outcome) : u.isFault = false := by
  cases outcome with
  | error fault =>
    -- the update that tells of the fault is left to who executed the instruction
    cases h
  | ok done =>
    rcases List.mem_append.mp h with h | h
    · split at h
      · rw [List.mem_singleton.mp h]; rfl
      · cases h
    · rw [List.mem_singleton.mp h]; rfl

end Update

namespace Frontend

/-- What waits after a send waited before or is what was sent. -/
theorem mem_waiting_send {f : Frontend} {u v : Update} (h : v ∈ (f.send u).waiting) :
    v ∈ f.waiting ∨ v = u := by
  unfold send at h
  cases hc : f.channel with
  | none =>
    rw [hc] at h
    exact .inl h
  | some channel =>
    rw [hc] at h
    simp only [waiting, hc, Channel.waiting_offer] at h ⊢
    split at h
    · rcases List.mem_append.mp h with h | h
      · exact .inl h
      · exact .inr (List.mem_singleton.mp h)
    · exact .inl h

theorem mem_waiting_receive {f f' : Frontend} {u : Update} (h : f.receive = some (u, f')) :
    u ∈ f.waiting ∧ ∀ v ∈ f'.waiting, v ∈ f.waiting := by
  unfold receive at h
  split at h
  · cases h
  · next channel hc =>
    split at h
    · cases h
    · next u rest hw =>
      cases h
      simp only [waiting, hc, hw]
      exact ⟨List.mem_cons_self .., fun v hv => List.mem_cons_of_mem _ hv⟩

end Frontend

namespace Activities

/-- The fault that the cpu met, from the moment it met it. -/
def carries (a : Activities) : Option StackFault :=
  match a.cpu with
  | .sending _ fault => fault
  | .finished fault => fault
  | _ => none

/-- What the cpu carries is what a finished run is given up with. -/
theorem carries_of_allFinished {a : Activities} (h : a.allFinished = true) :
    a.carries = a.fault := by
  unfold allFinished at h
  split at h
  · next hcpu _ _ => rw [fault, carries, hcpu]
  · cases h

def pending (a : Activities) : List Update :=
  match a.cpu with
  | .sending pending _ => pending
  | _ => []

end Activities

namespace Machine

/-- The fault that the cpu of a run met, if there is a run and it did. -/
def carries (m : Machine) : Option StackFault := m.activities.bind Activities.carries

theorem carries_of_stopped {m : Machine} (h : m.activities = none) : m.carries = none := by
  rw [carries, h]
  rfl

/-- The updates that wait to be read or that the cpu is about to send. -/
def announced (m : Machine) : List Update :=
  m.frontend.waiting ++
    match m.activities with
    | none => []
    | some a => a.pending

/-- An action that executes nothing, and tells of a fault only what is known of it already. -/
structure Quiet (m m' : Machine) : Prop where
  stuck : m'.state.stuck? = m.state.stuck?
  carries : m'.carries = m.carries
  announced : ∀ u ∈ m'.announced, u.isFault = true → u ∈ m.announced
  halted : m'.hasHalted = true → m.hasHalted = true ∨ m'.carries.isSome = true
  none : m'.activities = none ↔ m.activities = none

namespace Quiet

/-- An action that leaves the activities alone, and of the state what decides the next fault. -/
theorem of_activities {m m' : Machine} (hstuck : m'.state.stuck? = m.state.stuck?)
    (hactivities : m'.activities = m.activities)
    (hwaiting : ∀ u ∈ m'.frontend.waiting, u.isFault = true → u ∈ m.frontend.waiting) :
    Quiet m m' := by
  refine ⟨hstuck, ?_, ?_, ?_, by rw [hactivities]⟩
  · rw [Machine.carries, Machine.carries, hactivities]
  · intro u hu hf
    rw [Machine.announced, hactivities] at hu
    rcases List.mem_append.mp hu with hu | hu
    · exact List.mem_append_left _ (hwaiting u hu hf)
    · exact List.mem_append_right _ hu
  · intro h
    rw [hasHalted, hactivities] at h
    exact .inl h

theorem refl (m : Machine) : Quiet m m := of_activities rfl rfl fun _ hu _ => hu

/-- An action of an activity, from one phase to another, that carries and announces the same. -/
theorem of_phase {m m' : Machine} {a b : Activities} (ha : m.activities = some a)
    (hb : m'.activities = some b) (hstuck : m'.state.stuck? = m.state.stuck?)
    (hcarries : b.carries = a.carries)
    (hannounced : ∀ u, u.isFault = true → u ∈ m'.frontend.waiting ∨ u ∈ b.pending →
      u ∈ m.frontend.waiting ∨ u ∈ a.pending)
    (hhalt : b.halt = true → a.halt = true ∨ b.carries.isSome = true) : Quiet m m' := by
  refine ⟨hstuck, ?_, ?_, ?_, ?_⟩
  · simp only [Machine.carries, ha, hb, Option.bind_some, hcarries]
  · intro u hu hf
    simp only [Machine.announced, ha, hb, List.mem_append] at hu ⊢
    exact hannounced u hf hu
  · intro h
    simp only [hasHalted, hb] at h
    simp only [hasHalted, Machine.carries, ha, hb, Option.bind_some]
    exact hhalt h
  · rw [ha, hb]
    exact ⟨nofun, nofun⟩

end Quiet

/-! ## Actions that execute nothing -/

theorem notify_quiet (m : Machine) {u : Update} (h : u.isFault = false) :
    Quiet m (m.notify u) := by
  refine Quiet.of_activities (congrArg State.stuck? (m.notify_state u)) (m.notify_activities u) ?_
  intro v hv hf
  rw [notify_frontend] at hv
  rcases Frontend.mem_waiting_send hv with hv | rfl
  · exact hv
  · rw [h] at hf; cases hf

theorem refreshKeys_quiet (now : Nat) (events : List KeyEvent) (m : Machine) :
    Quiet m (m.refreshKeys now events).1 :=
  Quiet.of_activities (State.stuck?_of_same rfl rfl rfl) rfl fun _ hu _ => hu

theorem takeKeys_quiet (m : Machine) : Quiet m m.takeKeys.2 :=
  Quiet.of_activities rfl rfl fun _ hu _ => hu

theorem actTimers_quiet {m : Machine} {a : Activities} (ha : m.activities = some a) :
    Quiet m (m.actTimers a) := by
  unfold actTimers
  split
  · split <;> exact Quiet.of_phase ha rfl rfl rfl (fun _ _ hu => hu) .inl
  · exact Quiet.of_phase ha rfl (State.stuck?_of_same rfl rfl rfl) rfl (fun _ _ hu => hu) .inl
  · exact Quiet.refl m

theorem actKeys_quiet (now : Nat) {m : Machine} {a : Activities} (ha : m.activities = some a) :
    Quiet m (m.actKeys now a) := by
  unfold actKeys
  split
  · split <;> exact Quiet.of_phase ha rfl rfl rfl (fun _ _ hu => hu) .inl
  · exact Quiet.of_phase ha rfl rfl rfl (fun _ _ hu => hu) .inl
  · exact Quiet.of_phase ha rfl (State.stuck?_of_same rfl rfl rfl) rfl (fun _ _ hu => hu) .inl
  · refine Quiet.of_phase ha rfl (congrArg State.stuck? (m.notify_state .keys)) rfl ?_ .inl
    intro u hf hu
    refine hu.imp_left fun hu => ?_
    dsimp only at hu
    rw [notify_frontend] at hu
    rcases Frontend.mem_waiting_send hu with hu | rfl
    · exact hu
    · cases hf
  · exact Quiet.refl m

/-- Unless it executes an instruction, the cpu only moves on what it carries and sends. -/
theorem actCpu_quiet (random : UInt8) {m : Machine} {a : Activities} (ha : m.activities = some a)
    (hdue : a.cpu ≠ .due) : Quiet m (m.actCpu random a) := by
  unfold actCpu
  split
  · next hcpu =>
    have carries : a.carries = none := by rw [Activities.carries, hcpu]
    have pending : a.pending = [] := by rw [Activities.pending, hcpu]
    split
    · refine Quiet.of_phase ha rfl rfl carries.symm (fun u _ hu => ?_) .inl
      rw [pending]; exact hu
    · refine Quiet.of_phase ha rfl rfl carries.symm (fun u _ hu => ?_) .inl
      rw [pending]; exact hu
  · next hcpu => exact absurd hcpu hdue
  · next u rest fault hcpu =>
    -- the update goes from those pending to those waiting, if the channel has room for it
    refine Quiet.of_phase ha rfl (congrArg State.stuck? (m.notify_state u)) ?_ ?_ .inl
    · simp only [Activities.carries, hcpu]
    · intro v _ hv
      simp only [notify_frontend, Activities.pending, hcpu] at hv ⊢
      rcases hv with hv | hv
      · rcases Frontend.mem_waiting_send hv with hv | rfl
        · exact .inl hv
        · exact .inr (List.mem_cons_self ..)
      · exact .inr (List.mem_cons_of_mem _ hv)
  · next hcpu =>
    refine Quiet.of_phase ha rfl rfl ?_ (fun u _ hu => ?_) .inl
    · simp only [Activities.carries, hcpu]
    · simp only [Activities.pending, hcpu]; exact hu
  · next fault hcpu =>
    -- the one place where the flag is raised, and the cpu carries the fault by then
    refine Quiet.of_phase ha rfl rfl ?_ (fun u _ hu => ?_) fun _ => .inr rfl
    · simp only [Activities.carries, hcpu]
    · simp only [Activities.pending, hcpu]; exact hu
  · exact Quiet.refl m

/-! ## Actions that execute an instruction -/

/-- **A fault that was met is what every later instruction comes to.** -/
theorem stuck_execute {m : Machine} {f : StackFault} (h : m.state.stuck? = some f)
    (random : UInt8) :
    (m.execute random).2 = .error f ∧ (m.execute random).1.state.stuck? = some f :=
  ⟨(State.step_error_iff m.interpreter.advancesIndex random).mpr h,
    State.stuck?_step h m.interpreter.advancesIndex random⟩

theorem stuck?_of_execute {m : Machine} {random : UInt8} {f : StackFault}
    (h : (m.execute random).2 = .error f) : m.state.stuck? = some f :=
  (State.step_error_iff m.interpreter.advancesIndex random).mp h

end Machine

/-! ## Calls -/

namespace Progress

/-- The fault that a call is about to return. -/
def carries : Progress → Option StackFault
  | .sending _ (.error fault) => some fault
  | .returned (.error fault) => some fault
  | _ => none

def pending : Progress → List Update
  | .sending pending _ => pending
  | _ => []

def isJoining : Progress → Bool
  | .joining _ => true
  | _ => false

theorem pending_of_isLifecycle {p : Progress} (h : p.isLifecycle = true) : p.pending = [] := by
  cases p with
  | sending => cases h
  | _ => rfl

end Progress

namespace Machine

/-- A call sends no update that tells of a fault. -/
theorem advance_pending (now : Nat) (random : UInt8) (m : Machine) {call : Progress}
    (h : ∀ u ∈ call.pending, u.isFault = false) :
    ∀ u ∈ (m.advance now random call).2.pending, u.isFault = false := by
  cases call with
  | step => exact nofun
  | stepHolding events =>
    have keys (changed : Bool) :
        ∀ u ∈ (if changed then [Update.keys] else []), u.isFault = false := by
      cases changed <;> simp [Update.isFault]
    intro u hu
    rcases List.mem_append.mp hu with hu | hu
    · exact keys _ u hu
    · exact Update.isFault_ofStep hu
  | sending pending result =>
    cases pending with
    | nil => exact nofun
    | cons u rest => exact fun v hv => h v (List.mem_cons_of_mem _ hv)
  | run | halting | joining | spawning | returned =>
    rw [Progress.pending_of_isLifecycle (m.advance_course now random rfl).isLifecycle]
    exact nofun

/-- A step carries the fault that its instruction meets. -/
theorem advance_carries (now : Nat) (random : UInt8) (m : Machine) (events : List KeyEvent) :
    (m.advance now random (.stepHolding events)).2.carries =
      match ((m.refreshKeys now events).1.execute random).2 with
      | .ok _ => none
      | .error fault => some fault := by
  have sending (updates : List Update) (outcome : Except StackFault Executed) :
      (Progress.sending updates (outcome.map fun _ => ())).carries =
        match outcome with
        | .ok _ => none
        | .error fault => some fault := by
    cases outcome <;> rfl
  exact sending _ _

end Machine

/-! ## Machines that were never run -/

namespace Machine

/-- A machine without a run, of which no update that waits tells of a fault. -/
structure Fresh (m : Machine) : Prop where
  stopped : m.activities = none
  untold : ∀ u ∈ m.frontend.waiting, u.isFault = false

namespace Fresh

theorem announced {m : Machine} (h : m.Fresh) : m.announced = m.frontend.waiting := by
  rw [Machine.announced, h.stopped]
  exact List.append_nil _

theorem quiet {m m' : Machine} (h : m.Fresh) (hq : Quiet m m') : m'.Fresh := by
  refine ⟨hq.none.mpr h.stopped, ?_⟩
  intro u hu
  cases hf : u.isFault with
  | false => rfl
  | true =>
    have known := hq.announced u (List.mem_append_left _ hu) hf
    rw [h.announced] at known
    rw [h.untold u known] at hf
    cases hf

theorem new (config : Config) (capacity : Nat) (threshold : Option Level) :
    (Machine.new config (Frontend.ofCapacity capacity) threshold).Fresh :=
  ⟨rfl, nofun⟩

theorem load {m : Machine} (h : m.Fresh) (source : Source) : (m.load source).1.Fresh := by
  have replaced : (m.replaceProgram source).1.Fresh := ⟨h.stopped, h.untold⟩
  unfold Machine.load
  generalize m.replaceProgram source = replacement at replaced ⊢
  obtain ⟨m', result⟩ := replacement
  cases result with
  | error e => exact replaced
  | ok length =>
    have displayed := replaced.quiet (m'.notify_quiet (u := .display) rfl)
    exact displayed.quiet (Machine.notify_quiet _ rfl)

end Fresh

end Machine

end Chip8
