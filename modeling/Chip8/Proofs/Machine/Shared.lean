import Chip8.Proofs.Machine.Handover

/-!
# A machine that is shared

A machine is used from several sides at once. Anybody may send key events and make single steps,
one owner begins and ends runs, and during a run the three activities act. `Shared` is a machine
with every call that is in progress, and `Shared.act` is one move of one side: a key event, the
beginning of a call, the next action of a call, or the next action of an activity. A statement
about every list of moves is a statement about every interleaving.

Three components are a record and decide nothing: every event that was `sent`, every batch that
was `taken` from the queue, and every batch that was `applied`, with the moment it was. What
keeps the record honest is `Custody`: what is recorded as sent and not as taken is in the queue,
what is recorded as taken and not as applied is in somebody's hands, and the keypad is what the
record says was applied.

The owner is alone: a second call waits for the first one to return. Two runs begun at a time
would forget the activities of one of them, and the batch in their hands with it. Steps are
under no such restriction.
-/

set_option autoImplicit false

namespace Chip8

/-- A call that begins or ends a run. -/
inductive Call where
  | run | stop
  deriving DecidableEq, Repr

def Call.first : Call → Progress
  | .run => .run
  | .stop => .stop

structure Shared where
  machine : Machine
  /-- every step that was begun, in that order -/
  steps : List Progress
  /-- the owner's call, once it has returned the last one -/
  owner : Progress
  /-- what the owner's call was begun as -/
  last : Call
  sent : List KeyEvent
  taken : List Batch
  applied : List (Nat × Batch)

namespace Shared

/-- One move of one side. -/
inductive Move where
  | send (event : KeyEvent)
  /-- somebody begins a step -/
  | enter
  /-- the next action of the step that was begun after so many others -/
  | step (earlier : Nat)
  /-- the owner makes a call, unless the last one has not returned yet -/
  | call (call : Call)
  /-- the next action of the owner's call -/
  | owner
  | activity (actor : Actor)
  deriving DecidableEq, Repr

/-- A move with its moment, and the byte that a `CXNN` would draw. -/
structure Turn where
  now : Nat
  random : UInt8
  move : Move

/-- A machine that nobody uses yet. What waits in its queue counts as sent. -/
def start (m : Machine) : Shared where
  machine := m
  steps := []
  owner := .returned (.ok ())
  last := .stop
  sent := m.queue
  taken := []
  applied := []

def hands (s : Shared) : List Batch := s.steps.flatMap Progress.hands ++ s.machine.hands

def appliedEvents (s : Shared) : List KeyEvent := (s.applied.map Prod.snd).flatten

def handover (s : Shared) : Move → Handover
  | .step earlier =>
    match s.steps[earlier]? with
    | none => Handover.nothing
    | some p => p.handover s.machine.queue
  | .owner => s.owner.handover s.machine.queue
  | .activity actor => s.machine.handover actor
  | .send _ | .enter | .call _ => Handover.nothing

/-- Puts what an action handed over on record. -/
def record (now : Nat) (h : Handover) (s : Shared) : Shared :=
  { s with taken := s.taken ++ h.taken
           applied := s.applied ++ h.applied.map fun batch => (now, batch) }

/-- The system after a move, which is not on record yet. -/
def moved (t : Turn) (s : Shared) : Shared :=
  match t.move with
  | .send e => { s with machine := s.machine.sendKey e, sent := s.sent ++ [e] }
  | .enter => { s with steps := s.steps ++ [.step] }
  | .step earlier =>
    match s.steps[earlier]? with
    | none => s
    | some p =>
      let (machine, p) := s.machine.advance t.now t.random p
      { s with machine := machine, steps := s.steps.set earlier p }
  | .call call => if s.owner.isReturned then { s with owner := call.first, last := call } else s
  | .owner =>
    let (machine, owner) := s.machine.advance t.now t.random s.owner
    { s with machine := machine, owner := owner }
  | .activity actor => { s with machine := s.machine.act t.now t.random actor }

def act (s : Shared) (t : Turn) : Shared := (s.moved t).record t.now (s.handover t.move)

def run (s : Shared) (turns : List Turn) : Shared := turns.foldl act s

@[simp] theorem run_nil (s : Shared) : s.run [] = s := rfl

@[simp] theorem run_cons (s : Shared) (t : Turn) (turns : List Turn) :
    s.run (t :: turns) = (s.act t).run turns := rfl

/-! ## Calls in their places -/

/-- Where calls stand: single steps among the steps, and with the owner a call that begins or ends
a run. A run begins only where there is none, and once a stop has returned there is none. -/
structure Placed (s : Shared) : Prop where
  steps : ∀ p ∈ s.steps, p.isStep = true
  owner : s.owner.isLifecycle = true
  spawning : s.owner = .spawning → s.machine.activities = none
  stopped : s.last = .stop → s.owner.Stopping s.machine

namespace Placed

theorem start {m : Machine} (h : m.activities = none) : Placed (Shared.start m) :=
  ⟨nofun, rfl, nofun, fun _ => .inr (.inr ⟨rfl, h⟩)⟩

theorem of_owner {s s' : Shared} (placed : Placed s) (hsteps : ∀ p ∈ s'.steps, p.isStep = true)
    (howner : s'.owner = s.owner) (hlast : s'.last = s.last)
    (hnone : s'.machine.activities = none ↔ s.machine.activities = none) : Placed s' := by
  refine ⟨hsteps, ?_, ?_, ?_⟩
  · rw [howner]; exact placed.owner
  · rw [howner, hnone]; exact placed.spawning
  · rw [howner, hlast, Progress.Stopping, hnone]; exact placed.stopped

end Placed

theorem Placed.moved {s : Shared} (placed : Placed s) (t : Turn) : Placed (s.moved t) := by
  unfold Shared.moved
  split
  · exact placed.of_owner placed.steps rfl rfl .rfl
  · refine placed.of_owner ?_ rfl rfl .rfl
    intro p hp
    rcases List.mem_append.mp hp with hp | hp
    · exact placed.steps p hp
    · rw [List.mem_singleton.mp hp]; rfl
  · next earlier _ =>
    split
    · exact placed
    · next p hp =>
      -- a step under way has no say in whether there are activities
      have hstep := placed.steps p (List.mem_of_getElem? hp)
      have same := s.machine.advance_activities t.now t.random hstep
      refine placed.of_owner ?_ rfl rfl (by rw [same])
      intro q hq
      rcases List.mem_or_eq_of_mem_set hq with hq | rfl
      · exact placed.steps q hq
      · exact s.machine.advance_isStep t.now t.random hstep
  · next call _ =>
    -- a call is taken up only by an owner who is idle, and begins by looking
    split
    · cases call with
      | run => exact ⟨placed.steps, rfl, nofun, nofun⟩
      | stop => exact ⟨placed.steps, rfl, nofun, fun _ => .inl rfl⟩
    · exact placed
  · exact ⟨placed.steps, (s.machine.advance_course t.now t.random placed.owner).isLifecycle,
      s.machine.advance_spawning t.now t.random,
      fun hlast => s.machine.advance_stopping t.now t.random (placed.stopped hlast)⟩
  · next actor _ =>
    exact placed.of_owner placed.steps rfl rfl
      (s.machine.act_activities_eq_none t.now t.random actor)

theorem Placed.act {s : Shared} (placed : Placed s) (t : Turn) : Placed (s.act t) :=
  have moved := placed.moved t
  ⟨moved.steps, moved.owner, moved.spawning, moved.stopped⟩

/-! ## From hand to hand -/

/-- Putting one step's call in the place of another changes hands by theirs. -/
theorem hands_set {steps : List Progress} {earlier : Nat} {p q : Progress}
    (h : steps[earlier]? = some p) :
    (q.hands ++ steps.flatMap Progress.hands).Perm
      (p.hands ++ (steps.set earlier q).flatMap Progress.hands) := by
  obtain ⟨hlt, hget⟩ := List.getElem?_eq_some_iff.mp h
  obtain ⟨before, after, hsplit, -, hset⟩ : ∃ before after,
      steps = before ++ steps[earlier] :: after ∧ before.length = earlier
        ∧ steps.set earlier q = before ++ q :: after := List.exists_of_set hlt
  rw [hset, hsplit, hget]
  simp only [List.flatMap_append, List.flatMap_cons]
  generalize before.flatMap Progress.hands = front
  generalize after.flatMap Progress.hands = back
  have out := List.perm_append_comm_assoc q.hands front (p.hands ++ back)
  have past := (List.perm_append_comm_assoc q.hands p.hands back).append_left front
  exact out.trans (past.trans (List.perm_append_comm_assoc front p.hands (q.hands ++ back)))

/-- **What is in somebody's hands after a move** is what was there before and what the move took,
less what it applied. -/
theorem Placed.moved_hands {s : Shared} (placed : Placed s) (t : Turn) :
    ((s.handover t.move).taken ++ s.hands).Perm
      ((s.handover t.move).applied ++ (s.moved t).hands) := by
  unfold Shared.moved
  cases t.move with
  | send e => exact .refl _
  | enter =>
    -- who has only entered holds nothing yet
    have same : (s.steps ++ [Progress.step]).flatMap Progress.hands
        = s.steps.flatMap Progress.hands := by
      rw [List.flatMap_append]
      exact List.append_nil _
    simp only [handover, hands, same]
    exact .refl _
  | step earlier =>
    dsimp only [handover]
    cases hp : s.steps[earlier]? with
    | none => exact .refl _
    | some p =>
      have hstep := placed.steps p (List.mem_of_getElem? hp)
      have kept := Machine.hands_of_activities
        (s.machine.advance_activities t.now t.random hstep)
      -- what one step takes and applies passes through its own hands; those of the others, and of
      -- the activities, are full or empty as before
      have given : (p.handover s.machine.queue).applied = p.hands := by cases p <;> rfl
      have held := hands_set hp (q := (s.machine.advance t.now t.random p).2)
      dsimp only
      rw [given, ← s.machine.advance_hands t.now t.random p]
      simp only [hands, kept, ← List.append_assoc]
      exact held.append_right _
  | call c =>
    dsimp only
    split <;> exact .refl _
  | owner =>
    -- neither a run nor a stop touches key events
    have nothing : s.owner.handover s.machine.queue = Handover.nothing :=
      Progress.handover_of_isLifecycle placed.owner _
    have kept := s.machine.advance_machine_hands t.now t.random placed.spawning
    simp only [handover, hands, kept, nothing]
    exact .refl _
  | activity actor =>
    have held := s.machine.act_hands t.now t.random actor
    have out := List.perm_append_comm_assoc (s.machine.handover actor).taken
      (s.steps.flatMap Progress.hands) s.machine.hands
    exact out.trans ((held.append_left _).trans (List.perm_append_comm_assoc ..))

/-! ## The record is true -/

theorem map_snd_stamped (now : Nat) (batches : List Batch) :
    (batches.map fun batch => (now, batch)).map Prod.snd = batches := by
  rw [List.map_map]
  exact List.map_id _

theorem moved_record (s : Shared) (t : Turn) :
    (s.moved t).taken = s.taken ∧ (s.moved t).applied = s.applied := by
  unfold moved
  split
  · exact ⟨rfl, rfl⟩
  · exact ⟨rfl, rfl⟩
  · split <;> exact ⟨rfl, rfl⟩
  · split <;> exact ⟨rfl, rfl⟩
  · exact ⟨rfl, rfl⟩
  · exact ⟨rfl, rfl⟩

/-- What the record says, for a machine that was `m` when nobody used it yet. -/
structure Custody (m : Machine) (s : Shared) : Prop where
  sent : s.taken.flatten ++ s.machine.queue = s.sent
  taken : s.taken.Perm (s.applied.map Prod.snd ++ s.hands)
  keypad : s.machine.state.keypad = m.state.keypad.replay m.config.keyRelease s.applied
  config : s.machine.config = m.config

namespace Custody

theorem start {m : Machine} (h : m.activities = none) : Custody m (Shared.start m) := by
  refine ⟨rfl, ?_, rfl, rfl⟩
  show [].Perm ([] ++ ([] ++ m.hands))
  rw [Machine.hands, h]
  exact .refl _

/-- An action that hands `h` over, once that is on record. -/
theorem conveyed {m : Machine} {s s' : Shared} {now : Nat} {h : Handover} (custody : Custody m s)
    (conveys : Conveys now s.machine s'.machine h) (hsent : s'.sent = s.sent)
    (htaken : s'.taken = s.taken) (happlied : s'.applied = s.applied)
    (hhands : (h.taken ++ s.hands).Perm (h.applied ++ s'.hands)) :
    Custody m (s'.record now h) := by
  refine ⟨?_, ?_, ?_, ?_⟩
  · show (s'.taken ++ h.taken).flatten ++ s'.machine.queue = s'.sent
    rw [htaken, hsent, List.flatten_append, List.append_assoc, conveys.queue, custody.sent]
  · show (s'.taken ++ h.taken).Perm
      ((s'.applied ++ h.applied.map fun batch => (now, batch)).map Prod.snd ++ s'.hands)
    rw [htaken, happlied, List.map_append, map_snd_stamped, List.append_assoc]
    have before : (s.taken ++ h.taken).Perm (s.applied.map Prod.snd ++ (s.hands ++ h.taken)) := by
      rw [← List.append_assoc]
      exact custody.taken.append_right _
    exact before.trans ((List.perm_append_comm.trans hhands).append_left _)
  · show s'.machine.state.keypad = m.state.keypad.replay m.config.keyRelease
      (s'.applied ++ h.applied.map fun batch => (now, batch))
    rw [conveys.keypad, happlied, Keypad.replay_append, custody.keypad, custody.config]
  · exact conveys.config.trans custody.config

theorem record_nothing (now : Nat) (s : Shared) : s.record now Handover.nothing = s := by
  simp only [record, Handover.nothing, List.map_nil, List.append_nil]

/-- **A true record stays true.** -/
theorem act {m : Machine} {s : Shared} (placed : Placed s) (custody : Custody m s) (t : Turn) :
    Custody m (s.act t) := by
  -- what is in whose hands goes through the same case split as the move
  have held := placed.moved_hands t
  revert held
  unfold Shared.act Shared.moved
  cases t.move with
  | send e =>
    intro held
    rw [handover, record_nothing]
    refine ⟨?_, custody.taken, custody.keypad, custody.config⟩
    show s.taken.flatten ++ (s.machine.queue ++ [e]) = s.sent ++ [e]
    rw [← List.append_assoc, custody.sent]
  | enter => exact custody.conveyed (Conveys.idle rfl rfl rfl) rfl rfl rfl
  | step earlier =>
    dsimp only [handover]
    cases s.steps[earlier]? with
    | none => exact custody.conveyed (Conveys.idle rfl rfl rfl) rfl rfl rfl
    | some p => exact custody.conveyed (s.machine.advance_conveys t.now t.random p) rfl rfl rfl
  | call c =>
    dsimp only
    split <;> exact custody.conveyed (Conveys.idle rfl rfl rfl) rfl rfl rfl
  | owner => exact custody.conveyed (s.machine.advance_conveys t.now t.random s.owner) rfl rfl rfl
  | activity actor =>
    exact custody.conveyed (s.machine.act_conveys t.now t.random actor) rfl rfl rfl

end Custody

/-- **The record of every run is true.** -/
theorem run_custody {m : Machine} (h : m.activities = none) (turns : List Turn) :
    Placed ((start m).run turns) ∧ Custody m ((start m).run turns) := by
  have keeps : ∀ (turns : List Turn) {s : Shared}, Placed s → Custody m s →
      Placed (s.run turns) ∧ Custody m (s.run turns) := by
    intro turns
    induction turns with
    | nil => intro s placed custody; exact ⟨placed, custody⟩
    | cons t turns ih => intro s placed custody; exact ih (placed.act t) (custody.act placed t)
  exact keeps turns (Placed.start h) (Custody.start h)

end Shared

end Chip8
