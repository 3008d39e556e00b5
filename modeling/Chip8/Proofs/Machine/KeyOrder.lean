import Chip8.Proofs.Machine.KeyConservation

/-!
# The order of key events

Events leave the queue in the order in which they were sent, and a batch is applied whole. But
taking a batch and applying it are two actions, and a step may do both between the two actions of
the keys activity: the newer batch is applied first, and a key that was pressed and released
stays down (`release_overtaken`).

What holds for every list of moves is that order is kept among batches that are applied in turn,
that is, in the order in which they were taken (`InTurn`). Empty batches do not count. And batches
are applied in turn whenever nobody takes events while others have taken some and not yet applied
them (`Orderly`), as is the case in every run in which nobody steps (`orderly_of_no_step`). All
of this is `key_events_in_order`.

With keys that expire, the state of a key also depends on the moments at which events were
applied; of that nothing is said beyond the replay of the record.
-/

set_option autoImplicit false

namespace Chip8

namespace KeyEvent

/-- Whether the last event for a key is a press, if there is an event for it. -/
def lastIsPress? (key : UInt8) (events : List KeyEvent) : Option Bool :=
  ((events.filter fun e => e.key == key).getLast?).map isPress

theorem lastIsPress?_append (key : UInt8) (before after : List KeyEvent) :
    lastIsPress? key (before ++ after)
      = (lastIsPress? key after).or (lastIsPress? key before) := by
  rw [lastIsPress?, lastIsPress?, lastIsPress?, List.filter_append, List.getLast?_append,
    Option.map_or]

end KeyEvent

namespace Keypad

theorem isDown_of_le (k : Keypad) {key : UInt8} (h : 16 ≤ key.toNat) : k.isDown key = false := by
  have outside : k.keys[key.toNat]? = none := Vector.getElem?_eq_none h
  rw [isDown, outside]
  rfl

theorem isDown_apply (k : Keypad) (e : KeyEvent) (now : Nat) {key : UInt8}
    (h : key.toNat < 16) :
    (k.apply e now).1.isDown key
      = (KeyEvent.lastIsPress? key [e]).getD (k.isDown key) := by
  by_cases same : e.key = key
  · have last : KeyEvent.lastIsPress? key [e] = some e.isPress := by
      simp [KeyEvent.lastIsPress?, same]
    have inRange : e.key.toNat < 16 := by rw [same]; exact h
    rw [last, apply, dif_pos inRange]
    simp [isDown, same, h]
  · have last : KeyEvent.lastIsPress? key [e] = none := by
      simp [KeyEvent.lastIsPress?, same]
    have other : e.key.toNat ≠ key.toNat := fun heq => same (UInt8.toNat_inj.mp heq)
    rw [last, apply]
    split
    · simp [isDown, h, Vector.getElem_set_ne _ _ other]
    · rfl

/-- After some events a key is as the last one for it says, and otherwise as it was. -/
theorem isDown_applyAll (k : Keypad) (now : Nat) (events : List KeyEvent) {key : UInt8}
    (h : key.toNat < 16) :
    (k.applyAll now events).isDown key
      = (KeyEvent.lastIsPress? key events).getD (k.isDown key) := by
  induction events generalizing k with
  | nil => rfl
  | cons e es ih =>
    have split := KeyEvent.lastIsPress?_append key [e] es
    rw [List.singleton_append] at split
    show ((k.apply e now).1.applyAll now es).isDown key = _
    rw [ih, isDown_apply k e now h, split]
    cases KeyEvent.lastIsPress? key es <;> rfl

/-- While no key expires, only the order of events matters, not how they were batched. -/
theorem isDown_replay (k : Keypad) (batches : List (Nat × Batch)) {key : UInt8}
    (h : key.toNat < 16) :
    (k.replay none batches).isDown key
      = (KeyEvent.lastIsPress? key (batches.map Prod.snd).flatten).getD (k.isDown key) := by
  induction batches generalizing k with
  | nil => rfl
  | cons b bs ih =>
    show ((k.applyAll b.1 b.2).replay none bs).isDown key = _
    rw [ih, isDown_applyAll k b.1 b.2 h, List.map_cons, List.flatten_cons,
      KeyEvent.lastIsPress?_append]
    cases KeyEvent.lastIsPress? key (bs.map Prod.snd).flatten <;> rfl

end Keypad

namespace Handover

def single (h : Handover) : Prop := h.taken.length ≤ 1

end Handover

namespace Shared

theorem handover_single (s : Shared) (move : Move) : (s.handover move).single := by
  have calls (p : Progress) (queue : Batch) : (p.handover queue).single := by
    cases p <;> simp [Handover.single, Progress.handover]
  have activities (a : Activities) (queue : Batch) (actor : Actor) :
      (a.handover queue actor).single := by
    cases actor with
    | keys =>
      unfold Handover.single Activities.handover
      cases a.keys <;> simp
    | cpu | timers => exact Nat.zero_le 1
  unfold handover
  split
  · split
    · exact Nat.zero_le 1
    · exact calls _ _
  · exact calls _ _
  · unfold Machine.handover
    split
    · exact Nat.zero_le 1
    · exact activities _ _ _
  · exact Nat.zero_le 1
  · exact Nat.zero_le 1
  · exact Nat.zero_le 1

def substantial (batches : List Batch) : List Batch := batches.filter fun batch => !batch.isEmpty

theorem substantial_append (before after : List Batch) :
    substantial (before ++ after) = substantial before ++ substantial after :=
  List.filter_append ..

theorem substantial_eq_nil {batches : List Batch} (h : batches.flatten = []) :
    substantial batches = [] := by
  refine List.filter_eq_nil_iff.mpr ?_
  intro batch hb
  rw [List.flatten_eq_nil_iff.mp h batch hb]
  exact Bool.false_ne_true

theorem flatten_substantial (batches : List Batch) :
    (substantial batches).flatten = batches.flatten :=
  List.flatten_filter_not_isEmpty

/-- Batches were applied in the order in which they were taken. -/
def InTurn (s : Shared) : Prop := substantial (s.applied.map Prod.snd) <+: substantial s.taken

/-- Nobody takes events while some are taken and not yet applied. -/
def Orderly (s : Shared) : List Turn → Prop
  | [] => True
  | t :: turns =>
    ((s.handover t.move).taken.flatten = [] ∨ s.hands.flatten = []) ∧ Orderly (s.act t) turns

instance decidableOrderly : (s : Shared) → (turns : List Turn) → Decidable (s.Orderly turns)
  | _, [] => isTrue trivial
  | s, t :: turns =>
    have := decidableOrderly (s.act t) turns
    inferInstanceAs (Decidable (_ ∧ _))

/-- What was applied and what is in somebody's hands, in this order, is what was taken; and one
batch at most is in somebody's hands. -/
structure Lined (s : Shared) : Prop where
  taken : substantial (s.applied.map Prod.snd) ++ substantial s.hands = substantial s.taken
  hands : (substantial s.hands).length ≤ 1

theorem eq_of_perm_of_length_le_one {before after : List Batch} (h : before.Perm after)
    (hlen : before.length ≤ 1) : before = after := by
  match before, hlen with
  | [], _ => exact (List.nil_perm.mp h).symm
  | [batch], _ => exact List.singleton_perm.mp h

theorem Lined.act {s : Shared} (placed : Placed s) (lined : Lined s) {t : Turn}
    (orderly : (s.handover t.move).taken.flatten = [] ∨ s.hands.flatten = []) :
    Lined (s.act t) := by
  have one : (substantial (s.handover t.move).taken).length ≤ 1 :=
    Nat.le_trans (List.length_filter_le ..) (s.handover_single t.move)
  have either : substantial (s.handover t.move).taken = [] ∨ substantial s.hands = [] :=
    orderly.imp substantial_eq_nil substantial_eq_nil
  have small : (substantial (s.handover t.move).taken ++ substantial s.hands).length ≤ 1 := by
    rcases either with h | h
    · rw [h]; exact lined.hands
    · rw [h, List.append_nil]; exact one
  -- with one batch around, the move leaves nothing open but where it is
  have arranged : substantial (s.handover t.move).taken ++ substantial s.hands
      = substantial (s.handover t.move).applied ++ substantial (s.moved t).hands := by
    refine eq_of_perm_of_length_le_one ?_ small
    rw [← substantial_append, ← substantial_append]
    exact (placed.moved_hands t).filter _
  obtain ⟨htaken, happlied⟩ := s.moved_record t
  refine ⟨?_, ?_⟩
  · show substantial
        (((s.moved t).applied ++ (s.handover t.move).applied.map fun b => (t.now, b)).map Prod.snd)
          ++ substantial (s.moved t).hands
      = substantial ((s.moved t).taken ++ (s.handover t.move).taken)
    rw [htaken, happlied, List.map_append, map_snd_stamped, substantial_append,
      substantial_append, List.append_assoc, ← arranged, ← lined.taken]
    rcases either with h | h
    · rw [h, List.nil_append, List.append_nil]
    · rw [h, List.append_nil, List.append_nil]
  · show (substantial (s.moved t).hands).length ≤ 1
    rw [arranged, List.length_append] at small
    omega

theorem Lined.run {s : Shared} (placed : Placed s) (lined : Lined s) (turns : List Turn)
    (orderly : s.Orderly turns) : Lined (s.run turns) := by
  induction turns generalizing s with
  | nil => exact lined
  | cons t turns ih => exact ih (placed.act t) (lined.act placed orderly.1) orderly.2

theorem Lined.inTurn {s : Shared} (lined : Lined s) : s.InTurn := ⟨_, lined.taken⟩

/-- **The keys activity alone is orderly.** -/
theorem orderly_of_no_step {s : Shared} (placed : Placed s) (hsteps : s.steps = [])
    (turns : List Turn) (alone : ∀ t ∈ turns, t.move ≠ .enter) : s.Orderly turns := by
  induction turns generalizing s with
  | nil => trivial
  | cons t turns ih =>
    -- a step under way can only have been entered, and nobody enters
    have none : (s.moved t).steps = [] := by
      have other := alone t (List.mem_cons_self ..)
      unfold moved
      split
      · exact hsteps
      · next hmove => exact absurd hmove other
      · simp only [hsteps, List.getElem?_nil]
      · split <;> exact hsteps
      · exact hsteps
      · exact hsteps
    refine ⟨?_, ih (placed.act t) none fun u hu => alone u (List.mem_cons_of_mem _ hu)⟩
    cases hmove : t.move with
    | send | enter | call => exact .inl rfl
    | step earlier =>
      left
      simp only [handover, hsteps, List.getElem?_nil]
      rfl
    | owner =>
      left
      rw [handover, Progress.handover_of_isLifecycle placed.owner]
      rfl
    | activity actor =>
      have held : s.hands = s.machine.hands := by rw [hands, hsteps]; rfl
      rw [held]
      unfold handover Machine.handover Machine.hands Activities.handover
      cases s.machine.activities with
      | none => exact .inl rfl
      | some a =>
        cases actor with
        | cpu | timers => exact .inl rfl
        | keys =>
          dsimp only
          cases a.keys with
          | due =>
            -- it takes events only after it applied those it took before
            exact .inr rfl
          | resting | holding | sending | finished => exact .inl rfl

theorem InTurn.prefix_taken {s : Shared} (inTurn : s.InTurn) :
    s.appliedEvents <+: s.taken.flatten := by
  obtain ⟨rest, hrest⟩ := inTurn
  refine ⟨rest.flatten, ?_⟩
  have flat := congrArg List.flatten hrest
  rw [List.flatten_append, flatten_substantial, flatten_substantial] at flat
  exact flat

/-- Once nothing waits and nobody holds anything, everything was applied. -/
theorem Custody.applied_eq_sent {m : Machine} {s : Shared} (custody : Custody m s)
    (inTurn : s.InTurn) (hqueue : s.machine.queue = []) (hhands : s.hands.flatten = []) :
    s.appliedEvents = s.sent := by
  have conserved := custody.sent_perm.length_eq
  rw [hqueue, hhands] at conserved
  have sent : s.taken.flatten = s.sent := by
    have := custody.sent
    rwa [hqueue, List.append_nil] at this
  refine (sent ▸ inTurn.prefix_taken).eq_of_length ?_
  exact conserved.symm

/-- **Key events are applied in the order in which they were sent, as far as batches are applied
in the order in which they were taken**, which they are while nobody takes events before all that
were taken earlier are applied. In any case, events are taken in the order in which they were
sent, and a batch is applied as a whole, once and in its own order. When everything was applied in
turn and keys do not expire, each of the sixteen keys is as the last event for it says, and the
others are up. -/
theorem key_events_in_order (m : Machine) (h : m.activities = none) (turns : List Turn) :
    let s := (start m).run turns
    let sent := m.queue ++ turns.flatMap Turn.sends
    s.taken.flatten ++ s.machine.queue = sent
      ∧ s.taken.Perm (s.applied.map Prod.snd ++ s.hands)
      ∧ s.machine.state.keypad = m.state.keypad.replay m.config.keyRelease s.applied
      ∧ ((start m).Orderly turns → s.InTurn)
      ∧ (s.InTurn → s.appliedEvents <+: sent)
      ∧ (s.InTurn → m.config.keyRelease = none → s.machine.queue = [] → s.hands.flatten = [] →
          ∀ key : UInt8, s.machine.state.keypad.isDown key =
            if key.toNat < 16 then
              (KeyEvent.lastIsPress? key sent).getD (m.state.keypad.isDown key)
            else false) := by
  intro s sent
  obtain ⟨-, custody⟩ := run_custody h turns
  have hsent : s.sent = sent := run_sent (start m) turns
  have first : Lined (start m) := by
    have empty : (start m).hands = [] := hands_eq_nil nofun h
    refine ⟨?_, ?_⟩
    · rw [empty]; rfl
    · rw [empty]; exact Nat.zero_le 1
  refine ⟨hsent ▸ custody.sent, custody.taken, custody.keypad, ?_, ?_, ?_⟩
  · intro orderly
    exact (first.run (Placed.start h) turns orderly).inTurn
  · intro inTurn
    rw [← hsent, ← custody.sent]
    exact inTurn.prefix_taken.trans (List.prefix_append ..)
  · intro inTurn hconfig hqueue hhands key
    have applied := custody.applied_eq_sent inTurn hqueue hhands
    split
    · next inRange =>
      rw [custody.keypad, hconfig, Keypad.isDown_replay _ _ inRange, ← hsent, ← applied]
      rfl
    · next outside => exact Keypad.isDown_of_le _ (Nat.le_of_not_lt outside)

/-- A key is pressed and then released, each event on its way to the keypad while the other is. -/
def overtaking : List Turn :=
  [.call .run, .owner, .owner, .send (.press 1), .activity .keys, .activity .keys,
    .send (.release 1), .enter, .step 0, .step 0, .activity .keys].map fun move => ⟨0, 0, move⟩

/-- **Order is lost where a step takes events while the keys activity holds some.** The machine is
running, keys do not expire, and both events were applied; but the release came first, and the key
stays down. -/
theorem release_overtaken :
    let s := (start (Machine.new {} Frontend.silent none)).run overtaking
    (s.machine.isRunning = true ∧ s.machine.config.keyRelease = none
        ∧ s.machine.queue = [] ∧ s.hands = [])
      ∧ s.sent = [.press 1, .release 1]
      ∧ s.appliedEvents = [.release 1, .press 1]
      ∧ ¬ s.appliedEvents <+: s.sent
      ∧ s.machine.state.keypad.isDown 1 = true := by
  decide +kernel

/-- The same two events, the second one taken by a step once the first one was applied. -/
def following : List Turn :=
  [.call .run, .owner, .owner, .send (.press 1), .activity .keys, .activity .keys, .activity .keys,
    .send (.release 1), .enter, .step 0, .step 0].map fun move => ⟨0, 0, move⟩

theorem key_events_in_order_following :
    let m := Machine.new {} Frontend.silent none
    let s := (start m).run following
    (m.activities = none ∧ (start m).Orderly following)
      ∧ s.appliedEvents <+: [.press 1, .release 1]
      ∧ s.machine.state.keypad.isDown 1 = false := by
  have stopped : (Machine.new {} Frontend.silent none).activities = none := rfl
  have orderly : (start (Machine.new {} Frontend.silent none)).Orderly following := by
    decide +kernel
  have hqueue :
      ((start (Machine.new {} Frontend.silent none)).run following).machine.queue = [] := by
    decide +kernel
  have hhands :
      ((start (Machine.new {} Frontend.silent none)).run following).hands.flatten = [] := by
    decide +kernel
  obtain ⟨-, -, -, inTurn, ordered, keys⟩ :=
    key_events_in_order (Machine.new {} Frontend.silent none) stopped following
  exact ⟨⟨stopped, orderly⟩, ordered (inTurn orderly),
    keys (inTurn orderly) rfl hqueue hhands 1⟩

end Shared

end Chip8
