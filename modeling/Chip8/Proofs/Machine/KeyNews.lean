import Chip8.Proofs.Machine.Loading
import Chip8.Proofs.Machine.News
import Chip8.Proofs.Machine.Stepping

/-!
# Word of the keys

Keys move in three ways: by key events, by expiring, and by a load, which begins with all keys up.
Events are applied and keys expire in one action of the keys activity or of a step, and whoever
takes that action tells the frontend next, if a key moved by it (`act_keys`, `advance_keys`). So by
the time that a step or a tick is over, word has been given of what it did to the keys.

A load says that display and registers changed, and no more. Whoever relies on being told goes on
showing keys that were down before (`load_releases_silently`). That is the one exception
(`key_changes_announced`).
-/

set_option autoImplicit false

namespace Chip8

namespace Machine

/-- Which keys are down. -/
def keys (m : Machine) : Vector Bool 16 := m.state.keypad.keys

variable {now : Nat} {random : UInt8} {m : Machine}

@[simp] theorem notify_keys (m : Machine) (u : Update) : (m.notify u).keys = m.keys := by
  rw [keys, notify_state]; rfl

@[simp] theorem execute_keys (m : Machine) (random : UInt8) :
    (m.execute random).1.keys = m.keys := by
  rw [keys, execute_keypad]; rfl

theorem refreshKeys_unchanged {events : List KeyEvent}
    (h : (m.refreshKeys now events).2 = false) : (m.refreshKeys now events).1.keys = m.keys :=
  Keypad.refresh_unchanged h

/-! ## One action -/

theorem actCpu_keys (m : Machine) (random : UInt8) (a : Activities) :
    (m.actCpu random a).keys = m.keys := by
  have executes := m.execute_keys random
  unfold actCpu
  split
  · split <;> rfl
  · dsimp only
    split <;> exact executes
  · exact m.notify_keys _
  all_goals rfl

theorem actTimers_keys (m : Machine) (a : Activities) : (m.actTimers a).keys = m.keys := by
  unfold actTimers
  split
  · split <;> rfl
  all_goals rfl

theorem act_keys_of_ne {actor : Actor} (h : actor ≠ .keys) :
    (m.act now random actor).keys = m.keys := by
  unfold act
  split
  · rfl
  · next a _ =>
    cases actor with
    | cpu => exact m.actCpu_keys random a
    | timers => exact m.actTimers_keys a
    | keys => exact absurd rfl h

/-- **An activity that moves a key tells of it next**, whatever the others do in between. -/
theorem act_keys {actor : Actor} (moves : (m.act now random actor).keys ≠ m.keys) :
    (m.act now random actor).tells actor = [.keys] := by
  have keys : actor = .keys := Decidable.byContradiction fun other => moves (act_keys_of_ne other)
  subst keys
  unfold act tells at *
  cases ha : m.activities with
  | none => rw [ha] at moves; exact absurd rfl moves
  | some a =>
    rw [ha] at moves
    dsimp only at moves ⊢
    unfold actKeys at *
    split at moves
    · split at moves <;> exact absurd rfl moves
    · exact absurd rfl moves
    · next events _ =>
      cases changed : (m.refreshKeys now events).2 with
      | false => exact absurd (refreshKeys_unchanged changed) moves
      | true => simp [changed, Activities.tells, KeysPhase.tells]
    · exact absurd (m.notify_keys .keys) moves
    · exact absurd rfl moves

theorem Course.keys {m' : Machine} {p q : Progress} (h : Course m p m' q) : m'.keys = m.keys := by
  cases h <;> rfl

/-- So does a call. -/
theorem advance_keys {p : Progress} (moves : (m.advance now random p).1.keys ≠ m.keys) :
    (m.advance now random p).2.tells = [.keys] := by
  cases p with
  | step => exact absurd rfl moves
  | stepHolding events =>
    cases changed : (m.refreshKeys now events).2 with
    | false =>
      have still := (execute_keys _ random).trans (refreshKeys_unchanged changed)
      exact absurd still moves
    | true => simp [advance, changed, Progress.tells]
  | sending pending result =>
    cases pending with
    | nil => exact absurd rfl moves
    | cons u rest => exact absurd (m.notify_keys u) moves
  | run | halting | joining | spawning | returned =>
    exact absurd (m.advance_course now random rfl).keys moves

end Machine

/-! ## What an operation comes to -/

namespace Overheard

/-- All that the frontend was sent since it was `f` is on record. -/
def Truthful (f : Frontend) (o : Overheard) : Prop := o.machine.frontend = f.sendAll o.told

/-- The keys are still `k`, or word of a change was given, or is given next. -/
def Abreast (k : Vector Bool 16) (o : Overheard) (next : List Update) : Prop :=
  o.machine.keys = k ∨ .keys ∈ o.told ++ next

section

variable {f : Frontend} {k : Vector Bool 16} {o : Overheard} {m : Machine}
  {next next' : List Update}

theorem Truthful.on (h : o.Truthful f) (sent : m.frontend = o.machine.frontend.sendAll next) :
    Truthful f ⟨m, o.told ++ next⟩ := by
  show m.frontend = f.sendAll (o.told ++ next)
  rw [Frontend.sendAll_append, ← h]
  exact sent

/-- Whoever moves a key has to tell of it next. -/
theorem Abreast.on (h : o.Abreast k next) (tells : m.keys ≠ o.machine.keys → next' = [.keys]) :
    Abreast k ⟨m, o.told ++ next⟩ next' := by
  rcases h with still | told
  · by_cases moves : m.keys = o.machine.keys
    · exact .inl (moves.trans still)
    · rw [tells moves]
      exact .inr (by simp)
  · exact .inr (List.mem_append_left _ told)

end

variable {now : Nat} {random : UInt8}

/-- **What every action of an activity keeps**, its ticks keep. -/
theorem tick_induction {P : Overheard → Prop} {actor : Actor}
    (keeps : ∀ o, P o → P (o.act now random actor)) (limit : Nat) {o : Overheard} (h : P o) :
    P (o.tick now random actor limit) := by
  induction limit generalizing o with
  | zero => exact h
  | succ limit ih =>
    rw [Overheard.tick]
    split
    · exact keeps o h
    · exact ih (keeps o h)

/-- The same for calls. -/
theorem follow_induction {P : Overheard × Progress → Prop}
    (keeps : ∀ x, P x → P (advance now random x)) (count : Nat) {x : Overheard × Progress}
    (h : P x) : P (follow now random count x) := by
  induction count generalizing x with
  | zero => exact h
  | succ count ih => exact ih (keeps x h)

end Overheard

namespace Machine

variable (now : Nat) (random : UInt8) (m : Machine)

/-- How many actions a tick of the keys activity still takes, at most. -/
def keysLeft (m : Machine) : Nat :=
  match m.activities with
  | none => 1
  | some a =>
    match a.keys with
    | .resting => 4
    | .due => 3
    | .holding _ => 2
    | .sending | .finished => 1

theorem keysLeft_le : m.keysLeft ≤ 4 := by
  unfold keysLeft
  split
  · decide
  · split <;> decide

theorem act_keysLeft : (m.act now random .keys).atRest .keys = true
    ∨ (m.act now random .keys).keysLeft < m.keysLeft := by
  unfold act
  cases ha : m.activities with
  | none => exact .inl (by simp [atRest, ha])
  | some a =>
    dsimp only
    unfold actKeys
    cases hkeys : a.keys with
    | resting =>
      have left : m.keysLeft = 4 := by simp [keysLeft, ha, hkeys]
      dsimp only
      split
      · exact .inl rfl
      · exact .inr (left ▸ (show 3 < 4 by decide))
    | due =>
      have left : m.keysLeft = 3 := by simp [keysLeft, ha, hkeys]
      exact .inr (left ▸ (show 2 < 3 by decide))
    | holding events =>
      have left : m.keysLeft = 2 := by simp [keysLeft, ha, hkeys]
      dsimp only
      cases (m.refreshKeys now events).2 with
      | false => exact .inl rfl
      | true => exact .inr (left ▸ (show 1 < 2 by decide))
    | sending => exact .inl rfl
    | finished => exact .inl (by simp [atRest, ha, hkeys, Activities.atRest])

/-- A tick of the keys activity comes to its end, wherever it began. -/
theorem tick_keys_rests (limit : Nat) {o : Overheard} (enough : o.machine.keysLeft ≤ limit) :
    (o.tick now random .keys limit).machine.atRest .keys = true := by
  induction limit generalizing o with
  | zero =>
    unfold keysLeft at enough
    split at enough
    · cases enough
    · split at enough <;> cases enough
  | succ limit ih =>
    rw [Overheard.tick]
    split
    · next rests => exact rests
    · next acts =>
      have less := (o.machine.act_keysLeft now random).resolve_left acts
      have left : (o.act now random .keys).machine.keysLeft < o.machine.keysLeft := less
      exact ih (by omega)

theorem tells_of_atRest {m : Machine} (rests : m.atRest .keys = true) : m.tells .keys = [] := by
  unfold atRest tells at *
  cases ha : m.activities with
  | none => rfl
  | some a =>
    rw [ha] at rests
    cases hkeys : a.keys with
    | sending => simp [Activities.atRest, hkeys] at rests
    | resting | due | holding | finished => simp [Activities.tells, KeysPhase.tells, hkeys]

/-! ## Operations -/

/-- Something that a machine does with nobody else doing anything meanwhile. -/
inductive Undertaking where
  | key (event : KeyEvent)
  | load (source : Source)
  | step (now : Nat) (random : UInt8)
  | tick (actor : Actor) (now : Nat) (random : UInt8)

/-- A load that succeeds. -/
def Undertaking.replaces : Undertaking → Bool
  | .load source => (State.load source).isOk
  | _ => false

/-- The machine afterwards, and what the frontend was told on the way. -/
def undertake (m : Machine) : Undertaking → Overheard
  | .key e => ⟨m.sendKey e, []⟩
  | .load source => ⟨(m.load source).1, Update.ofLoad (m.load source).2⟩
  | .step now random => ⟨(m.stepped now random).1, (m.stepped now random).2.told⟩
  | .tick actor now random => (⟨m, []⟩ : Overheard).tick now random actor 6

theorem undertake_step :
    m.undertake (.step now random) = (Overheard.follow now random 6 (⟨m, []⟩, .step)).1 := by
  rw [undertake, stepped, follow_step]

theorem undertake_truthful (t : Undertaking) : (m.undertake t).Truthful m.frontend := by
  have begins : (⟨m, []⟩ : Overheard).Truthful m.frontend := rfl
  cases t with
  | key e => exact begins
  | load source => exact notifyAll_frontend _ _
  | step now random =>
    rw [undertake_step]
    exact Overheard.follow_induction (P := fun x => x.1.Truthful m.frontend)
      (fun x h => h.on (x.1.machine.advance_frontend now random x.2)) 6 begins
  | tick actor now random =>
    exact Overheard.tick_induction (fun o h => h.on (o.machine.act_frontend now random actor)) 6
      begins

theorem undertake_keys {m : Machine} {t : Undertaking} (kept : t.replaces = false)
    (moves : (m.undertake t).machine.keys ≠ m.keys) : .keys ∈ (m.undertake t).told := by
  have begins (next : List Update) : (⟨m, []⟩ : Overheard).Abreast m.keys next := .inl rfl
  cases t with
  | key e => exact absurd rfl moves
  | load source =>
    have failed : (State.load source).isOk = false := kept
    cases loads : State.load source with
    | ok loaded => rw [loads] at failed; cases failed
    | error e =>
      have same : (m.undertake (.load source)).machine = m :=
        congrArg Prod.fst (m.load_of_error loads)
      exact absurd (congrArg keys same) moves
  | step now random =>
    rw [undertake_step] at moves ⊢
    have ends : (Overheard.follow now random 6 (⟨m, []⟩, .step)).1.Abreast m.keys
        (Overheard.follow now random 6 (⟨m, []⟩, .step)).2.tells :=
      Overheard.follow_induction (P := fun x => x.1.Abreast m.keys x.2.tells)
        (fun _ h => h.on advance_keys) 6 (begins _)
    -- six actions see the call return, with nothing left to tell
    have returns : (Overheard.follow now random 6 (⟨m, []⟩, .step)).2.tells = [] := by
      rw [follow_step]; rfl
    rw [returns, Overheard.Abreast, List.append_nil] at ends
    exact ends.resolve_left moves
  | tick actor now random =>
    by_cases keys : actor = .keys
    · subst keys
      have ends : ((⟨m, []⟩ : Overheard).tick now random .keys 6).Abreast m.keys
          (((⟨m, []⟩ : Overheard).tick now random .keys 6).machine.tells .keys) :=
        Overheard.tick_induction (P := fun o => o.Abreast m.keys (o.machine.tells .keys))
          (fun _ h => h.on act_keys) 6 (begins _)
      have rests := tick_keys_rests now random 6 (o := ⟨m, []⟩)
        (Nat.le_trans m.keysLeft_le (by decide))
      rw [tells_of_atRest rests, Overheard.Abreast, List.append_nil] at ends
      exact ends.resolve_left moves
    · -- the cpu may be cut short with something left to tell, but it moves no key
      have still : ((⟨m, []⟩ : Overheard).tick now random actor 6).machine.keys = m.keys :=
        Overheard.tick_induction (P := fun o => o.machine.keys = m.keys)
          (fun _ h => (act_keys_of_ne keys).trans h) 6 rfl
      exact absurd still moves

theorem undertake_load {source : Source} (loads : (Undertaking.load source).replaces = true) :
    (m.undertake (.load source)).told = [.display, .registers]
      ∧ ∀ k, (m.undertake (.load source)).machine.keys.get k = false := by
  have succeeds : (State.load source).isOk = true := loads
  cases came : State.load source with
  | error e => rw [came] at succeeds; cases succeeds
  | ok loaded =>
    obtain ⟨length, s⟩ := loaded
    obtain ⟨result, interpreter, -⟩ := m.load_of_ok came
    have told : (m.undertake (.load source)).told = Update.ofLoad (.ok length) :=
      congrArg Update.ofLoad result
    refine ⟨told, fun k => ?_⟩
    show (m.load source).1.interpreter.state.keypad.keys.get k = false
    rw [interpreter]
    exact (State.fresh_of_load came).keys k

/-- **Word is given of every key that moves, but by a load.** What is on record of an operation is
what the frontend was sent. If a key is not as it was before the operation, then that is among it,
whether a step succeeds or fails, whatever activity makes a tick, and wherever that begins. If others
act in between, it is still what is told next. A load that fails moves no key, and one that succeeds
releases all of them and tells of other things. -/
theorem key_changes_announced :
    (∀ t, (m.undertake t).machine.frontend = m.frontend.sendAll (m.undertake t).told)
      ∧ (∀ t, t.replaces = false → (m.undertake t).machine.keys ≠ m.keys →
          .keys ∈ (m.undertake t).told)
      ∧ (∀ now random actor, (m.act now random actor).keys ≠ m.keys →
          (m.act now random actor).tells actor = [.keys])
      ∧ (∀ now random p, (m.advance now random p).1.keys ≠ m.keys →
          (m.advance now random p).2.tells = [.keys])
      ∧ ∀ source, (Undertaking.load source).replaces = true →
          (m.undertake (.load source)).told = [.display, .registers]
            ∧ ∀ k, (m.undertake (.load source)).machine.keys.get k = false :=
  ⟨m.undertake_truthful, fun _ => undertake_keys, fun _ _ _ => act_keys, fun _ _ _ => advance_keys,
    fun _ => m.undertake_load⟩

/-- The machine after several operations. -/
def undertakeAll (m : Machine) (ts : List Undertaking) : Machine :=
  ts.foldl (fun m t => (m.undertake t).machine) m

/-- Jumps to itself. -/
def spin : Source := ⟨[0x12, 0x00], none⟩

/-- A key is pressed, and nobody has noticed yet. -/
def pressed : Machine :=
  (new {} (Frontend.ofCapacity 8) none).undertakeAll [.load spin, .key (.press 5)]

/-- The same in a run, in which the keys activity has just taken the event. -/
def noticed : Machine :=
  pressed.takeKeys.2.during ⟨false, .resting, .resting, .holding [.press 5]⟩

theorem key_changes_announced_pressed :
    ((pressed.undertake (.step 0 0)).machine.keys ≠ pressed.keys
        ∧ .keys ∈ (pressed.undertake (.step 0 0)).told)
      ∧ ((noticed.act 0 0 .keys).keys ≠ noticed.keys ∧ (noticed.act 0 0 .keys).tells .keys = [.keys])
      ∧ ((pressed.advance 0 0 (.stepHolding [.press 5])).1.keys ≠ pressed.keys
        ∧ (pressed.advance 0 0 (.stepHolding [.press 5])).2.tells = [.keys])
      ∧ ((Undertaking.load spin).replaces = true
        ∧ (pressed.undertake (.load spin)).told = [.display, .registers]) := by
  obtain ⟨moves, acts, steps, loads⟩ :
      (pressed.undertake (.step 0 0)).machine.keys ≠ pressed.keys
        ∧ (noticed.act 0 0 .keys).keys ≠ noticed.keys
        ∧ (pressed.advance 0 0 (.stepHolding [.press 5])).1.keys ≠ pressed.keys
        ∧ (Undertaking.load spin).replaces = true := by
    decide +kernel
  obtain ⟨-, announced, -, advanced, loaded⟩ := key_changes_announced pressed
  obtain ⟨-, -, acted, -⟩ := key_changes_announced noticed
  exact ⟨⟨moves, announced (.step 0 0) rfl moves⟩, ⟨acts, acted 0 0 .keys acts⟩,
    ⟨steps, advanced 0 0 _ steps⟩, loads, (loaded spin loads).1⟩

/-- The key that the step found down is up after the load, and nobody hears of it. -/
theorem load_releases_silently :
    (pressed.undertake (.step 0 0)).machine.keys.get 5 = true
      ∧ ((pressed.undertake (.step 0 0)).machine.undertake (.load spin)).machine.keys.get 5 = false
      ∧ .keys ∉ ((pressed.undertake (.step 0 0)).machine.undertake (.load spin)).told := by
  decide +kernel

end Machine

end Chip8
