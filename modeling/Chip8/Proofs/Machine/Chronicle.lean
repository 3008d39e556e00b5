import Chip8.Machine.Calls
import Chip8.Proofs.Machine.Faults
import Chip8.Proofs.Machine.Ledger

/-!
# The runs of a machine and their faults

A shared machine, of which programs are loaded too, by anybody and at any time. `Chronicle` puts on
record what its owner gets to see: the calls that returned, with what they found and returned, the
faults that the cpu met in between, and the activities that were let go of.

The status of a machine is what somebody learns who asks. A call looks at it in its first action:
what it finds is that there is no run, that there is one, or that there is one that has halted. To
ask first whether the machine runs, and then whether it has halted, would come to the same, even if
the cpu came to a halt in between (`status_act`).

The main result is `runs_accounted_for`. All of it follows from an account of runs and faults that
agrees with the machine at any time (`Kept`).
-/

set_option autoImplicit false

namespace Chip8

/-! ## Loading a program while others act -/

/-- A load, by the action it takes next. -/
inductive Loading where
  | reading (source : Source)
  | announcing (pending : List Update) (result : Except Error Nat)

namespace Machine

variable (now : Nat) (random : UInt8) (m : Machine)

/-- The next action of a load. The program is replaced in one action. -/
def advanceLoad : Loading → Machine × Loading
  | .reading source =>
    let (m, result) := m.replaceProgram source
    (m, .announcing (Update.ofLoad result) result)
  | .announcing (u :: rest) result => (m.notify u, .announcing rest result)
  | .announcing [] result => (m, .announcing [] result)

/-- A load is three actions at most, and without anybody acting in between they come to `load`. -/
theorem advanceLoad_load (source : Source) :
    let one := m.advanceLoad (.reading source)
    let two := one.1.advanceLoad one.2
    two.1.advanceLoad two.2 = ((m.load source).1, .announcing [] (m.load source).2) := by
  simp only [advanceLoad, load]
  cases (m.replaceProgram source).2 <;> rfl

theorem advanceLoad_activities (l : Loading) :
    (m.advanceLoad l).1.activities = m.activities := by
  cases l with
  | reading source => rfl
  | announcing pending result =>
    cases pending with
    | nil => rfl
    | cons u rest => exact m.notify_activities u

/-! ## What a machine says of itself -/

def status : Status :=
  if m.isRunning then .running else if m.hasHalted then .halted else .stopped

variable {m}

theorem status_stopped (h : m.activities = none) : m.status = .stopped := by
  simp [status, isRunning, hasHalted, h]

theorem status_of_activities {a : Activities} (h : m.activities = some a) :
    m.status = if a.halt then .halted else .running := by
  cases ha : a.halt <;> simp [status, isRunning, hasHalted, h, ha]

theorem status_ne_stopped {a : Activities} (h : m.activities = some a) : m.status ≠ .stopped := by
  rw [status_of_activities h]
  split <;> nofun

theorem ne_none_of_carries (h : m.carries.isSome = true) : m.activities ≠ none := by
  intro hnone
  simp [carries_of_stopped hnone] at h

theorem status_eq_halted_iff : m.status = .halted ↔ m.hasHalted = true := by
  cases ha : m.activities with
  | none => simp [status, isRunning, hasHalted, ha]
  | some a => cases hhalt : a.halt <;> simp [status, isRunning, hasHalted, ha, hhalt]

theorem hasHalted_act (h : m.hasHalted = true) (actor : Actor) :
    (m.act now random actor).hasHalted = true := by
  cases ha : m.activities with
  | none => simp [hasHalted, ha] at h
  | some a =>
    have halt : a.halt = true := by simpa [hasHalted, ha] using h
    -- no activity ever takes the halt flag down, and the cpu may raise it again
    have stays {m' : Machine} {b : Activities} (hb : m'.activities = some b)
        (hhalt : b.halt = true) : m'.hasHalted = true := by
      simp [hasHalted, hb, hhalt]
    cases actor with
    | cpu =>
      simp only [act, ha, actCpu]
      split
      · rw [if_pos halt]
        exact stays rfl halt
      · cases (m.execute random).2 <;> exact stays rfl halt
      · exact stays rfl halt
      · exact stays rfl halt
      · exact stays rfl rfl
      · exact h
    | timers =>
      simp only [act, ha, actTimers]
      split
      · rw [if_pos halt]
        exact stays rfl halt
      · exact stays rfl halt
      · exact h
    | keys =>
      simp only [act, ha, actKeys]
      split
      · rw [if_pos halt]
        exact stays rfl halt
      · exact stays rfl halt
      · exact stays rfl halt
      · exact stays rfl halt
      · exact h

/-- **Looking twice is looking once.** A machine that is not running stays what it is, stopped or
halted, whatever its activities do. -/
theorem status_act (h : m.isRunning = false) (actor : Actor) :
    (m.act now random actor).status = m.status := by
  cases ha : m.activities with
  | none => rw [act, ha]
  | some a =>
    have halted : m.hasHalted = true := by simpa [isRunning, hasHalted, ha] using h
    rw [status_eq_halted_iff.mpr halted, status_eq_halted_iff]
    exact hasHalted_act now random halted actor

/-! ## What others do meanwhile -/

/-- The fault that an activity meets in its next action, if it does. -/
def meets (m : Machine) : Actor → Option StackFault
  | .cpu =>
    match m.activities with
    | none => none
    | some a =>
      match a.cpu, (m.execute random).2 with
      | .due, .error fault => some fault
      | _, _ => none
  | _ => none

/-- An action of somebody who is not the owner, in which the fault `met` was met, if one was. It
begins and ends no run, and halts one only over a fault. -/
structure Meanwhile (m m' : Machine) (met : Option StackFault) : Prop where
  stands : m'.activities = none ↔ m.activities = none
  carries : (met = none ∧ m'.carries = m.carries)
    ∨ ∃ f, met = some f ∧ m.activities ≠ none ∧ m.carries = none ∧ m'.carries = some f
  halted : m'.hasHalted = true → m.hasHalted = true ∨ m'.carries.isSome = true

namespace Meanwhile

theorem of_activities {m m' : Machine} (h : m'.activities = m.activities) : Meanwhile m m' none := by
  refine ⟨by rw [h], .inl ⟨rfl, ?_⟩, ?_⟩
  · rw [Machine.carries, Machine.carries, h]
  · intro halted
    rw [hasHalted, h] at halted
    exact .inl halted

theorem of_quiet {m m' : Machine} (h : Quiet m m') : Meanwhile m m' none :=
  ⟨h.none, .inl ⟨rfl, h.carries⟩, h.halted⟩

/-- What is carried stays what is carried. -/
theorem still {m m' : Machine} {met : Option StackFault} (h : Meanwhile m m' met)
    (carried : m.carries.isSome = true) : m'.carries.isSome = true := by
  rcases h.carries with ⟨-, same⟩ | ⟨f, -, -, nothing, -⟩
  · rw [same]
    exact carried
  · rw [nothing] at carried
    cases carried

end Meanwhile

theorem act_meanwhile (actor : Actor) :
    Meanwhile m (m.act now random actor) (m.meets random actor) := by
  cases ha : m.activities with
  | none =>
    have nothing : m.meets random actor = none := by cases actor <;> simp only [meets, ha]
    rw [nothing, act, ha]
    exact .of_activities rfl
  | some a =>
    cases actor with
    | timers => simpa only [act, ha, meets] using Meanwhile.of_quiet (actTimers_quiet ha)
    | keys => simpa only [act, ha, meets] using Meanwhile.of_quiet (actKeys_quiet now ha)
    | cpu =>
      simp only [act, ha, meets]
      by_cases due : a.cpu = .due
      · have idle : m.carries = none := by simp [carries, ha, Activities.carries, due]
        have halt : m.hasHalted = a.halt := by simp [hasHalted, ha]
        simp only [actCpu, due]
        cases (m.execute random).2 with
        | ok done =>
          exact ⟨by simp [ha], .inl ⟨rfl, idle.symm⟩, fun h => .inl (halt.trans h)⟩
        | error fault =>
          exact ⟨by simp [ha], .inr ⟨fault, rfl, by simp [ha], idle, rfl⟩, fun h => .inl (halt.trans h)⟩
      · have quiet := Meanwhile.of_quiet (actCpu_quiet random ha due)
        split
        · contradiction
        · exact quiet

end Machine

/-! ## What the owner's call knows -/

namespace Progress

/-- The first action of a call, in which it looks at the machine. -/
def looks : Progress → Bool
  | .run | .halting false => true
  | _ => false

def begins : Progress → Bool
  | .spawning => true
  | _ => false

/-- Where a call may be that was begun as `call` and found the machine to be `found`. -/
def Fits (call : Call) (found : Status) (m : Machine) : Progress → Prop
  | .run => call = .run
  | .halting false => call = .stop
  | .halting true => call = .run ∧ found = .halted ∧ m.carries.isSome = true
  | .joining false => call = .stop ∧ found ≠ .stopped ∧ m.activities ≠ none
    ∧ (found = .halted → m.carries.isSome = true)
  | .joining true => call = .run ∧ found = .halted ∧ m.carries.isSome = true
  | .spawning => call = .run ∧ found = .stopped ∧ m.activities = none
  | .returned (.error _) => m.activities = none
  | .returned (.ok ()) => True
  | _ => False

/-- What a call will have found after its next action. -/
def finds (m : Machine) (found : Status) (p : Progress) : Status :=
  if p.looks then m.status else found

/-- The return of a call, if its next action is to return. -/
def returns (call : Call) (found : Status) (p next : Progress) : Option Event :=
  match p.isReturned, next with
  | false, .returned result => some (.returned ⟨call, found, p.begins, result⟩)
  | _, _ => none

/-- The activities that a machine lets go of in a call's next action: those of a run that is given
up, and those of a run that another one would take the place of. -/
def lets (m : Machine) : Progress → List Activities
  | .joining _ => m.activities.toList.filter Activities.allFinished
  | .spawning => m.activities.toList
  | _ => []

theorem Fits.meanwhile {call : Call} {found : Status} {m m' : Machine} {met : Option StackFault}
    {p : Progress} (h : p.Fits call found m) (hm : Machine.Meanwhile m m' met) :
    p.Fits call found m' := by
  unfold Fits at h ⊢
  split at h
  · exact h
  · exact h
  · exact ⟨h.1, h.2.1, hm.still h.2.2⟩
  · exact ⟨h.1, h.2.1, fun hn => h.2.2.1 (hm.stands.mp hn), fun hf => hm.still (h.2.2.2 hf)⟩
  · exact ⟨h.1, h.2.1, hm.still h.2.2⟩
  · exact ⟨h.1, h.2.1, hm.stands.mpr h.2.2⟩
  · exact hm.stands.mpr h
  · exact h
  · exact h

end Progress

namespace Machine

def ledger (m : Machine) : Ledger := ⟨m.activities.isSome, m.carries⟩

/-- What a call's action from `p` to `q` does to the account of its machine, given where the call
stood and what it had found. -/
structure Accounts (call : Call) (found : Status) (m : Machine) (p : Progress) (m' : Machine)
    (q : Progress) : Prop where
  fits : q.Fits call (p.finds m found) m'
  halted : m'.hasHalted = true → m'.carries.isSome = true ∨ q.isJoining = true
  allowed : ∀ e, p.returns call (p.finds m found) q = some e → m.ledger.Allows e
  follows : m.ledger.afterAll (p.returns call (p.finds m found) q).toList = m'.ledger
  finished : ∀ a ∈ p.lets m, a.allFinished = true
  counted : (p.lets m).length + m'.activities.toList.length
    = (p.returns call (p.finds m found) q).toList.countP Event.begins + m.activities.toList.length

namespace Accounts

variable {call : Call} {found : Status} {m m' : Machine} {p q : Progress}

theorem silent (hreturns : p.returns call (p.finds m found) q = none) (hlets : p.lets m = [])
    (hledger : m'.ledger = m.ledger) (fits : q.Fits call (p.finds m found) m')
    (halted : m'.hasHalted = true → m'.carries.isSome = true ∨ q.isJoining = true) :
    Accounts call found m p m' q := by
  refine ⟨fits, halted, ?_, ?_, ?_, ?_⟩
  · simp [hreturns]
  · simp [hreturns, hledger, Ledger.afterAll]
  · simp [hlets]
  · have same : m'.activities.isSome = m.activities.isSome := congrArg Ledger.standing hledger
    cases ha : m.activities <;> cases hb : m'.activities <;> simp_all

theorem returning {result : Except StackFault Unit} {r : Return}
    (hreturns : p.returns call (p.finds m found) (.returned result) = some (.returned r))
    (fits : (Progress.returned result).Fits call (p.finds m found) m')
    (unhalted : m'.hasHalted = false) (allowed : m.ledger.Allows (.returned r))
    (follows : m.ledger.after (.returned r) = m'.ledger)
    (finished : ∀ a ∈ p.lets m, a.allFinished = true)
    (counted : (p.lets m).length + m'.activities.toList.length
      = (if r.begun then 1 else 0) + m.activities.toList.length) :
    Accounts call found m p m' (.returned result) := by
  refine ⟨fits, ?_, ?_, ?_, finished, ?_⟩
  · simp [unhalted]
  · rw [hreturns]
    rintro e ⟨⟩
    exact allowed
  · simpa [hreturns, Ledger.afterAll] using follows
  · rw [hreturns, counted]
    cases hr : r.begun <;> simp [Event.begins, hr]

/-! ### Looking -/

theorem finds {a : Activities} (ha : m.activities = some a) (running : a.halt = false)
    (asked : call = .run) : Accounts call found m .run m (.returned (.ok ())) := by
  subst asked
  have finds : Progress.run.finds m found = .running := by
    simp [Progress.finds, Progress.looks, status_of_activities ha, running]
  have unhalted : m.hasHalted = false := by simp [hasHalted, ha, running]
  refine .returning rfl trivial unhalted ?_ ?_ (by simp [Progress.lets]) rfl
  · simp [Ledger.Allows, Return.closes, Progress.begins, finds, ledger, ha]
  · simp [Ledger.after, Return.closes, Progress.begins, finds, ledger, ha]

/-- A run that finds a halted machine goes on as a stop does. What it will return is there by then.
-/
theorem revives {a : Activities} (ha : m.activities = some a) (halted : a.halt = true)
    (asked : call = .run) (carried : m.carries.isSome = true) :
    Accounts call found m .run m (.halting true) := by
  have finds : Progress.run.finds m found = .halted := by
    simp [Progress.finds, Progress.looks, status_of_activities ha, halted]
  exact .silent rfl rfl rfl ⟨asked, finds, carried⟩ fun _ => .inl carried

/-! ### Halting -/

/-- A stop that finds nothing to stop. -/
theorem idles (hnone : m.activities = none) (asked : call = .stop) :
    Accounts call found m (.halting false) m (.returned (.ok ())) := by
  subst asked
  have finds : (Progress.halting false).finds m found = .stopped := by
    simp [Progress.finds, Progress.looks, status_stopped hnone]
  refine .returning rfl trivial (by simp [hasHalted, hnone]) ?_ ?_ (by simp [Progress.lets]) rfl
  · simp [Ledger.Allows, Ledger.settled, Return.closes, Progress.begins, finds, ledger, hnone,
      carries_of_stopped]
  · simp [Ledger.after, Return.closes, Progress.begins, finds, ledger, hnone, carries_of_stopped]

/-- To raise the flag is no news to the account, since nothing is carried by it. But a stop learns
here what it found, and if that was a halted machine, a fault is carried already. -/
theorem halts {again : Bool} {a : Activities} (ha : m.activities = some a)
    (fits : (Progress.halting again).Fits call found m)
    (halted : m.hasHalted = true → m.carries.isSome = true) :
    Accounts call found m (.halting again) (m.log [.stopping]).raiseHalt (.joining again) := by
  have kept : (m.log [.stopping]).raiseHalt.ledger = m.ledger := by
    simp [ledger, raiseHalt, log, carries, ha, Activities.carries]
  have carries : (m.log [.stopping]).raiseHalt.carries = m.carries := congrArg Ledger.owed kept
  refine .silent (by cases again <;> rfl) rfl kept ?_ fun _ => .inr rfl
  cases again with
  | true =>
    show call = .run ∧ found = .halted ∧ _
    rw [carries]
    exact fits
  | false =>
    refine ⟨fits, status_ne_stopped ha, ?_, ?_⟩
    · simp [raiseHalt, log, ha]
    · intro found
      rw [carries]
      exact halted (status_eq_halted_iff.mp found)

/-! ### Joining -/

/-- A stop that gives up a run without a fault. It cannot have found a halted machine, since that
would have carried one. -/
theorem reaps {a : Activities} (ha : m.activities = some a) (done : a.allFinished = true)
    (unfaulted : a.fault = none) (fits : (Progress.joining false).Fits call found m) :
    Accounts call found m (.joining false) { m with activities := none } (.returned (.ok ())) := by
  obtain ⟨rfl, found_ne, -, carried⟩ := fits
  have nothing : m.carries = none := by
    simp [carries, ha, Activities.carries_of_allFinished done, unfaulted]
  have finds : (Progress.joining false).finds m found = found := rfl
  have unhalted : found ≠ .halted := fun halted => by simpa [nothing] using carried halted
  refine .returning rfl trivial rfl ?_ ?_ ?_ ?_
  · simp [Ledger.Allows, Ledger.settled, Return.closes, Progress.begins, finds, ledger, ha, nothing,
      found_ne, unhalted]
  · simp [Ledger.after, Return.closes, Progress.begins, ledger, carries]
  · simp [Progress.lets, ha, done]
  · simp [Progress.lets, ha, done, Progress.begins]

/-- A stop, or a run of a halted machine, that gives up a run with its fault. -/
theorem collects {again : Bool} {a : Activities} {fault : StackFault} (ha : m.activities = some a)
    (done : a.allFinished = true) (hfault : a.fault = some fault)
    (fits : (Progress.joining again).Fits call found m) :
    Accounts call found m (.joining again) { m with activities := none }
      (.returned (.error fault)) := by
  have carried : m.carries = some fault := by
    simp [carries, ha, Activities.carries_of_allFinished done, hfault]
  have finds : (Progress.joining again).finds m found = found := by cases again <;> rfl
  have found_ne : found ≠ .stopped := by
    cases again with
    | true => rw [fits.2.1]; decide
    | false => exact fits.2.1
  have closes : (call == .stop || found == .halted) = true := by
    cases again with
    | true => simp [fits.2.1]
    | false => simp [show call = .stop from fits.1]
  refine .returning rfl rfl rfl ?_ ?_ ?_ ?_
  · simp [Ledger.Allows, Ledger.settled, Return.closes, Progress.begins, finds, ledger, ha, carried,
      found_ne, closes]
  · simp [Ledger.after, Return.closes, Progress.begins, finds, ledger, carries, closes]
  · simp [Progress.lets, ha, done]
  · simp [Progress.lets, ha, done, Progress.begins]

/-! ### Beginning a run -/

theorem spawns (fits : Progress.spawning.Fits call found m) :
    Accounts call found m .spawning m.spawn (.returned (.ok ())) := by
  obtain ⟨rfl, rfl, hnone⟩ := fits
  have finds : Progress.spawning.finds m .stopped = .stopped := rfl
  refine .returning rfl trivial rfl ?_ ?_ ?_ ?_
  · simp [Ledger.Allows, Return.closes, Progress.begins, finds, ledger, hnone]
  · simp [Ledger.after, Return.closes, Progress.begins, finds, ledger, carries, hnone, spawn, log,
      Activities.started, Activities.carries]
  · simp [Progress.lets, hnone]
  · simp [Progress.lets, hnone, spawn, log, Progress.begins]

end Accounts

/-- **What the owner's call does is accounted for.** -/
theorem Course.accounts {call : Call} {found : Status} {m m' : Machine} {p q : Progress}
    (h : Course m p m' q) (fits : p.Fits call found m)
    (halted : m.hasHalted = true → m.carries.isSome = true ∨ p.isJoining = true) :
    Accounts call found m p m' q := by
  cases h with
  | begins hnone =>
    refine .silent rfl rfl rfl ⟨fits, status_stopped hnone, hnone⟩ ?_
    simp [hasHalted, hnone]
  | finds ha running => exact .finds ha running fits
  | revives ha hhalted =>
    -- nobody joins at this point, so it is a fault that the machine halted over
    have carried := (halted (by simp [hasHalted, ha, hhalted])).resolve_right Bool.false_ne_true
    exact .revives ha hhalted fits carried
  | @idles again hnone =>
    cases again with
    | true =>
      -- a run comes here only if it found one that carries a fault
      exact absurd hnone (ne_none_of_carries fits.2.2)
    | false => exact .idles hnone fits
  | halts ha => exact .halts ha fits fun hh => (halted hh).resolve_right Bool.false_ne_true
  | @loses again hnone =>
    -- whoever joins has seen activities, and only who joins lets go of them
    cases again with
    | true => exact absurd hnone (ne_none_of_carries fits.2.2)
    | false => exact absurd hnone fits.2.2.1
  | @waits again a ha hdone =>
    refine .silent rfl (by simp [Progress.lets, ha, hdone]) rfl ?_ fun _ => .inr rfl
    cases again <;> exact fits
  | @reaps again a ha hdone hfault =>
    cases again with
    | true =>
      -- a run joins one that carries a fault, and a run that is done carries its own
      have carried : m.carries.isSome = true := fits.2.2
      simp [carries, ha, Activities.carries_of_allFinished hdone, hfault] at carried
    | false => exact .reaps ha hdone hfault fits
  | collects ha hdone hfault => exact .collects ha hdone hfault fits
  | spawns => exact .spawns fits
  | rests =>
    refine .silent rfl rfl rfl ?_ fun hh => .inl ((halted hh).resolve_right Bool.false_ne_true)
    exact fits

end Machine

/-- A step begins and ends no run, and is none of the owner's business. -/
theorem Shared.Placed.step_activities {s : Shared} (placed : s.Placed) (now : Nat) (random : UInt8)
    (earlier : Nat) :
    let s' := s.act ⟨now, random, .step earlier⟩
    s'.machine.activities = s.machine.activities ∧ s'.owner = s.owner ∧ s'.last = s.last := by
  simp only [Shared.act, Shared.moved, Shared.record]
  cases hp : s.steps[earlier]? with
  | none => exact ⟨rfl, rfl, rfl⟩
  | some p =>
    exact ⟨s.machine.advance_activities now random (placed.steps p (List.mem_of_getElem? hp)), rfl,
      rfl⟩

/-! ## The record -/

structure Chronicle where
  shared : Shared
  /-- every load that was begun, in that order -/
  loads : List Loading
  /-- what the owner's call found when it looked -/
  found : Status
  events : List Event
  /-- the activities that the machine has let go of -/
  left : List Activities

namespace Chronicle

inductive Move where
  | shared (move : Shared.Move)
  /-- somebody begins a load -/
  | load (source : Source)
  /-- the next action of the load that was begun after so many others -/
  | loading (earlier : Nat)

structure Turn where
  now : Nat
  random : UInt8
  move : Move

def start (m : Machine) : Chronicle := ⟨.start m, [], .stopped, [], []⟩

variable (c : Chronicle)

def machine : Machine := c.shared.machine

def finds : Status := c.shared.owner.finds c.machine c.found

def returns (next : Progress) : Option Event :=
  c.shared.owner.returns c.shared.last c.finds next

def act (t : Turn) : Chronicle :=
  match t.move with
  | .shared move =>
    let shared := c.shared.act ⟨t.now, t.random, move⟩
    match move with
    | .owner =>
      { c with shared := shared, found := c.finds, left := c.left ++ c.shared.owner.lets c.machine,
               events := c.events ++ (c.returns shared.owner).toList }
    | .activity actor =>
      { c with shared := shared,
               events := c.events ++ ((c.machine.meets t.random actor).map Event.met).toList }
    | _ => { c with shared := shared }
  | .load source => { c with loads := c.loads ++ [.reading source] }
  | .loading earlier =>
    match c.loads[earlier]? with
    | none => c
    | some load =>
      let (machine, load) := c.machine.advanceLoad load
      { c with shared := { c.shared with machine := machine },
               loads := c.loads.set earlier load }

def run (turns : List Turn) : Chronicle := turns.foldl act c

/-! ## The account agrees with the machine -/

/-- What holds at any time. -/
structure Kept (c : Chronicle) : Prop where
  placed : c.shared.Placed
  fits : c.shared.owner.Fits c.shared.last c.found c.machine
  /-- a run comes to a halt because of a fault or of a call that waits for it -/
  halted : c.machine.hasHalted = true →
    c.machine.carries.isSome = true ∨ c.shared.owner.isJoining = true
  legal : Legal c.events
  ledger : Ledger.blank.afterAll c.events = c.machine.ledger
  finished : ∀ a ∈ c.left, a.allFinished = true
  /-- the activities of every run are with the machine or were let go of -/
  counted : c.left.length + c.machine.activities.toList.length = c.events.countP Event.begins

namespace Kept

variable {c c' : Chronicle}

theorem start {m : Machine} (h : m.activities = none) : Kept (start m) := by
  refine ⟨Shared.Placed.start h, trivial, ?_, Legal.nil, ?_, nofun, ?_⟩
  · intro halted
    rw [Machine.hasHalted, show (Chronicle.start m).machine.activities = none from h] at halted
    cases halted
  · show Ledger.blank = m.ledger
    rw [Machine.ledger, h, Machine.carries_of_stopped h]
    rfl
  · show 0 + m.activities.toList.length = 0
    rw [h]
    rfl

/-- One more event, if it was allowed, and the machine did as the event says. -/
theorem recorded (h : Kept c) (c' : Chronicle) {e : Option Event}
    (hevents : c'.events = c.events ++ e.toList)
    (allowed : ∀ x, e = some x → c.machine.ledger.Allows x)
    (follows : c.machine.ledger.afterAll e.toList = c'.machine.ledger) :
    Legal c'.events ∧ Ledger.blank.afterAll c'.events = c'.machine.ledger := by
  rw [hevents, Ledger.afterAll_append, h.ledger]
  refine ⟨?_, follows⟩
  cases e with
  | none => simpa using h.legal
  | some x =>
    refine h.legal.snoc ?_
    rw [h.ledger]
    exact allowed x rfl

/-- **What others do is accounted for.** -/
theorem meanwhile (h : Kept c) {met : Option StackFault}
    (hm : Machine.Meanwhile c.machine c'.machine met) (placed : c'.shared.Placed)
    (howner : c'.shared.owner = c.shared.owner) (hlast : c'.shared.last = c.shared.last)
    (hfound : c'.found = c.found) (hleft : c'.left = c.left)
    (hevents : c'.events = c.events ++ (met.map Event.met).toList) : Kept c' := by
  have isSome : c'.machine.activities.isSome = c.machine.activities.isSome := by
    have := hm.stands
    cases ha : c.machine.activities <;> cases hb : c'.machine.activities <;> simp_all
  have accounted := h.recorded c' hevents
    (by
      rintro x hx
      rcases hm.carries with ⟨rfl, -⟩ | ⟨f, rfl, some, nothing, -⟩
      · cases hx
      · cases hx
        exact ⟨Option.isSome_iff_ne_none.mpr some, nothing⟩)
    (by
      rcases hm.carries with ⟨rfl, same⟩ | ⟨f, rfl, -, -, met⟩
      · simp [Machine.ledger, Ledger.afterAll, isSome, same]
      · simp [Machine.ledger, Ledger.afterAll, Ledger.after, isSome, met])
  refine ⟨placed, ?_, ?_, accounted.1, accounted.2, by rw [hleft]; exact h.finished, ?_⟩
  · rw [howner, hlast, hfound]
    exact h.fits.meanwhile hm
  · intro halted
    rw [howner]
    rcases hm.halted halted with before | carried
    · exact (h.halted before).imp_left hm.still
    · exact .inl carried
  · have length : c'.machine.activities.toList.length = c.machine.activities.toList.length := by
      cases ha : c.machine.activities <;> cases hb : c'.machine.activities <;> simp_all
    rw [hleft, length, h.counted, hevents, List.countP_append]
    cases met <;> rfl

/-- **What the owner does is accounted for.** -/
theorem owner (h : Kept c) (now : Nat) (random : UInt8) :
    Kept (c.act ⟨now, random, .shared .owner⟩) := by
  have course := c.machine.advance_course now random h.placed.owner
  have accounts := course.accounts h.fits h.halted
  have accounted := h.recorded (c.act ⟨now, random, .shared .owner⟩) rfl accounts.allowed
    accounts.follows
  refine ⟨h.placed.act ⟨now, random, .owner⟩, accounts.fits, accounts.halted, accounted.1,
    accounted.2, ?_, ?_⟩
  · intro a ha
    rcases List.mem_append.mp ha with ha | ha
    · exact h.finished a ha
    · exact accounts.finished a ha
  · have counted : (c.shared.owner.lets c.machine).length
        + (c.act ⟨now, random, .shared .owner⟩).machine.activities.toList.length
        = (c.returns (c.shared.act ⟨now, random, .owner⟩).owner).toList.countP Event.begins
          + c.machine.activities.toList.length := accounts.counted
    have before := h.counted
    show (c.left ++ c.shared.owner.lets c.machine).length + _
      = (c.events ++ (c.returns (c.shared.act ⟨now, random, .owner⟩).owner).toList).countP
          Event.begins
    rw [List.length_append, List.countP_append]
    omega

theorem call (h : Kept c) (now : Nat) (random : UInt8) (called : Call) :
    Kept (c.act ⟨now, random, .shared (.call called)⟩) := by
  have placed := h.placed.act ⟨now, random, .call called⟩
  have handover : c.shared.handover (.call called) = Handover.nothing := rfl
  cases returned : c.shared.owner.isReturned with
  | false =>
    have same : c.act ⟨now, random, .shared (.call called)⟩ = c := by
      simp [act, Shared.act, Shared.moved, returned, handover, Shared.Custody.record_nothing]
    rw [same]
    exact h
  | true =>
    have begun : c.act ⟨now, random, .shared (.call called)⟩
        = { c with shared := { c.shared with owner := called.first, last := called } } := by
      simp [act, Shared.act, Shared.moved, returned, handover, Shared.Custody.record_nothing]
    have shared : c.shared.act ⟨now, random, .call called⟩
        = { c.shared with owner := called.first, last := called } := by
      simp [Shared.act, Shared.moved, returned, handover, Shared.Custody.record_nothing]
    rw [shared] at placed
    rw [begun]
    refine ⟨placed, by cases called <;> rfl, ?_, h.legal, h.ledger, h.finished, h.counted⟩
    intro halted
    have nobody : c.shared.owner.isJoining = false := by
      cases hp : c.shared.owner <;> simp_all [Progress.isReturned, Progress.isJoining]
    exact .inl ((h.halted halted).resolve_right (by simp [nobody]))

theorem act (h : Kept c) (t : Turn) : Kept (c.act t) := by
  obtain ⟨now, random, move⟩ := t
  have aside {m : Machine} (same : m.activities = c.machine.activities) :
      Machine.Meanwhile c.machine m none := .of_activities same
  cases move with
  | load source => exact h.meanwhile (aside rfl) h.placed rfl rfl rfl rfl (List.append_nil _).symm
  | loading earlier =>
    cases hl : c.loads[earlier]? with
    | none => simpa only [Chronicle.act, hl] using h
    | some load =>
      have same := c.machine.advanceLoad_activities load
      simp only [Chronicle.act, hl]
      refine h.meanwhile (aside same) ?_ rfl rfl rfl rfl (List.append_nil _).symm
      exact h.placed.of_owner h.placed.steps rfl rfl (iff_of_eq (congrArg (· = none) same))
  | shared move =>
    have placed := h.placed.act ⟨now, random, move⟩
    cases move with
    | send e => exact h.meanwhile (aside rfl) placed rfl rfl rfl rfl (List.append_nil _).symm
    | enter => exact h.meanwhile (aside rfl) placed rfl rfl rfl rfl (List.append_nil _).symm
    | step earlier =>
      obtain ⟨same, howner, hlast⟩ := h.placed.step_activities now random earlier
      exact h.meanwhile (aside same) placed howner hlast rfl rfl (List.append_nil _).symm
    | call called => exact h.call now random called
    | owner => exact h.owner now random
    | activity actor =>
      exact h.meanwhile (Machine.act_meanwhile now random actor) placed rfl rfl rfl rfl rfl

theorem run (h : Kept c) (turns : List Turn) : Kept (c.run turns) := by
  induction turns generalizing c with
  | nil => exact h
  | cons t turns ih => exact ih (h.act t)

end Kept

/-- Every activities that a machine ever had and that are not done. -/
def alive (c : Chronicle) : List Activities :=
  (c.left ++ c.machine.activities.toList).filter fun a => !a.allFinished

theorem Kept.alive_eq {c : Chronicle} (h : Kept c) :
    c.alive = c.machine.activities.toList.filter fun a => !a.allFinished := by
  have done : c.left.filter (fun a => !a.allFinished) = [] := by
    rw [List.filter_eq_nil_iff]
    intro a ha
    simp [h.finished a ha]
  rw [alive, List.filter_append, done, List.nil_append]

/-- Nothing runs, and nothing is left that could. -/
structure AtRest (c : Chronicle) : Prop where
  running : c.machine.isRunning = false
  halted : c.machine.hasHalted = false
  alive : c.alive = []

theorem Kept.atRest {c : Chronicle} (h : Kept c) (hnone : c.machine.activities = none) :
    AtRest c :=
  ⟨by simp [Machine.isRunning, hnone], by simp [Machine.hasHalted, hnone],
    by simp [h.alive_eq, hnone]⟩

/-- What the owner of a machine can rely on. -/
structure Lawful (c : Chronicle) : Prop where
  exclusive : ¬ (c.machine.isRunning = true ∧ c.machine.hasHalted = true)
  stopped : c.shared.last = .stop → c.shared.owner.isReturned = true → AtRest c
  alone : c.alive.length ≤ 1
  /-- the activities of every run are accounted for -/
  counted : c.left.length + c.machine.activities.toList.length = c.events.countP Event.begins
  /-- a call begins a run exactly if it is asked to and finds none -/
  begins : ∀ r, .returned r ∈ c.events → (r.begun = true ↔ r.call = .run ∧ r.found = .stopped)
  /-- a fault is returned by the first call that ends a run after it was met, and by no other -/
  faults : ∀ before r after f, c.events = before ++ .returned r :: after →
    (r.result = .error f ↔ r.closes = true ∧ ∃ earlier since, before = earlier ++ .met f :: since
      ∧ ∀ e ∈ since, e.closes = false)
  halted : ∀ r, .returned r ∈ c.events → r.found = .halted → ∃ f, r.result = .error f
  /-- whoever was returned a fault has a machine that is stopped -/
  reaped : ∀ f, c.shared.owner = .returned (.error f) → AtRest c
  restarts : ∀ before r between r' after f,
    c.events = before ++ .returned r :: between ++ .returned r' :: after →
    (∀ e ∈ between, ∃ g, e = .met g) → r.result = .error f → r'.found = .stopped

/-- **The runs of a machine and their faults are accounted for.** Whatever is done to a machine that
is not running, by whom and in which order, nobody finds it running and halted; once a stop has
returned, whatever it returned, no activity is left; there never are two sets of activities at
a time; a run begins another exactly where it finds none; and the fault of a run is returned by the
first call that ends the run afterwards, a stop or a run of the halted machine, by that one only,
and it leaves the machine stopped. -/
theorem runs_accounted_for {m : Machine} (stopped : m.activities = none) (turns : List Turn) :
    Lawful ((start m).run turns) := by
  have kept := (Kept.start stopped).run turns
  generalize (Chronicle.start m).run turns = c at kept
  refine ⟨?_, ?_, ?_, kept.counted, fun r => kept.legal.begun_iff,
    fun before r after f => kept.legal.result_eq_error_iff,
    fun r => kept.legal.exists_fault_of_halted, ?_,
    fun before r between r' after f => kept.legal.found_stopped⟩
  · rintro ⟨running, halted⟩
    cases ha : c.machine.activities with
    | none => simp [Machine.isRunning, ha] at running
    | some a => simp_all [Machine.isRunning, Machine.hasHalted]
  · intro last returned
    rcases kept.placed.stopped last with early | early | ⟨-, none⟩
    · rw [early] at returned; cases returned
    · rw [early] at returned; cases returned
    · exact kept.atRest none
  · rw [kept.alive_eq]
    refine Nat.le_trans (List.length_filter_le ..) ?_
    cases c.machine.activities <;> simp
  · intro f returned
    have fits := kept.fits
    rw [returned] at fits
    exact kept.atRest fits

/-- A machine whose first instruction faults. -/
def unreturned : Machine :=
  ((Machine.new {} .silent none).load ⟨[0x00, 0xEE], none⟩).1

/-- A run that faults, a run that returns the fault, and a run that is stopped. -/
def revived : List Turn :=
  let ends : List Shared.Move := [.activity .timers, .activity .keys, .owner]
  let moves : List Shared.Move :=
    [.call .run, .owner, .owner] ++ List.replicate 4 (.activity .cpu)
      ++ [.call .run, .owner, .owner] ++ ends
      ++ [.call .run, .owner, .owner, .call .stop, .owner, .activity .cpu] ++ ends
  moves.map fun move => ⟨0, 0, .shared move⟩

/-- What happens in it: the second call finds the run halted, returns the fault and begins nothing.
The third begins another. -/
def revivedEvents : List Event :=
  [ .returned ⟨.run, .stopped, true, .ok ()⟩,
    .met (.underflow 0x200),
    .returned ⟨.run, .halted, false, .error (.underflow 0x200)⟩,
    .returned ⟨.run, .stopped, true, .ok ()⟩,
    .returned ⟨.stop, .running, false, .ok ()⟩ ]

theorem runs_accounted_for_revived :
    let c := (start unreturned).run revived
    unreturned.activities = none ∧ (c.shared.last = .stop ∧ c.shared.owner.isReturned = true)
      ∧ AtRest c ∧ c.events = revivedEvents ∧ c.left.length = 2 := by
  have facts :
      let c := (start unreturned).run revived
      (c.shared.last = .stop ∧ c.shared.owner.isReturned = true) ∧ c.events = revivedEvents
        ∧ c.machine.activities = none := by
    decide +kernel
  have stopped : unreturned.activities = none := by decide +kernel
  have lawful := runs_accounted_for stopped revived
  generalize (start unreturned).run revived = c at *
  obtain ⟨⟨last, returned⟩, happened, none⟩ := facts
  refine ⟨stopped, ⟨last, returned⟩, lawful.stopped last returned, happened, ?_⟩
  have counted := lawful.counted
  rw [none, happened] at counted
  exact counted

end Chronicle

end Chip8
