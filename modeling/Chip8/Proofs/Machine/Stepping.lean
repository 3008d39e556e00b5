import Chip8.Machine.Calls
import Chip8.Proofs.Machine.Faults

/-!
# Stepping and running

An instruction is executed in one of two ways, by a step that somebody makes or by the cpu of a
running machine. A step applies the queued key events first, which in a running machine is up to
the keys activity. The two ways share no code above `refreshKeys` and `execute`, and this file says
that they are one all the same (`stepping_is_ticking`): a step does what a tick of the keys activity
and a tick of the cpu do, tells the frontend the same things in the same order, and fails with the
same fault, which only the cpu tells of.

What the frontend is told is put on record action by action (`Overheard`). `act_frontend` and
`advance_frontend` say that the record is true: these are all the sends there are.

The journal is left out. It differs, if only because a tick that fails is noted there.
-/

set_option autoImplicit false

namespace Chip8

/-! ## What is told -/

def CpuPhase.tells : CpuPhase → List Update
  | .sending (u :: _) _ => [u]
  | _ => []

def KeysPhase.tells : KeysPhase → List Update
  | .sending => [.keys]
  | _ => []

def Progress.tells : Progress → List Update
  | .sending (u :: _) _ => [u]
  | _ => []

def Activities.tells (a : Activities) : Actor → List Update
  | .cpu => a.cpu.tells
  | .timers => []
  | .keys => a.keys.tells

def Frontend.sendAll (f : Frontend) (updates : List Update) : Frontend := updates.foldl send f

theorem Frontend.sendAll_append (f : Frontend) (before after : List Update) :
    f.sendAll (before ++ after) = (f.sendAll before).sendAll after := List.foldl_append

theorem Update.length_ofStep_le (outcome : Except StackFault Executed) :
    (ofStep outcome).length ≤ 2 := by
  cases outcome with
  | error fault => exact Nat.zero_le 2
  | ok done => cases h : done.redraw <;> simp [ofStep, h]

namespace Machine

/-- What the next action of an activity tells the frontend. -/
def tells (m : Machine) (actor : Actor) : List Update :=
  match m.activities with
  | none => []
  | some a => a.tells actor

theorem act_frontend (now : Nat) (random : UInt8) (m : Machine) (actor : Actor) :
    (m.act now random actor).frontend = m.frontend.sendAll (m.tells actor) := by
  unfold act tells
  cases m.activities with
  | none => rfl
  | some a =>
    cases actor with
    | cpu =>
      dsimp only [actCpu, Activities.tells]
      generalize a.cpu = phase
      split
      · split <;> rfl
      · split <;> rfl
      · exact notify_frontend m _
      all_goals rfl
    | timers =>
      dsimp only [actTimers, Activities.tells]
      split
      · split <;> rfl
      all_goals rfl
    | keys =>
      dsimp only [actKeys, Activities.tells]
      generalize a.keys = phase
      split
      · split <;> rfl
      · rfl
      · rfl
      · exact notify_frontend m .keys
      · rfl

theorem Course.frontend {m m' : Machine} {p q : Progress} (h : Course m p m' q) :
    m'.frontend = m.frontend := by
  cases h <;> rfl

theorem advance_frontend (now : Nat) (random : UInt8) (m : Machine) (p : Progress) :
    (m.advance now random p).1.frontend = m.frontend.sendAll p.tells := by
  cases p with
  | step | stepHolding => rfl
  | sending pending result =>
    cases pending with
    | nil => rfl
    | cons u rest => exact notify_frontend m u
  | run | halting | joining | spawning | returned =>
    exact (m.advance_course now random rfl).frontend

theorem notifyAll_frontend (m : Machine) (updates : List Update) :
    (m.notifyAll updates).frontend = m.frontend.sendAll updates := by
  induction updates generalizing m with
  | nil => rfl
  | cons u rest ih => rw [notifyAll, List.foldl_cons, ← notifyAll, ih, notify_frontend]; rfl

end Machine

/-- A machine, and everything that its frontend was told, from some moment on. -/
structure Overheard where
  machine : Machine
  told : List Update

namespace Overheard

variable {now : Nat} {random : UInt8}

def act (now : Nat) (random : UInt8) (o : Overheard) (actor : Actor) : Overheard :=
  ⟨o.machine.act now random actor, o.told ++ o.machine.tells actor⟩

/-- `Machine.tick`, with what is told on the way. -/
def tick (now : Nat) (random : UInt8) (actor : Actor) : Nat → Overheard → Overheard
  | 0, o => o
  | limit + 1, o =>
    let o := o.act now random actor
    if o.machine.atRest actor then o else tick now random actor limit o

theorem tick_machine (actor : Actor) (limit : Nat) (o : Overheard) :
    (o.tick now random actor limit).machine = o.machine.tick now random actor limit := by
  induction limit generalizing o with
  | zero => rfl
  | succ limit ih =>
    rw [tick, Machine.tick, apply_ite Overheard.machine, ih]
    rfl

section

variable {actor : Actor} {o o' : Overheard} {limit : Nat}

theorem act_silent (h : o.machine.tells actor = []) :
    o.act now random actor = ⟨o.machine.act now random actor, o.told⟩ := by
  rw [act, h, List.append_nil]

theorem tick_on (acts : o.act now random actor = o')
    (goesOn : o'.machine.atRest actor = false) :
    o.tick now random actor (limit + 1) = o'.tick now random actor limit := by
  rw [tick, acts]
  exact if_neg (Bool.eq_false_iff.mp goesOn)

theorem tick_over (acts : o.act now random actor = o') (rests : o'.machine.atRest actor = true) :
    o.tick now random actor (limit + 1) = o' := by
  rw [tick, acts]
  exact if_pos rests

end

/-- The next action of a call. -/
def advance (now : Nat) (random : UInt8) (x : Overheard × Progress) : Overheard × Progress :=
  let (machine, p) := x.1.machine.advance now random x.2
  (⟨machine, x.1.told ++ x.2.tells⟩, p)

/-- So many actions of a call, with nobody else acting in between. -/
def follow (now : Nat) (random : UInt8) : Nat → Overheard × Progress → Overheard × Progress
  | 0, x => x
  | count + 1, x => follow now random count (advance now random x)

theorem follow_returned (count : Nat) (o : Overheard) (result : Except StackFault Unit) :
    follow now random count (o, .returned result) = (o, .returned result) := by
  induction count with
  | zero => rfl
  | succ count ih =>
    have rests : advance now random (o, .returned result) = (o, .returned result) := by
      simp [advance, Machine.advance, Progress.tells]
    rw [follow, rests, ih]

theorem follow_sending (result : Except StackFault Unit) (pending : List Update) :
    ∀ (count : Nat) (o : Overheard), pending.length < count →
      follow now random count (o, .sending pending result)
        = (⟨o.machine.notifyAll pending, o.told ++ pending⟩, .returned result) := by
  induction pending with
  | nil =>
    rintro (_ | count) o h
    · cases h
    · have returns : advance now random (o, .sending [] result) = (o, .returned result) := by
        simp [advance, Machine.advance, Progress.tells]
      rw [follow, returns, follow_returned, List.append_nil]
      rfl
  | cons u rest ih =>
    rintro (_ | count) o h
    · cases h
    · have sends : advance now random (o, .sending (u :: rest) result)
          = (⟨o.machine.notify u, o.told ++ [u]⟩, .sending rest result) := rfl
      rw [follow, sends, ih count _ (by simpa using h), List.append_assoc]
      rfl

end Overheard

namespace Machine

variable (now : Nat) (random : UInt8) (m : Machine)

/-! ## A step, in one go and action by action -/

/-- The machine once what waits in its queue was applied, and whether that changed a key. -/
def refreshed : Machine × Bool := m.takeKeys.2.refreshKeys now m.queue

def keyNews : List Update := if (m.refreshed now).2 then [.keys] else []

/-- What the next instruction comes to. -/
def outcome : Except StackFault Executed := (m.execute random).2

theorem stepOnce_eq : m.stepOnce now random
    = (((m.refreshed now).1.execute random).1.notifyAll
          (m.keyNews now ++ Update.ofStep ((m.refreshed now).1.outcome random)),
        ((m.refreshed now).1.outcome random).map Executed.listing) := rfl

theorem length_news_lt (outcome : Except StackFault Executed) :
    (m.keyNews now ++ Update.ofStep outcome).length < 4 := by
  have few := Update.length_ofStep_le outcome
  rw [keyNews, List.length_append]
  split <;> simp <;> omega

/-- **A step is six actions at most**, and without anybody acting in between they come to
`stepOnce`. -/
theorem follow_step : Overheard.follow now random 6 (⟨m, []⟩, .step)
    = (⟨(m.stepOnce now random).1,
          m.keyNews now ++ Update.ofStep ((m.refreshed now).1.outcome random)⟩,
        .returned ((m.stepOnce now random).2.map fun _ => ())) := by
  have few := m.length_news_lt now ((m.refreshed now).1.outcome random)
  have sending := @Overheard.follow_sending now random
    (((m.refreshed now).1.outcome random).map fun _ => ()) _ 4
    ⟨((m.refreshed now).1.execute random).1, []⟩ few
  -- taking the events and applying them come before anything is sent
  refine Eq.trans (b := Overheard.follow now random 4 _) rfl (sending.trans ?_)
  refine Prod.ext rfl ?_
  rw [stepOnce_eq]
  cases (m.refreshed now).1.outcome random <;> rfl

/-! ## One tick -/

/-- The machine in a run. -/
def during (a : Activities) : Machine := { m with activities := some a }

theorem notify_during (a : Activities) (u : Update) :
    (m.during a).notify u = (m.notify u).during a := by
  unfold notify during
  split <;> rfl

section

variable {halt : Bool} {cpu : CpuPhase} {timers : TimersPhase} {keys : KeysPhase}

theorem tick_keys_due (limit : Nat) (told : List Update) :
    (⟨m.during ⟨halt, cpu, timers, .due⟩, told⟩ : Overheard).tick now random .keys (limit + 3)
      = ⟨((m.refreshed now).1.notifyAll (m.keyNews now)).during ⟨halt, cpu, timers, .resting⟩,
          told ++ m.keyNews now⟩ := by
  rw [Overheard.tick_on (Overheard.act_silent rfl) rfl]
  have applies : (⟨(m.during ⟨halt, cpu, timers, .due⟩).act now random .keys, told⟩
        : Overheard).act now random .keys
      = ⟨(m.refreshed now).1.during ⟨halt, cpu, timers,
          if (m.refreshed now).2 then .sending else .resting⟩, told⟩ :=
    Overheard.act_silent rfl
  unfold keyNews
  cases changed : (m.refreshed now).2 with
  | false =>
    rw [changed, if_neg Bool.false_ne_true] at applies
    rw [Overheard.tick_over applies rfl]
    exact congrArg (Overheard.mk _) (List.append_nil told).symm
  | true =>
    rw [changed, if_pos rfl] at applies
    have tells : (⟨(m.refreshed now).1.during ⟨halt, cpu, timers, .sending⟩, told⟩
          : Overheard).act now random .keys
        = ⟨((m.refreshed now).1.notify .keys).during ⟨halt, cpu, timers, .resting⟩,
            told ++ [.keys]⟩ := by
      show (⟨(((m.refreshed now).1.during _).notify .keys).during _, told ++ [.keys]⟩
        : Overheard) = _
      rw [notify_during]
      rfl
    rw [Overheard.tick_on applies rfl, Overheard.tick_over tells rfl]
    rfl

/-- The cpu sends what it has left to send, and then rests or gives up. -/
theorem tick_cpu_sending (fault : Option StackFault) (pending : List Update) :
    ∀ (m : Machine) (limit : Nat) (told : List Update), pending.length < limit →
    (⟨m.during ⟨halt, .sending pending fault, timers, keys⟩, told⟩ : Overheard).tick now random
        .cpu limit
      = ⟨match fault with
          | none => (m.notifyAll pending).during ⟨halt, .resting, timers, keys⟩
          | some f => ((m.notifyAll pending).log [.activityFailed "cpu" f]).during
              ⟨true, .finished fault, timers, keys⟩,
          told ++ pending⟩ := by
  induction pending with
  | nil =>
    rintro m (_ | limit) told h
    · cases h
    · rw [List.append_nil]
      cases fault <;> exact Overheard.tick_over (Overheard.act_silent rfl) rfl
  | cons u rest ih =>
    rintro m (_ | limit) told h
    · cases h
    · have tells : (⟨m.during ⟨halt, .sending (u :: rest) fault, timers, keys⟩, told⟩
            : Overheard).act now random .cpu
          = ⟨(m.notify u).during ⟨halt, .sending rest fault, timers, keys⟩, told ++ [u]⟩ := by
        show (⟨((m.during _).notify u).during _, told ++ [u]⟩ : Overheard) = _
        rw [notify_during]
        rfl
      rw [Overheard.tick_on tells rfl, ih _ limit _ (Nat.lt_of_succ_lt_succ h), List.append_assoc]
      rfl

/-- What the cpu tells of its next instruction. Unlike a step, it tells of a fault. -/
def cpuNews : List Update :=
  match m.outcome random with
  | .ok _ => Update.ofStep (m.outcome random)
  | .error fault => [.fault fault.message]

theorem tick_cpu_due (limit : Nat) (told : List Update) :
    (⟨m.during ⟨halt, .due, timers, keys⟩, told⟩ : Overheard).tick now random .cpu (limit + 5)
      = ⟨match m.outcome random with
          | .ok _ => ((m.execute random).1.notifyAll (m.cpuNews random)).during
              ⟨halt, .resting, timers, keys⟩
          | .error fault => (((m.execute random).1.notifyAll (m.cpuNews random)).log
              [.activityFailed "cpu" fault]).during ⟨true, .finished (some fault), timers, keys⟩,
          told ++ m.cpuNews random⟩ := by
  have executes : (⟨m.during ⟨halt, .due, timers, keys⟩, told⟩ : Overheard).act now random .cpu
      = ⟨match m.outcome random with
          | .ok _ => (m.execute random).1.during
              ⟨halt, .sending (Update.ofStep (m.outcome random)) none, timers, keys⟩
          | .error fault => (m.execute random).1.during
              ⟨halt, .sending [.fault fault.message] (some fault), timers, keys⟩, told⟩ :=
    Overheard.act_silent rfl
  unfold cpuNews
  cases came : m.outcome random with
  | ok done =>
    rw [came] at executes
    have few : (Update.ofStep (.ok done)).length < limit + 4 := by
      have := Update.length_ofStep_le (.ok done)
      omega
    rw [Overheard.tick_on executes rfl]
    exact tick_cpu_sending now random none _ _ _ told few
  | error fault =>
    rw [came] at executes
    rw [Overheard.tick_on executes rfl]
    exact tick_cpu_sending now random (some fault) _ _ _ told (by simp)

end

end Machine

/-- The next tick begins at once: the activity has looked at the halt flag, or will find it
down. -/
def Activities.Poised (a : Activities) : Actor → Prop
  | .cpu => a.cpu = .due ∨ (a.cpu = .resting ∧ a.halt = false)
  | .timers => a.timers = .due ∨ (a.timers = .resting ∧ a.halt = false)
  | .keys => a.keys = .due ∨ (a.keys = .resting ∧ a.halt = false)

namespace Machine

variable (now : Nat) (random : UInt8) (m : Machine) {a : Activities}

theorem tick_keys (poised : a.Poised .keys) (told : List Update) :
    (⟨m.during a, told⟩ : Overheard).tick now random .keys 6
      = ⟨((m.refreshed now).1.notifyAll (m.keyNews now)).during { a with keys := .resting },
          told ++ m.keyNews now⟩ := by
  obtain ⟨halt, cpu, timers, keys⟩ := a
  rcases poised with due | ⟨resting, down⟩
  · cases due
    exact tick_keys_due now random m 3 told
  · cases resting
    cases down
    have looks : (⟨m.during ⟨false, cpu, timers, .resting⟩, told⟩ : Overheard).act now random .keys
        = ⟨m.during ⟨false, cpu, timers, .due⟩, told⟩ := Overheard.act_silent rfl
    rw [Overheard.tick_on looks rfl]
    exact tick_keys_due now random m 2 told

theorem tick_cpu (poised : a.Poised .cpu) (told : List Update) :
    (⟨m.during a, told⟩ : Overheard).tick now random .cpu 6
      = ⟨match m.outcome random with
          | .ok _ => ((m.execute random).1.notifyAll (m.cpuNews random)).during
              { a with cpu := .resting }
          | .error fault => (((m.execute random).1.notifyAll (m.cpuNews random)).log
              [.activityFailed "cpu" fault]).during
              { a with halt := true, cpu := .finished (some fault) },
          told ++ m.cpuNews random⟩ := by
  obtain ⟨halt, cpu, timers, keys⟩ := a
  rcases poised with due | ⟨resting, down⟩
  · cases due
    exact tick_cpu_due now random m 1 told
  · cases resting
    cases down
    have looks : (⟨m.during ⟨false, .resting, timers, keys⟩, told⟩ : Overheard).act now random .cpu
        = ⟨m.during ⟨false, .due, timers, keys⟩, told⟩ := Overheard.act_silent rfl
    rw [Overheard.tick_on looks rfl]
    exact tick_cpu_due now random m 0 told

/-! ## A step is a tick of the keys and then one of the cpu -/

/-- The same interpreter, under the same configuration, with the same events waiting. -/
structure Alike (m m' : Machine) : Prop where
  interpreter : m.interpreter = m'.interpreter
  queue : m.queue = m'.queue
  config : m.config = m'.config

namespace Alike

variable {m m' m'' : Machine}

theorem trans (h : m.Alike m') (h' : m'.Alike m'') : m.Alike m'' :=
  ⟨h.interpreter.trans h'.interpreter, h.queue.trans h'.queue, h.config.trans h'.config⟩

theorem symm (h : m.Alike m') : m'.Alike m := ⟨h.interpreter.symm, h.queue.symm, h.config.symm⟩

theorem during (m : Machine) (a : Activities) : (m.during a).Alike m := ⟨rfl, rfl, rfl⟩

theorem log (m : Machine) (entries : List Entry) : (m.log entries).Alike m := ⟨rfl, rfl, rfl⟩

theorem notify (m : Machine) (u : Update) : (m.notify u).Alike m := by
  unfold Machine.notify
  split <;> exact ⟨rfl, rfl, rfl⟩

theorem notifyAll (m : Machine) (updates : List Update) : (m.notifyAll updates).Alike m := by
  induction updates generalizing m with
  | nil => exact ⟨rfl, rfl, rfl⟩
  | cons u rest ih => exact (ih (m.notify u)).trans (.notify m u)

theorem execute (h : m.Alike m') (random : UInt8) :
    (m.execute random).1.Alike (m'.execute random).1 ∧ m.outcome random = m'.outcome random := by
  obtain ⟨config, interpreter, queue, _, _, _⟩ := m
  obtain ⟨config', interpreter', queue', _, _, _⟩ := m'
  obtain ⟨rfl, rfl, rfl⟩ := h
  exact ⟨⟨rfl, rfl, rfl⟩, rfl⟩

theorem refreshKeys (h : m.Alike m') (now : Nat) (events : List KeyEvent) :
    (m.refreshKeys now events).1.Alike (m'.refreshKeys now events).1
      ∧ (m.refreshKeys now events).2 = (m'.refreshKeys now events).2 := by
  obtain ⟨config, interpreter, queue, _, _, _⟩ := m
  obtain ⟨config', interpreter', queue', _, _, _⟩ := m'
  obtain ⟨rfl, rfl, rfl⟩ := h
  exact ⟨⟨rfl, rfl, rfl⟩, rfl⟩

theorem takeKeys (h : m.Alike m') : m.takeKeys.2.Alike m'.takeKeys.2 :=
  ⟨h.interpreter, rfl, h.config⟩

theorem refreshed (h : m.Alike m') (now : Nat) :
    (m.refreshed now).1.Alike (m'.refreshed now).1 ∧ m.keyNews now = m'.keyNews now := by
  have same := h.takeKeys.refreshKeys now m.queue
  rw [Machine.refreshed, Machine.refreshed, keyNews, keyNews, Machine.refreshed, Machine.refreshed,
    ← h.queue]
  exact ⟨same.1, by rw [same.2]⟩

theorem snapshot (h : m.Alike m') :
    m.snapshot.2.Alike m'.snapshot.2 ∧ m.snapshot.1 = m'.snapshot.1 := by
  obtain ⟨config, interpreter, queue, _, _, _⟩ := m
  obtain ⟨config', interpreter', queue', _, _, _⟩ := m'
  obtain ⟨rfl, rfl, rfl⟩ := h
  exact ⟨⟨rfl, rfl, rfl⟩, rfl⟩

theorem sendKey (h : m.Alike m') (e : KeyEvent) : (m.sendKey e).Alike (m'.sendKey e) :=
  ⟨h.interpreter, congrArg (· ++ [e]) h.queue, h.config⟩

end Alike

/-- What a step, or the ticks in its place, told and came to. -/
structure Report where
  told : List Update
  result : Except StackFault Unit

/-- The report of who tells of a fault, too. -/
def Report.withFault (r : Report) : Report :=
  match r.result with
  | .ok _ => r
  | .error fault => { r with told := r.told ++ [.fault fault.message] }

/-- Makes a step, action by action. -/
def stepped : Machine × Report :=
  ((m.stepOnce now random).1,
    ⟨(Overheard.follow now random 6 (⟨m, []⟩, .step)).1.told,
      (m.stepOnce now random).2.map fun _ => ()⟩)

/-- Lets the keys activity do a tick, and then the cpu. -/
def ticked : Machine × Report :=
  let o := ((⟨m, []⟩ : Overheard).tick now random .keys 6).tick now random .cpu 6
  (o.machine, ⟨o.told, match o.machine.carries with
    | none => .ok ()
    | some fault => .error fault⟩)

theorem stepped_alike : (m.stepped now random).1.Alike ((m.refreshed now).1.execute random).1 :=
  .notifyAll _ _

theorem stepped_report : (m.stepped now random).2
    = ⟨m.keyNews now ++ Update.ofStep ((m.refreshed now).1.outcome random),
        ((m.refreshed now).1.outcome random).map fun _ => ()⟩ := by
  rw [stepped, follow_step, stepOnce_eq]
  cases (m.refreshed now).1.outcome random <;> rfl

theorem Alike.stepped {m m' : Machine} (h : m.Alike m') :
    (m.stepped now random).1.Alike (m'.stepped now random).1
      ∧ (m.stepped now random).2 = (m'.stepped now random).2 := by
  obtain ⟨refreshed, keys⟩ := h.refreshed now
  obtain ⟨executed, came⟩ := refreshed.execute random
  rw [stepped_report, stepped_report, keys, came]
  refine ⟨?_, rfl⟩
  exact (m.stepped_alike now random).trans (executed.trans (m'.stepped_alike now random).symm)

/-- The activities after a tick of the keys and one of the cpu: both ticks are over. -/
def ticksLeave (a : Activities) : Except StackFault Executed → Activities
  | .ok _ => { a with keys := .resting, cpu := .resting }
  | .error fault => { a with halt := true, keys := .resting, cpu := .finished (some fault) }

/-- **The two ticks do what a step does.** -/
theorem ticked_during (keys : a.Poised .keys) (cpu : a.Poised .cpu) :
    ((m.during a).ticked now random).1.Alike (m.stepped now random).1
      ∧ ((m.during a).ticked now random).1.activities
          = some (ticksLeave a ((m.refreshed now).1.outcome random))
      ∧ ((m.during a).ticked now random).2 = (m.stepped now random).2.withFault := by
  have told := Alike.notifyAll (m.refreshed now).1 (m.keyNews now)
  obtain ⟨executed, came⟩ := told.execute random
  have news : ((m.refreshed now).1.notifyAll (m.keyNews now)).cpuNews random
      = (m.refreshed now).1.cpuNews random := by
    rw [cpuNews, cpuNews, came]
  have stepped := m.stepped_alike now random
  rw [stepped_report, ticked, tick_keys now random m keys,
    tick_cpu now random _ (a := { a with keys := .resting }) cpu, came, news]
  unfold cpuNews
  cases (m.refreshed now).1.outcome random with
  | ok done =>
    refine ⟨?_, rfl, rfl⟩
    exact (Alike.during _ _).trans ((Alike.notifyAll _ _).trans (executed.trans stepped.symm))
  | error fault =>
    refine ⟨?_, rfl, ?_⟩
    · exact (Alike.during _ _).trans ((Alike.log _ _).trans
        ((Alike.notifyAll _ _).trans (executed.trans stepped.symm)))
    · show Report.mk _ _ = Report.mk _ _
      rw [Update.ofStep, List.append_nil]
      rfl

/-! ## Any number of steps -/

/-- Something that is asked of a machine. -/
inductive Request where
  | key (event : KeyEvent)
  | step (now : Nat) (random : UInt8)

/-- Does as asked by making steps. -/
def answer (m : Machine) : Request → Machine × List Report
  | .key e => (m.sendKey e, [])
  | .step now random => ((m.stepped now random).1, [(m.stepped now random).2])

/-- Does as asked by letting the activities do their ticks. A run that comes to a halt is stopped,
and the machine run again. -/
def mirror (m : Machine) : Request → Machine × List Report
  | .key e => (m.sendKey e, [])
  | .step now random =>
    let (m, report) := m.ticked now random
    (if m.hasHalted then ((m.stop now).1.run now).1 else m, [report])

/-- Does all that is asked, the first request first. -/
def serve (one : Machine → Request → Machine × List Report) (m : Machine) :
    List Request → Machine × List Report
  | [] => (m, [])
  | r :: rest =>
    let (m, reports) := one m r
    let (m, more) := serve one m rest
    (m, reports ++ more)

/-- An activity that is done after one action stays done. -/
theorem foldl_act_of_done {m m' : Machine} {actor : Actor} (acts : m.act now 0 actor = m')
    (done : m'.act now 0 actor = m') :
    (List.replicate 6 actor).foldl (act now 0) m = m' := by
  simp only [List.replicate, List.foldl_cons, List.foldl_nil, acts, done]

/-- A halted run that rests is stopped without anything else happening. -/
theorem stop_during (fault : StackFault) :
    let halted := m.during ⟨true, .finished (some fault), .resting, .resting⟩
    (halted.stop now).1.Alike m ∧ (halted.stop now).1.activities = none
      ∧ (halted.stop now).2 = .error fault := by
  have winds : ((m.log [.stopping]).during
        ⟨true, .finished (some fault), .resting, .resting⟩).windDown now
      = (((m.log [.stopping]).log [.activityStopped "keypad"]).log
          [.activityStopped "timers"]).during ⟨true, .finished (some fault), .finished, .finished⟩ := by
    generalize m.log [.stopping] = m
    rw [windDown, List.foldl_cons, foldl_act_of_done now rfl rfl, List.foldl_cons,
      foldl_act_of_done now rfl rfl, List.foldl_cons, foldl_act_of_done now rfl rfl, List.foldl_nil]
    rfl
  have stops : (m.during ⟨true, .finished (some fault), .resting, .resting⟩).stop now
      = (((m.log [.stopping]).during
        ⟨true, .finished (some fault), .resting, .resting⟩).windDown now).reap := rfl
  intro halted
  have alike := (Alike.log _ [.activityStopped "timers"]).trans
    ((Alike.log _ [.activityStopped "keypad"]).trans (Alike.log m [.stopping]))
  rw [show halted.stop now = _ from stops, winds]
  -- what the journal holds by now is of no account
  generalize ((m.log [.stopping]).log [.activityStopped "keypad"]).log [.activityStopped "timers"]
    = ended at alike ⊢
  exact ⟨⟨alike.interpreter, alike.queue, alike.config⟩, rfl, rfl⟩

theorem during_of {m : Machine} (h : m.activities = some a) : m.during a = m := by
  obtain ⟨_, _, _, _, _, _⟩ := m
  cases h
  rfl

/-- **One request.** The running machine keeps up with the other one. -/
theorem mirror_answer {m m' : Machine} (alike : m'.Alike m)
    (running : m'.activities = some .started) (r : Request) :
    (m'.mirror r).1.Alike (m.answer r).1
      ∧ (m'.mirror r).1.activities = some .started
      ∧ (m'.mirror r).2 = (m.answer r).2.map Report.withFault := by
  cases r with
  | key e => exact ⟨alike.sendKey e, running, rfl⟩
  | step now random =>
    have ticks := ticked_during now random m' (a := .started) (.inr ⟨rfl, rfl⟩) (.inr ⟨rfl, rfl⟩)
    rw [during_of running] at ticks
    obtain ⟨stepped, reports⟩ := alike.stepped now random
    obtain ⟨does, leaves, tells⟩ := ticks
    rw [reports] at tells
    have done := does.trans stepped
    simp only [mirror, answer]
    rw [tells]
    generalize (m'.ticked now random).1 = m'' at done leaves ⊢
    generalize (m'.refreshed now).1.outcome random = outcome at leaves
    cases outcome with
    -- its two activities have taken their turns, and are due again
    | ok _ =>
      have goesOn : m''.hasHalted = false := by rw [hasHalted, leaves]; rfl
      rw [goesOn]
      exact ⟨done, leaves, rfl⟩
    -- the machine that is run has halted. It is stopped, which collects the fault, and run again,
    -- and is then where the other one has been all the time
    | error fault =>
      have halts : m''.hasHalted = true := by rw [hasHalted, leaves]; rfl
      obtain ⟨same, stopped, -⟩ := m''.stop_during now fault
      have again : m''.during ⟨true, .finished (some fault), .resting, .resting⟩ = m'' :=
        during_of leaves
      rw [again] at same stopped
      rw [halts, if_pos rfl, run, stopped]
      exact ⟨⟨same.interpreter.trans done.interpreter, same.queue.trans done.queue,
        same.config.trans done.config⟩, rfl, rfl⟩

theorem serve_mirror (requests : List Request) {m m' : Machine} (alike : m'.Alike m)
    (running : m'.activities = some .started) :
    (serve mirror m' requests).1.Alike (serve answer m requests).1
      ∧ (serve mirror m' requests).2 = (serve answer m requests).2.map Report.withFault := by
  induction requests generalizing m m' with
  | nil => exact ⟨alike, rfl⟩
  | cons r rest ih =>
    obtain ⟨done, goesOn, tells⟩ := mirror_answer alike running r
    obtain ⟨rests, reports⟩ := ih done goesOn
    refine ⟨rests, ?_⟩
    simp only [serve]
    rw [tells, reports, List.map_append]

/-- **Stepping is ticking.** A step does to interpreter and queue what the next tick of the keys
activity and the next tick of the cpu would do at that moment, whatever the state and whatever
waits; the frontend is told the same in the same order, and the step fails if and as the cpu does,
which tells of that besides. So a machine that is run keeps up with one that is stepped, as long
as its keys activity and its cpu take turns: with every request that is made of both they report
the same. A step that fails has still applied the events that waited, and told of a key that
changed, and told nothing else. -/
theorem stepping_is_ticking :
    (∀ (m : Machine) (a : Activities) (now : Nat) (random : UInt8),
      a.Poised .keys → a.Poised .cpu →
        ((m.during a).ticked now random).1.Alike (m.stepped now random).1
          ∧ ((m.during a).ticked now random).1.activities
              = some (ticksLeave a ((m.refreshed now).1.outcome random))
          ∧ ((m.during a).ticked now random).2 = (m.stepped now random).2.withFault)
      ∧ (∀ (m : Machine) (requests : List Request), m.activities = none → ∀ now,
        (serve mirror (m.run now).1 requests).1.Alike (serve answer m requests).1
          ∧ (serve mirror (m.run now).1 requests).2
              = (serve answer m requests).2.map Report.withFault)
      ∧ ∀ (m : Machine) (now : Nat) (random : UInt8) (fault : StackFault),
        (m.stepOnce now random).2 = .error fault →
          (m.stepOnce now random).1.queue = []
            ∧ (m.stepOnce now random).1.state.keypad
                = m.state.keypad.replay m.config.keyRelease [(now, m.queue)]
            ∧ (m.stepped now random).2.told
                = if (m.state.keypad.refresh m.config.keyRelease now m.queue).2 then [.keys]
                  else [] := by
  refine ⟨fun m a now random keys cpu => ?_, fun m requests stopped now => ?_,
    fun m now random fault failed => ?_⟩
  · exact ticked_during now random m keys cpu
  · have running : (m.run now).1 = m.spawn := by rw [run, stopped]
    rw [running]
    exact serve_mirror requests ⟨rfl, rfl, rfl⟩ rfl
  · have alike := m.stepped_alike now random
    have keypad : (m.stepOnce now random).1.state.keypad = (m.refreshed now).1.state.keypad :=
      (congrArg (fun i => i.state.keypad) alike.interpreter).trans (execute_keypad random _)
    refine ⟨alike.queue, keypad.trans (refreshKeys_keypad now m.queue m.takeKeys.2), ?_⟩
    rw [stepOnce_eq] at failed
    rw [stepped_report]
    cases came : (m.refreshed now).1.outcome random with
    | ok done => rw [came] at failed; cases failed
    | error f => exact List.append_nil _

/-- A machine whose program waits for a key, and then returns from a subroutine that nobody called. -/
def awaiting : Machine :=
  ((Machine.new {} (Frontend.ofCapacity 8) none).load ⟨[0xF0, 0x0A, 0x00, 0xEE], none⟩).1

def asked : List Request := [.step 0 0, .key (.press 7), .step 0 0, .key (.release 7)]

theorem stepping_is_ticking_keyThenUnderflow :
    let left := serve answer awaiting asked
    (awaiting.activities = none
        ∧ (serve mirror (awaiting.run 0).1 asked).1.Alike left.1
        ∧ (serve mirror (awaiting.run 0).1 asked).2.map Report.told
            = [[.registers], [.keys, .registers]])
      ∧ (Activities.started.Poised .keys ∧ Activities.started.Poised .cpu
        ∧ ((left.1.during .started).ticked 0 0).2.told
            = [.keys, .fault (StackFault.underflow 0x202).message])
      ∧ ((left.1.stepOnce 0 0).2 = .error (.underflow 0x202)
        ∧ (left.1.stepped 0 0).2.told = [.keys]) := by
  obtain ⟨one, many, failing⟩ := stepping_is_ticking
  have keys : Activities.started.Poised .keys := .inr ⟨rfl, rfl⟩
  have cpu : Activities.started.Poised .cpu := .inr ⟨rfl, rfl⟩
  have stopped : awaiting.activities = none := rfl
  have stuck : ((serve answer awaiting asked).1.refreshed 0).1.state.stuck?
      = some (.underflow 0x202) := by
    decide +kernel
  have failed : ((serve answer awaiting asked).1.stepOnce 0 0).2 = .error (.underflow 0x202) := by
    rw [stepOnce_eq, outcome, (stuck_execute stuck 0).1]
    rfl
  have ticked := (one (serve answer awaiting asked).1 .started 0 0 keys cpu).2.2
  have served := many awaiting asked stopped 0
  have silent := (failing (serve answer awaiting asked).1 0 0 _ failed).2.2
  refine ⟨⟨stopped, served.1, ?_⟩, ⟨keys, cpu, ?_⟩, failed, silent.trans ?_⟩
  · rw [served.2]
    decide +kernel
  · rw [ticked]
    decide +kernel
  · decide +kernel

end Machine

end Chip8
