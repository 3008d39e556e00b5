import Chip8.Proofs.Machine.Faults
import Chip8.Proofs.Session.Run

/-!
# No fault gets lost on the way

A fault reaches the end of a session on one of several ways: as an update that is read, by the halt
flag that the cpu raises, through a stop, a run or a step that returns it, or through the stop that
quitting makes. Which of them wins depends on who acts when.

`Faithful` is what holds at any time. A fault that was met is *carried*, by the cpu or by the loop
itself; and nobody tells of a fault that was not met. Here it is followed through instructions and
calls. Two facts about the machine make it an invariant: a fault stays, and a stop that has
returned leaves no cpu behind to carry one.
-/

set_option autoImplicit false

namespace Chip8

namespace Purpose

/-- What a call has to be for the session to end as it should when the call returns. -/
def Suits (m : Machine) (faults : List StackFault) (call : Progress) : Purpose → Prop
  | .command | .commandThenRender => True
  | .quit => call.Stopping m
  | .fault _ => call.Stopping m ∧ faults ≠ []

/-- A call goes on being what it has to be. -/
theorem Suits.advance {m : Machine} {faults faults' : List StackFault} {call : Progress}
    {purpose : Purpose} (h : purpose.Suits m faults call) (now : Nat) (random : UInt8)
    (hmet : faults ≠ [] → faults' ≠ []) :
    purpose.Suits (m.advance now random call).1 faults' (m.advance now random call).2 := by
  cases purpose with
  | command | commandThenRender => exact trivial
  | quit => exact m.advance_stopping now random h
  | fault => exact ⟨m.advance_stopping now random h.1, hmet h.2⟩

end Purpose

namespace Point

/-- The fault that the loop is about to end the session with, or has ended it with. -/
def carries : Point → Option StackFault
  | .calling call _ => call.carries
  | .ended (.error (.stack fault)) => some fault
  | _ => none

/-- Whether the loop is in a call that waits for the activities. -/
def isJoining : Point → Bool
  | .calling call _ => call.isJoining
  | _ => false

/-- What the loop knows of faults is so. -/
def Fits (m : Machine) (faults : List StackFault) : Point → Prop
  | .receiving message | .checking message => message.isSome = true → faults ≠ []
  | .rendering | .polling => True
  | .reporting _ => faults ≠ []
  | .calling call purpose =>
    (call = .spawning → m.activities = none) ∧ (∀ u ∈ call.pending, u.isFault = false)
      ∧ purpose.Suits m faults call
  | .ended (.ok ()) => m.activities = none
  | .ended (.error e) => ∃ fault, e = .stack fault

theorem Fits.mono {m m' : Machine} {faults faults' : List StackFault} {p : Point}
    (h : p.Fits m faults) (hnone : m'.activities = none ↔ m.activities = none)
    (hmet : faults ≠ [] → faults' ≠ []) : p.Fits m' faults' := by
  have stopping (call : Progress) (hs : call.Stopping m) : call.Stopping m' := by
    rw [Progress.Stopping, hnone]; exact hs
  match p, h with
  | .receiving _, h | .checking _, h => exact fun hm => hmet (h hm)
  | .rendering, _ | .polling, _ => exact trivial
  | .reporting _, h => exact hmet h
  | .calling call purpose, ⟨hspawning, hpending, hsuits⟩ =>
    refine ⟨fun hc => hnone.mpr (hspawning hc), hpending, ?_⟩
    cases purpose with
    | command | commandThenRender => exact trivial
    | quit => exact stopping call hsuits
    | fault => exact ⟨stopping call hsuits.1, hmet hsuits.2⟩
  | .ended (.ok ()), h => exact hnone.mpr h
  | .ended (.error _), h => exact h

theorem Fits.advance {m : Machine} {faults faults' : List StackFault} {call : Progress}
    {purpose : Purpose} (h : (calling call purpose).Fits m faults) (now : Nat) (random : UInt8)
    (hmet : faults ≠ [] → faults' ≠ []) :
    (calling (m.advance now random call).2 purpose).Fits (m.advance now random call).1 faults' :=
  ⟨m.advance_spawning now random, m.advance_pending now random h.2.1,
    h.2.2.advance now random hmet⟩

end Point

/-- **Every fault that was met is on its way to the end of the session, and no other is**, with
the machine `m` and the loop at `p`. -/
structure Faithful (faults : List StackFault) (m : Machine) (p : Point) : Prop where
  /-- a fault that was met is met again -/
  stuck : ∀ f ∈ faults, m.state.stuck? = some f
  /-- no update tells of a fault that was not met -/
  told : ∀ u ∈ m.announced, u.isFault = true → faults ≠ []
  /-- the cpu carries no fault that was not met -/
  cpu : ∀ f, m.carries = some f → f ∈ faults
  /-- nor does the loop -/
  session : ∀ f, p.carries = some f → f ∈ faults
  /-- a fault that was met is carried -/
  held : faults ≠ [] → m.carries.isSome = true ∨ p.carries.isSome = true
  /-- a run comes to a halt because of a fault or of a call -/
  halted : m.hasHalted = true → m.carries.isSome = true ∨ p.isJoining = true
  place : p.Fits m faults

namespace Faithful

variable {faults : List StackFault} {m m' : Machine} {p q : Point}
  {call : Progress} {purpose : Purpose} {events : List KeyEvent}

/-- Where neither cpu nor loop carries a fault, none was met. -/
theorem eq_nil (h : Faithful faults m p) (hm : m.carries = none) (hp : p.carries = none) :
    faults = [] := by
  cases faults with
  | nil => rfl
  | cons f fs =>
    rcases h.held (by simp) with hs | hs
    · rw [hm] at hs; cases hs
    · rw [hp] at hs; cases hs

theorem quiet (h : Faithful faults m p) (hq : Machine.Quiet m m') : Faithful faults m' p := by
  refine ⟨?_, ?_, ?_, h.session, ?_, ?_, h.place.mono hq.none id⟩
  · rw [hq.stuck]; exact h.stuck
  · intro u hu hf; exact h.told u (hq.announced u hu hf) hf
  · rw [hq.carries]; exact h.cpu
  · rw [hq.carries]; exact h.held
  · intro hh
    rcases hq.halted hh with hh | hh
    · rw [hq.carries]; exact h.halted hh
    · exact .inl hh

/-- The loop moves on, carrying what it carried. -/
theorem moveTo (h : Faithful faults m p) (hcarries : q.carries = p.carries)
    (hjoining : m.hasHalted = true → p.isJoining = true → q.isJoining = true)
    (hfits : q.Fits m faults) : Faithful faults m q := by
  refine ⟨h.stuck, h.told, h.cpu, ?_, ?_, ?_, hfits⟩
  · rw [hcarries]; exact h.session
  · rw [hcarries]; exact h.held
  · exact fun hh => (h.halted hh).imp_right (hjoining hh)

theorem of_nil (htold : ∀ u ∈ m.announced, u.isFault = false) (hm : m.carries = none)
    (hq : q.carries = none) (hhalted : m.hasHalted = true → q.isJoining = true)
    (hfits : q.Fits m []) : Faithful [] m q := by
  refine ⟨nofun, ?_, ?_, ?_, fun h => absurd rfl h, fun hh => .inr (hhalted hh), hfits⟩
  · intro u hu hf; rw [htold u hu] at hf; cases hf
  · intro f hf; rw [hm] at hf; cases hf
  · intro f hf; rw [hq] at hf; cases hf

theorem announced_of_nil (h : Faithful [] m p) : ∀ u ∈ m.announced, u.isFault = false := by
  intro u hu
  cases hf : u.isFault with
  | false => rfl
  | true => exact absurd rfl (h.told u hu hf)

theorem carries_of_nil (h : Faithful [] m p) : m.carries = none := by
  cases hc : m.carries with
  | none => rfl
  | some f => cases h.cpu f hc

/-! ## Instructions -/

theorem eq_nil_of_ok (h : Faithful faults m p) {random : UInt8} {done : Executed}
    (hok : (m.execute random).2 = .ok done) : faults = [] := by
  cases faults with
  | nil => rfl
  | cons f fs =>
    -- a fault that was met is met by every instruction, so none succeeds
    have met := (Machine.stuck_execute (h.stuck f (List.mem_cons_self ..)) random).1
    rw [hok] at met
    cases met

theorem stuck_of_error (h : Faithful faults m p) {random : UInt8} {f : StackFault}
    (herror : (m.execute random).2 = .error f) :
    ∀ g ∈ faults ++ [f], (m.execute random).1.state.stuck? = some g := by
  intro g hg
  rcases List.mem_append.mp hg with hg | hg
  · exact (Machine.stuck_execute (h.stuck g hg) random).2
  · rw [List.mem_singleton.mp hg]
    exact (Machine.stuck_execute (Machine.stuck?_of_execute herror) random).2

/-- **The cpu executes an instruction.** If it meets a fault, it carries it from now on. -/
theorem actCpu (h : Faithful faults m p) {a : Activities} (ha : m.activities = some a)
    (hdue : a.cpu = .due) (random : UInt8) :
    Faithful (faults ++ Outcome.faults [(m.execute random).2]) (m.actCpu random a) p := by
  have hhalt : m.hasHalted = a.halt := by rw [Machine.hasHalted, ha]
  have hmc : m.carries = none := by
    simp only [Machine.carries, ha, Option.bind_some, Activities.carries, hdue]
  have hnone (b : Activities) : some b = none ↔ m.activities = none := by
    simp only [ha, reduceCtorEq]
  unfold Machine.actCpu
  rw [hdue]
  dsimp only
  split
  · next done hok =>
    -- a success shows that no fault was met, so there is nothing to account for
    obtain rfl := h.eq_nil_of_ok hok
    rw [hok]
    have place := h.place
    refine of_nil ?_ rfl ?_ ?_ (place.mono (hnone _) id)
    · intro u hu
      rcases List.mem_append.mp hu with hu | hu
      · exact h.announced_of_nil u (List.mem_append_left _ hu)
      · have sent : u ∈ Update.ofStep (.ok done) := hu
        exact Update.isFault_ofStep sent
    · cases hc : p.carries with
      | none => rfl
      | some f => cases h.session f hc
    · -- the cpu carries nothing before its instruction, so a halt was a call's
      intro hh
      rcases h.halted (hhalt.trans hh) with hc | hj
      · rw [hmc] at hc; cases hc
      · exact hj
  · next f herror =>
    rw [herror]
    have met : faults ++ Outcome.faults [.error f] ≠ [] := by simp [Outcome.faults]
    -- from here the fault is what the cpu carries, until a call collects it
    refine ⟨h.stuck_of_error herror, fun _ _ _ => met, ?_, ?_, fun _ => .inl rfl, fun _ => .inl rfl,
      h.place.mono (hnone _) fun _ => met⟩
    · intro g hg
      cases hg
      exact List.mem_append_right _ (List.mem_singleton_self f)
    · intro g hg
      exact List.mem_append_left _ (h.session g hg)

/-- **A step that the session makes executes an instruction.** If it meets a fault, the loop carries
it from now on. -/
theorem stepHolding (h : Faithful faults m (.calling (.stepHolding events) purpose)) (now : Nat)
    (random : UInt8) :
    Faithful
      (faults ++ Outcome.faults [((m.refreshKeys now events).1.execute random).2])
      (m.advance now random (.stepHolding events)).1
      (.calling (m.advance now random (.stepHolding events)).2 purpose) := by
  have refreshed := h.quiet (m.refreshKeys_quiet now events)
  have place := h.place
  have carries :
      (Point.calling (m.advance now random (.stepHolding events)).2 purpose).carries = _ :=
    m.advance_carries now random events
  -- a step waits for nobody, so it is the cpu that a halt comes from
  have halted : m.hasHalted = true → m.carries.isSome = true := fun hh =>
    (h.halted hh).resolve_right nofun
  cases hres : ((m.refreshKeys now events).1.execute random).2 with
  | ok done =>
    obtain rfl := refreshed.eq_nil_of_ok hres
    refine of_nil h.announced_of_nil h.carries_of_nil ?_ ?_ (place.advance now random id)
    · rw [carries, hres]
    · intro hh
      have carried := halted hh
      rw [h.carries_of_nil] at carried
      cases carried
  | error f =>
    have met : faults ++ Outcome.faults [.error f] ≠ [] := by simp [Outcome.faults]
    refine ⟨refreshed.stuck_of_error hres, fun _ _ _ => met, ?_, ?_, ?_, ?_,
      place.advance now random fun _ => met⟩
    · intro g hg
      exact List.mem_append_left _ (h.cpu g hg)
    · rw [carries, hres]
      intro g hg
      cases hg
      exact List.mem_append_right _ (List.mem_singleton_self f)
    · intro _
      right
      rw [carries, hres]
      rfl
    · exact fun hh => .inl (halted hh)

/-! ## Calls -/

theorem raiseHalt {again : Bool} (h : Faithful faults m (.calling (.halting again) purpose))
    {a : Activities} (ha : m.activities = some a)
    (place : (Point.calling (.joining again) purpose).Fits (m.log [.stopping]).raiseHalt faults) :
    Faithful faults (m.log [.stopping]).raiseHalt (.calling (.joining again) purpose) := by
  have hcarries : (m.log [.stopping]).raiseHalt.carries = m.carries := by
    simp only [Machine.carries, Machine.raiseHalt, Machine.log, ha, Option.map_some,
      Option.bind_some]
    rfl
  have hannounced : (m.log [.stopping]).raiseHalt.announced = m.announced := by
    simp only [Machine.announced, Machine.raiseHalt, Machine.log, ha, Option.map_some]
    rfl
  refine ⟨h.stuck, ?_, ?_, fun f hf => (by cases hf), ?_, fun _ => .inr rfl, place⟩
  · rw [hannounced]; exact h.told
  · rw [hcarries]; exact h.cpu
  · rw [hcarries]; exact h.held

/-- A run is begun or given up: there is no cpu that carries anything afterwards. What it carried
before, if anything, is carried by the loop. -/
theorem uncarried (h : Faithful faults m p) (hstate : m'.state = m.state)
    (hwaiting : m'.frontend = m.frontend)
    (hcarries : m'.carries = none) (hpending : m'.announced = m'.frontend.waiting)
    (hhalted : m'.hasHalted = false) (hq : q.carries = m.carries) (hp : p.carries = none)
    (hfits : q.Fits m' faults) : Faithful faults m' q := by
  refine ⟨?_, ?_, ?_, ?_, ?_, ?_, hfits⟩
  · rw [hstate]; exact h.stuck
  · rw [hpending, hwaiting]
    exact fun u hu => h.told u (List.mem_append_left _ hu)
  · rw [hcarries]; exact nofun
  · rw [hq]; exact h.cpu
  · intro met
    rcases h.held met with hc | hc
    · rw [hq]; exact .inr hc
    · rw [hp] at hc; cases hc
  · rw [hhalted]; exact nofun

/-- **A call that begins or ends a run goes on.** -/
theorem course (h : Faithful faults m (.calling call purpose)) {next : Progress}
    (hc : Machine.Course m call m' next) (place : (Point.calling next purpose).Fits m' faults) :
    Faithful faults m' (.calling next purpose) := by
  cases hc with
  | begins | finds | revives | rests => exact h.moveTo rfl nofun place
  | @idles again => cases again <;> exact h.moveTo rfl nofun place
  | waits => exact h
  | loses hnone =>
    refine h.moveTo rfl (fun hh => ?_) place
    rw [Machine.hasHalted, hnone] at hh
    cases hh
  | halts ha => exact h.raiseHalt ha place
  | @reaps again a ha hdone hfault =>
    have carried : m.carries = none := by
      rw [Machine.carries, ha, Option.bind_some, Activities.carries_of_allFinished hdone, hfault]
    refine h.uncarried rfl rfl rfl (List.append_nil _) rfl ?_ rfl place
    rw [carried]
    cases again <;> rfl
  | @collects again a fault ha hdone hfault =>
    have carried : m.carries = some fault := by
      rw [Machine.carries, ha, Option.bind_some, Activities.carries_of_allFinished hdone, hfault]
    exact h.uncarried rfl rfl rfl (List.append_nil _) rfl carried.symm rfl place
  | spawns =>
    have carried := Machine.carries_of_stopped (h.place.1 rfl)
    exact h.uncarried rfl rfl rfl (List.append_nil _) rfl carried.symm rfl place

/-- **A call goes on without executing anything.** -/
theorem advance (h : Faithful faults m (.calling call purpose)) (now : Nat) (random : UInt8)
    (hcall : ∀ events, call ≠ .stepHolding events) :
    Faithful faults (m.advance now random call).1
      (.calling (m.advance now random call).2 purpose) := by
  have place := h.place.advance now random id
  cases call with
  | step => exact (h.quiet m.takeKeys_quiet).moveTo rfl nofun place
  | stepHolding events => exact absurd rfl (hcall events)
  | sending pending result =>
    cases pending with
    | nil => exact h.moveTo (by cases result <;> rfl) nofun place
    | cons u rest =>
      have quiet := m.notify_quiet (h.place.2.1 u (List.mem_cons_self ..))
      exact (h.quiet quiet).moveTo (by cases result <;> rfl) nofun place
  | run | halting | joining | spawning | returned =>
    exact h.course (m.advance_course now random rfl) place

/-- **A call has returned**, and the session takes its result. -/
theorem resume {result : Except StackFault Unit}
    (h : Faithful faults m (.calling (.returned result) purpose)) (s : Session) :
    Faithful faults m (World.resume s result purpose).point := by
  have gone (stopping : (Progress.returned result).Stopping m) : m.activities = none := by
    rcases stopping with hs | hs | ⟨-, hnone⟩
    · cases hs
    · cases hs
    · exact hnone
  cases result with
  | error f => cases purpose <;> exact h.moveTo rfl nofun ⟨f, rfl⟩
  | ok _ =>
    have suits := h.place.2.2
    cases purpose with
    | command | commandThenRender => exact h.moveTo rfl nofun nofun
    | quit => exact h.moveTo rfl nofun (gone suits)
    | fault message =>
      -- with the activities gone and a good result, nobody is left to carry the fault that was met
      have hcarries := Machine.carries_of_stopped (gone suits.1)
      exact absurd (h.eq_nil hcarries rfl) suits.2

end Faithful

end Chip8
