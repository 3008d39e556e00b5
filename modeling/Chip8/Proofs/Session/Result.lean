import Chip8.Proofs.Session.Faithful

/-!
# A session ends with the fault that was met

`session_result` says how a session can end whose input and screen never break down: well, if no
instruction executed in it met a fault, and with that very fault otherwise. On which way the loop
heard of the fault makes no difference, nor does a channel that had no room for the update.

Sessions that never end are not excluded, and of a session whose input or screen does break down
nothing is said.
-/

set_option autoImplicit false

namespace Chip8

/-! ## The loop -/

def Poll.isFailure : Poll → Bool
  | .failure _ => true
  | _ => false

/-- Neither input nor screen ever breaks down. -/
structure Session.Dependable (s : Session) : Prop where
  input : ∀ p ∈ s.input, p.isFailure = false
  afterInput : s.afterInput.isFailure = false
  screen : s.screen.fails = none

namespace Session.Dependable

variable {s : Session}

theorem next (h : s.Dependable) : s.next.isFailure = false := by
  unfold Session.next
  cases hi : s.input with
  | nil => exact h.afterInput
  | cons p rest => exact h.input p (by rw [hi]; exact List.mem_cons_self ..)

theorem take (h : s.Dependable) : s.take.Dependable := by
  unfold Session.take
  split
  · exact h
  · next hi =>
    refine ⟨fun p hp => h.input p ?_, h.afterInput, h.screen⟩
    rw [hi]
    exact List.mem_cons_of_mem _ hp

theorem replaceNext (h : s.Dependable) {p : Poll} (hp : p.isFailure = false) :
    (s.replaceNext p).Dependable := by
  unfold Session.replaceNext
  split
  · exact ⟨h.input, hp, h.screen⟩
  · next hi =>
    refine ⟨fun q hq => ?_, h.afterInput, h.screen⟩
    rcases List.mem_cons.mp hq with rfl | hq
    · exact hp
    · exact h.input q (by rw [hi]; exact List.mem_cons_of_mem _ hq)

end Session.Dependable

namespace World

/-- What holds of a dependable session and its machine at any time. -/
structure Good (faults : List StackFault) (w : World) : Prop where
  faithful : Faithful faults w.machine w.session.point
  dependable : w.session.Dependable

namespace Good

variable {faults : List StackFault} {w : World}

theorem render (h : Good faults w) {next : Point}
    (hcarries : next.carries = w.session.point.carries)
    (hjoining : w.session.point.isJoining = true → next.isJoining = true)
    (hfits : next.Fits w.machine.snapshot.2 faults) : Good faults (w.render next) := by
  have quiet : Machine.Quiet w.machine w.machine.snapshot.2 :=
    Machine.Quiet.of_activities (State.stuck?_of_same rfl rfl rfl) rfl fun _ hu _ => hu
  have shown : (w.session.screen.render w.machine.snapshot.1).2 = .ok () := by
    unfold Screen.render Screen.outcome
    rw [h.dependable.screen]
  unfold World.render
  dsimp only
  -- the screen works, so of the two ways on only one is taken
  split
  · exact ⟨(h.faithful.quiet quiet).moveTo hcarries (fun _ => hjoining) hfits,
      h.dependable.input, h.dependable.afterInput, h.dependable.screen⟩
  · next e he =>
    have broken : (w.session.screen.render w.machine.snapshot.1).2 = .error e := he
    rw [shown] at broken
    cases broken

theorem obey (h : Good faults w) (hp : w.session.point = .polling) (c : Command) :
    Good faults (w.obey c) := by
  have faithful := h.faithful
  have dependable := h.dependable
  rw [hp] at faithful
  -- three commands begin a call and touch nothing else. A call that has just begun carries no fault
  have calling (call : Progress) (purpose : Purpose) (hcarries : call.carries = none)
      (hfits : (Point.calling call purpose).Fits w.machine faults) :
      Good faults (w.withPoint (.calling call purpose)) :=
    ⟨faithful.moveTo hcarries nofun hfits,
      dependable.input, dependable.afterInput, dependable.screen⟩
  cases c with
  | key k =>
    have queued : Machine.Quiet w.machine (w.machine.sendKey (.press k)) :=
      Machine.Quiet.of_activities rfl rfl fun _ hu _ => hu
    have turned : Faithful faults (w.machine.sendKey (.press k)) (.receiving none) :=
      (faithful.quiet queued).moveTo rfl nofun nofun
    exact ⟨turned, dependable.input, dependable.afterInput, dependable.screen⟩
  | run => exact calling .run .command rfl ⟨nofun, nofun, trivial⟩
  | stop => exact calling .stop .commandThenRender rfl ⟨nofun, nofun, trivial⟩
  | step => exact calling .step .command rfl ⟨nofun, nofun, trivial⟩
  | scroll direction =>
    have turned : Faithful faults w.machine (.receiving none) := faithful.moveTo rfl nofun nofun
    exact ⟨turned, dependable.input, dependable.afterInput, dependable.screen⟩
  | quit => exact calling .stop .quit rfl ⟨nofun, nofun, .inl rfl⟩

theorem poll (h : Good faults w) (hp : w.session.point = .polling) : Good faults w.poll := by
  have faithful := h.faithful
  rw [hp] at faithful
  have log (entries : List Entry) : Machine.Quiet w.machine (w.machine.log entries) :=
    Machine.Quiet.of_activities rfl rfl fun _ hu _ => hu
  have turn : Faithful faults w.machine (.receiving none) := faithful.moveTo rfl nofun nofun
  have works := h.dependable.next
  have taken := h.dependable.take
  -- taking from the input moves the session nowhere, so what is known of polling applies
  have taken_point : w.session.take.point = .polling := by
    unfold Session.take
    split <;> exact hp
  have turned : Good faults ⟨w.machine, w.session.take.turn⟩ :=
    ⟨turn, taken.input, taken.afterInput, taken.screen⟩
  unfold World.poll
  cases hn : w.session.next with
  | command c =>
    refine obey ⟨?_, taken⟩ taken_point c
    show Faithful faults (w.machine.log [.command c]) w.session.take.point
    rw [taken_point]
    exact faithful.quiet (log _)
  | nothing => exact turned
  | unbound key => exact ⟨turn.quiet (log _), taken.input, taken.afterInput, taken.screen⟩
  | failure reason => rw [hn] at works; cases works
  | untilSteps count =>
    dsimp only
    split
    · exact turned
    · exact h
  | untilKeysThenSteps count =>
    dsimp only
    split
    · exact turned
    -- the keys have gone, and the loop will wait for the steps that were to follow them
    · split
      · refine ⟨?_, h.dependable.replaceNext rfl⟩
        have stays (p : Poll) : (w.session.replaceNext p).point = .polling := by
          unfold Session.replaceNext
          split <;> exact hp
        show Faithful faults w.machine (w.session.replaceNext _).point
        rw [stays]
        exact faithful
      · exact h

/-- **An action of the loop that executes no instruction.** -/
theorem loop (h : Good faults w) (now : Nat) (random : UInt8)
    (hpoint : ∀ events purpose, w.session.point ≠ .calling (.stepHolding events) purpose) :
    Good faults (w.actSession now random) := by
  have faithful := h.faithful
  have dependable := h.dependable
  -- most actions only move the loop to another point, and what has to be shown is that the faults
  -- met so far are still accounted for there
  have withPoint {p : Point} (hf : Faithful faults w.machine p) : Good faults (w.withPoint p) :=
    ⟨hf, dependable.input, dependable.afterInput, dependable.screen⟩
  unfold World.actSession
  split
  · next message hp =>
    rw [hp] at faithful
    -- to read an update changes nothing but what waits to be read
    have received {u : Update} {frontend : Frontend}
        (hr : w.machine.frontend.receive = some (u, frontend)) :
        Machine.Quiet w.machine { w.machine with frontend := frontend } :=
      Machine.Quiet.of_activities rfl rfl fun v hv _ => (Frontend.mem_waiting_receive hr).2 v hv
    split
    · next told frontend hr =>
      have waited := (Frontend.mem_waiting_receive hr).1
      -- the message need not be of the last fault; that there is one is all the loop relies on
      have met : faults ≠ [] := faithful.told _ (List.mem_append_left _ waited) rfl
      exact ⟨(faithful.quiet (received hr)).moveTo rfl nofun fun _ => met,
        dependable.input, dependable.afterInput, dependable.screen⟩
    -- any other update only makes a picture due, and the loop goes on reading
    · next u frontend _ hr =>
      refine ⟨?_, dependable.input, dependable.afterInput, dependable.screen⟩
      show Faithful faults { w.machine with frontend := frontend } w.session.point
      rw [hp]
      exact faithful.quiet (received hr)
    · exact withPoint (faithful.moveTo rfl nofun faithful.place)
  · next message hp =>
    rw [hp] at faithful
    split
    · next hreport =>
      refine withPoint (faithful.moveTo rfl nofun ?_)
      -- the loop reports if it was told, or if it sees for itself that the machine has halted
      rcases Bool.or_eq_true_iff.mp hreport with hm | hh
      · exact faithful.place hm
      · -- no call waits while the loop looks, so it was the cpu that came to a halt
        rcases faithful.halted hh with hc | hj
        · obtain ⟨f, hf⟩ := Option.isSome_iff_exists.mp hc
          exact List.ne_nil_of_mem (faithful.cpu f hf)
        · cases hj
    · split <;> exact withPoint (faithful.moveTo rfl nofun trivial)
  · next hp => exact h.render (by rw [hp]; rfl) (by rw [hp]; exact nofun) trivial
  · next message hp =>
    rw [hp] at faithful
    -- the last picture; a stop follows that will return the fault
    exact h.render (by rw [hp]; rfl) (by rw [hp]; exact nofun)
      ⟨nofun, nofun, .inl rfl, faithful.place⟩
  · next hp => exact h.poll hp
  · next result purpose hp =>
    rw [hp] at faithful
    -- what a call returned, a fault or none, decides where the loop goes on
    refine ⟨faithful.resume w.session, ?_⟩
    cases purpose <;> cases result <;>
      exact ⟨dependable.input, dependable.afterInput, dependable.screen⟩
  · next call purpose _ hp =>
    rw [hp] at faithful
    -- the one action that executes an instruction is left to the case that records its outcome
    have idle : ∀ events, call ≠ .stepHolding events := by
      rintro events rfl
      exact hpoint events purpose hp
    exact ⟨faithful.advance now random idle,
      dependable.input, dependable.afterInput, dependable.screen⟩
  · exact h

theorem session (h : Good faults w) (now : Nat) (random : UInt8) :
    Good (faults ++ Outcome.faults (w.executes ⟨now, random, .session⟩))
      (w.actSession now random) := by
  -- only a step under way executes, and so only there can the record of outcomes grow
  by_cases holding : ∃ events purpose, w.session.point = .calling (.stepHolding events) purpose
  · obtain ⟨events, purpose, hp⟩ := holding
    have faithful := h.faithful
    rw [hp] at faithful
    simp only [executes, World.actSession, hp]
    exact ⟨faithful.stepHolding now random,
      h.dependable.input, h.dependable.afterInput, h.dependable.screen⟩
  · have idle : ∀ events purpose, w.session.point ≠ .calling (.stepHolding events) purpose :=
      fun events purpose hp => holding ⟨events, purpose, hp⟩
    have nothing : w.executes ⟨now, random, .session⟩ = [] := by
      unfold executes
      dsimp only
      split
      · next events purpose hp => exact absurd hp (idle events purpose)
      · rfl
    rw [nothing]
    show Good (faults ++ []) _
    rw [List.append_nil]
    exact h.loop now random idle

theorem activity (h : Good faults w) (now : Nat) (random : UInt8) (actor : Actor) :
    Good (faults ++ Outcome.faults (w.executes ⟨now, random, .activity actor⟩))
      { w with machine := w.machine.act now random actor } := by
  have quiet {m : Machine} (hq : Machine.Quiet w.machine m) :
      Good (faults ++ []) { w with machine := m } := by
    rw [List.append_nil]
    exact ⟨h.faithful.quiet hq, h.dependable⟩
  cases ha : w.machine.activities with
  | none =>
    have nothing : w.executes ⟨now, random, .activity actor⟩ = [] := by
      cases actor <;> simp only [executes, ha]
    rw [nothing]
    simp only [Machine.act, ha]
    exact quiet (Machine.Quiet.refl _)
  | some a =>
    cases actor with
    | cpu =>
      simp only [executes, Machine.act, ha]
      -- of the activities only the cpu executes, and only when its tick is due
      by_cases hdue : a.cpu = .due
      · simp only [hdue]
        exact ⟨h.faithful.actCpu ha hdue random, h.dependable⟩
      · split
        · next hcpu => exact absurd hcpu hdue
        · exact quiet (Machine.actCpu_quiet random ha hdue)
    | timers =>
      simp only [executes, Machine.act, ha]
      exact quiet (Machine.actTimers_quiet ha)
    | keys =>
      simp only [executes, Machine.act, ha]
      exact quiet (Machine.actKeys_quiet now ha)

end Good

end World

namespace Watched

def Good (w : Watched) : Prop := World.Good (Outcome.faults w.executed) w.world

theorem Good.act {w : Watched} (h : w.Good) (t : World.Turn) : (w.act t).Good := by
  show World.Good (Outcome.faults (w.executed ++ w.world.executes t))
    (w.world.act t.now t.random t.who)
  rw [Outcome.faults, List.filterMap_append]
  obtain ⟨now, random, who⟩ := t
  cases who with
  | session => exact World.Good.session h now random
  | activity actor => exact World.Good.activity h now random actor

theorem Good.start {m : Machine} (hm : m.Fresh) {input : List Poll} {afterInput : Poll}
    {screen : Screen} (hinput : ∀ p ∈ input, p.isFailure = false)
    (hafter : afterInput.isFailure = false) (hscreen : screen.fails = none) :
    (start m input afterInput screen).Good := by
  refine ⟨?_, hinput, hafter, hscreen⟩
  show Faithful [] m (.receiving none)
  refine Faithful.of_nil ?_ (Machine.carries_of_stopped hm.stopped) rfl ?_ nofun
  · rw [hm.announced]
    exact hm.untold
  · intro hh
    rw [Machine.hasHalted, hm.stopped] at hh
    cases hh

/-- **A session ends with the fault that was met in it.** Let a machine be driven that was never run
before, by an input and to a screen that never break down, with session and activities acting in
any order. If the session has ended, it ended well exactly if no instruction met a fault, neither
one of the cpu's nor one of a step's; otherwise it ended with the fault that was met, which names
the address that the program counter stands on. It ended in no other way. -/
theorem session_result {m : Machine} (hm : m.Fresh) {input : List Poll} {afterInput : Poll}
    {screen : Screen} (hinput : ∀ p ∈ input, p.isFailure = false)
    (hafter : afterInput.isFailure = false) (hscreen : screen.fails = none)
    (turns : List World.Turn) {result : Except Error Unit}
    (ended : ((start m input afterInput screen).run turns).world.session.result? = some result) :
    let w := (start m input afterInput screen).run turns
    (result = .ok () ↔ ∀ f, .error f ∉ w.executed)
      ∧ (∀ f, .error f ∈ w.executed →
          result = .error (.stack f) ∧ f.pc = w.world.machine.state.pc)
      ∧ (∀ e, result = .error e → ∃ f, e = .stack f ∧ .error f ∈ w.executed) := by
  intro w
  obtain ⟨faithful, -⟩ : w.Good :=
    run_induction (P := Good) (fun _ t h => h.act t) turns (Good.start hm hinput hafter hscreen)
  have hp : w.world.session.point = .ended result := by
    have ended : w.world.session.result? = some result := ended
    unfold Session.result? at ended
    split at ended
    · next r hr => cases ended; exact hr
    · cases ended
  rw [hp] at faithful
  have met (f : StackFault) (hf : .error f ∈ w.executed) :
      result = .error (.stack f) ∧ f.pc = w.world.machine.state.pc := by
    -- a fault that was met is one that the machine would still meet, so there is only one
    have hstuck := faithful.stuck f (Outcome.mem_faults.mpr hf)
    refine ⟨?_, State.pc_of_stuck? hstuck⟩
    cases result with
    | ok _ =>
      -- a session that ended well has stopped its machine, and then nobody carries the fault
      have hnil := faithful.eq_nil (Machine.carries_of_stopped faithful.place) rfl
      have hmem := Outcome.mem_faults.mpr hf
      rw [hnil] at hmem
      cases hmem
    | error e =>
      -- the session ended with some fault that was met, and the machine is stuck on both
      obtain ⟨g, rfl⟩ := faithful.place
      have same := faithful.stuck g (faithful.session g rfl)
      rw [hstuck] at same
      cases same
      rfl
  have only (e : Error) (he : result = .error e) : ∃ f, e = .stack f ∧ .error f ∈ w.executed := by
    subst he
    obtain ⟨f, rfl⟩ := faithful.place
    exact ⟨f, rfl, Outcome.mem_faults.mp (faithful.session f rfl)⟩
  refine ⟨⟨?_, ?_⟩, met, only⟩
  · intro hok f hf
    have herror := (met f hf).1
    rw [hok] at herror
    cases herror
  · intro none
    cases result with
    | ok _ => rfl
    | error e =>
      obtain ⟨f, -, hf⟩ := only e rfl
      exact absurd hf (none f)

/-- A machine whose first instruction faults, and whose frontend has no room for any update. -/
def deaf : Machine :=
  ((Machine.new {} (Frontend.ofCapacity 0) none).load ⟨[0x00, 0xEE], none⟩).1

/-- A run that faults, and whose fault no update tells of. -/
def unheard : List World.Turn :=
  let order : List Participant :=
    List.replicate 7 .session ++ List.replicate 4 (.activity .cpu) ++ List.replicate 4 .session
      ++ [.activity .timers, .activity .keys, .session, .session]
  order.map fun who => ⟨0, 0, who⟩

theorem session_result_unheard :
    let w := (start deaf [.command .run] (.command .quit) {}).run unheard
    w.world.session.result? = some (.error (.stack (.underflow 0x200)))
      ∧ .error (.underflow 0x200) ∈ w.executed
      ∧ w.world.machine.state.pc = 0x200 := by
  have fresh : deaf.Fresh := (Machine.Fresh.new {} 0 none).load _
  have faults : Outcome.faults
      ((start deaf [.command .run] (.command .quit) {}).run unheard).executed
        = [.underflow 0x200] := by
    decide +kernel
  have hasEnded :
      ((start deaf [.command .run] (.command .quit) {}).run unheard).world.session.result?.isSome
        = true := by
    decide +kernel
  obtain ⟨result, ended⟩ := Option.isSome_iff_exists.mp hasEnded
  obtain ⟨-, met, -⟩ := session_result fresh
    (fun p hp => by rw [List.mem_singleton.mp hp]; rfl) rfl rfl unheard ended
  have hf := Outcome.mem_faults.mp (faults ▸ List.mem_singleton_self _)
  obtain ⟨rfl, hpc⟩ := met (.underflow 0x200) hf
  exact ⟨ended, hf, hpc.symm⟩

end Watched

end Chip8
