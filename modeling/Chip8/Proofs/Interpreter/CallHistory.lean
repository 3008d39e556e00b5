import Chip8.Proofs.Interpreter.Frame
import Chip8.Proofs.Interpreter.Stuck

/-!
# The call stack as history

The call stack is an array with a depth, and what lies above the depth is old. Seen from outside it
is something else: a list of the calls that have not been returned from. `Flow` is the history of
calls and returns that a run makes, `Flow.pending` is what that history leaves open, and
`run_pending` says that the first slots of the array are exactly that.

Everything else is about lists. A balanced history closes what it opens, so a return behind it goes
back to where the call before it came from; and sixteen open calls are as many as there can be.
-/

set_option autoImplicit false

namespace Chip8

/-! ## Histories of calls and returns -/

/-- A call or a return that was made. -/
inductive Flow where
  /-- a call, and the address it is to return to -/
  | enter (back : UInt16)
  | leave
  deriving DecidableEq

namespace Flow

def calls : List Flow → Nat
  | [] => 0
  | enter _ :: rest => calls rest + 1
  | leave :: rest => calls rest

def returns : List Flow → Nat
  | [] => 0
  | enter _ :: rest => returns rest
  | leave :: rest => returns rest + 1

/-- The return addresses of the open calls, oldest first, after one more call or return. -/
def update (opened : List UInt16) : Flow → List UInt16
  | enter back => opened ++ [back]
  | leave => opened.dropLast

/-- The same after a history of them. -/
def replay (opened : List UInt16) (flow : List Flow) : List UInt16 := flow.foldl update opened

/-- The calls of a history that were not returned from. -/
def pending (flow : List Flow) : List UInt16 := replay [] flow

/-- As many returns as calls, and at no point more. -/
structure Balanced (flow : List Flow) : Prop where
  sane : ∀ before, before <+: flow → returns before ≤ calls before
  settled : returns flow = calls flow

instance (flow : List Flow) : Decidable (Balanced flow) :=
  decidable_of_iff
    ((∀ n < flow.length + 1, returns (flow.take n) ≤ calls (flow.take n))
      ∧ returns flow = calls flow) <| by
    constructor
    · rintro ⟨sane, settled⟩
      refine ⟨fun before hbefore => ?_, settled⟩
      rw [List.prefix_iff_eq_take.mp hbefore]
      exact sane _ (Nat.lt_succ_of_le hbefore.length_le)
    · rintro ⟨sane, settled⟩
      exact ⟨fun n _ => sane _ (List.take_prefix n flow), settled⟩

theorem replay_append (opened : List UInt16) (before after : List Flow) :
    replay opened (before ++ after) = replay (replay opened before) after := List.foldl_append

/-- At no point are there more than `n` returns beyond the calls, so `n` calls made before are
enough. -/
def Within (n : Nat) (flow : List Flow) : Prop :=
  ∀ before, before <+: flow → returns before ≤ calls before + n

theorem Within.enter {n : Nat} {back : UInt16} {flow : List Flow}
    (h : Within n (enter back :: flow)) : Within (n + 1) flow := by
  intro before hbefore
  have bound := h (Flow.enter back :: before) (List.cons_prefix_cons.mpr ⟨rfl, hbefore⟩)
  simp only [returns, calls] at bound
  omega

theorem Within.leave {n : Nat} {flow : List Flow} (h : Within n (leave :: flow)) :
    0 < n ∧ Within (n - 1) flow := by
  have first := h [Flow.leave] (List.cons_prefix_cons.mpr ⟨rfl, List.nil_prefix⟩)
  simp only [returns, calls] at first
  refine ⟨by omega, fun before hbefore => ?_⟩
  have bound := h (Flow.leave :: before) (List.cons_prefix_cons.mpr ⟨rfl, hbefore⟩)
  simp only [returns, calls] at bound
  omega

/-- As long as no return goes below the `nested` calls, those `opened` before them stay open. -/
theorem exists_replay (opened : List UInt16) {flow : List Flow} :
    ∀ nested : List UInt16, Within nested.length flow →
      ∃ nested', replay (opened ++ nested) flow = opened ++ nested'
        ∧ nested'.length + returns flow = nested.length + calls flow := by
  induction flow with
  | nil => intro nested _; exact ⟨nested, rfl, rfl⟩
  | cons f flow ih =>
    intro nested within
    cases f with
    | enter back =>
      have deeper : Within (nested ++ [back]).length flow := by
        rw [List.length_append]
        exact within.enter
      obtain ⟨nested', hreplay, hlength⟩ := ih _ deeper
      rw [← List.append_assoc] at hreplay
      refine ⟨nested', hreplay, ?_⟩
      simp only [returns, calls, List.length_append, List.length_singleton] at hlength ⊢
      omega
    | leave =>
      -- the return closes one of the nested calls, so there is one
      obtain ⟨hpos, shallower⟩ := within.leave
      rw [← List.length_dropLast] at shallower
      obtain ⟨nested', hreplay, hlength⟩ := ih _ shallower
      rw [← List.dropLast_append_of_ne_nil (List.ne_nil_of_length_pos hpos)] at hreplay
      refine ⟨nested', hreplay, ?_⟩
      simp only [returns, calls, List.length_dropLast] at hlength ⊢
      omega

/-- **A balanced history leaves open what was open before.** -/
theorem Balanced.replay {flow : List Flow} (h : Balanced flow) (opened : List UInt16) :
    Flow.replay opened flow = opened := by
  obtain ⟨nested, hreplay, hlength⟩ := exists_replay opened [] h.sane
  have hsettled := h.settled
  have hnil : nested = [] := by
    rw [List.length_nil] at hlength
    exact List.length_eq_zero_iff.mp (by omega)
  rw [hnil, List.append_nil] at hreplay
  exact hreplay

end Flow

/-! ## What a step does to the stack -/

namespace Instruction

theorem decode_of_family_two {op : Opcode} (h : op.family = 2) : decode op = .call op.nnn :=
  decode_of_spelled ⟨h, rfl⟩

end Instruction

namespace State

variable {s t : State}

theorem step_call (h : s.fetch.family = 2) (advances : Bool) (random : UInt8) :
    s.step advances random =
      match s.stack.push? (after s.pc) with
      | none => (s.noted, .error (.overflow s.pc))
      | some stack =>
        ({ s.noted with stack := stack, pc := s.fetch.nnn.toWord, redraw := false,
                        registers := s.registers.reported },
          .ok ⟨⟨s.pc, s.fetch⟩, s.redraw, s.registers.dirty⟩) := by
  have hstack : s.noted.stack = s.stack := rfl
  unfold step
  rw [Instruction.decode_of_family_two h]
  simp only [execute, hstack]
  cases s.stack.push? (after s.pc) <;> rfl

theorem step_ret (h : s.fetch = 0x00EE) (advances : Bool) (random : UInt8) :
    s.step advances random =
      match s.stack.pop? with
      | none => (s.noted, .error (.underflow s.pc))
      | some (addr, stack) =>
        ({ s.noted with stack := stack, pc := addr, redraw := false,
                        registers := s.registers.reported },
          .ok ⟨⟨s.pc, s.fetch⟩, s.redraw, s.registers.dirty⟩) := by
  have hstack : s.noted.stack = s.stack := rfl
  have decoded : Instruction.decode s.fetch = .ret := by rw [h]; rfl
  unfold step
  rw [decoded]
  simp only [execute, hstack]
  cases s.stack.pop? <;> rfl

theorem step_stack (hcall : s.fetch.family ≠ 2) (hret : s.fetch ≠ 0x00EE) (advances : Bool)
    (random : UInt8) : (s.step advances random).1.stack = s.stack :=
  (s.step_footprint advances random).stack hcall hret

/-- Which step fails, by its opcode. -/
theorem stuck?_eq (s : State) :
    s.stuck? =
      if s.fetch.family = 2 then
        if s.stack.depth = 16 then some (.overflow s.pc) else none
      else if s.fetch = 0x00EE then
        if s.stack.depth = 0 then some (.underflow s.pc) else none
      else none := by
  unfold stuck?
  by_cases hcall : s.fetch.family = 2
  · rw [if_pos hcall, Instruction.decode_of_family_two hcall]
  · rw [if_neg hcall]
    by_cases hret : s.fetch = 0x00EE
    · have decoded : Instruction.decode s.fetch = .ret := by rw [hret]; rfl
      rw [if_pos hret, decoded]
    · rw [if_neg hret]
      have spelled := Instruction.decode_spelled s.fetch
      split
      · next decoded =>
        rw [decoded] at spelled
        exact absurd spelled hret
      · next decoded =>
        rw [decoded] at spelled
        exact absurd spelled.1 hcall
      · rfl

theorem stuck?_overflow_iff {pc : UInt16} :
    s.stuck? = some (.overflow pc) ↔ pc = s.pc ∧ s.fetch.family = 2 ∧ s.stack.depth = 16 := by
  rw [stuck?_eq]
  by_cases hcall : s.fetch.family = 2
  · by_cases hfull : s.stack.depth = 16 <;> grind
  · rw [if_neg hcall]
    grind

theorem stuck?_underflow_iff {pc : UInt16} :
    s.stuck? = some (.underflow pc) ↔ pc = s.pc ∧ s.fetch = 0x00EE ∧ s.stack.depth = 0 := by
  have hother : s.fetch = 0x00EE → s.fetch.family ≠ 2 := by
    intro hret
    rw [hret]
    decide
  rw [stuck?_eq]
  by_cases hret : s.fetch = 0x00EE
  · rw [if_neg (hother hret), if_pos hret]
    grind
  · rw [if_neg hret]
    grind

end State

/-! ## What a run does to the stack -/

namespace Interpreter

/-- A return with a call pending goes to where the newest one came from. -/
theorem step_return {i : Interpreter} (hret : i.state.fetch = 0x00EE) {older : List UInt16}
    {newest : UInt16} (hpending : i.state.stack.pending = older ++ [newest]) (random : UInt8) :
    (i.step random).2.isOk = true ∧ (i.step random).1.state.pc = newest := by
  show (i.state.step i.advancesIndex random).2.isOk = true
    ∧ (i.state.step i.advancesIndex random).1.pc = newest
  rw [State.step_ret hret]
  cases hpop : i.state.stack.pop? with
  | none =>
    have hdepth := (CallStack.pop?_eq_none_iff _).mp hpop
    rw [← CallStack.length_pending, hpending] at hdepth
    simp at hdepth
  | some popped =>
    have h := CallStack.pending_pop? hpop
    rw [hpending] at h
    obtain ⟨-, hnewest⟩ := List.append_inj' h rfl
    exact ⟨rfl, (List.singleton_inj.mp hnewest).symm⟩

/-- The call or the return that a step makes, if it makes one. -/
def flowOf (i : Interpreter) (random : UInt8) : List Flow :=
  match (i.step random).2 with
  | .error _ => []
  | .ok _ =>
    if i.state.fetch.family = 2 then [.enter ((i.state.pc + 2) % 4096)]
    else if i.state.fetch = 0x00EE then [.leave]
    else []

theorem flowOf_call {i : Interpreter} {random : UInt8} (hcall : i.state.fetch.family = 2)
    (succeeds : (i.step random).2.isOk = true) :
    i.flowOf random = [.enter ((i.state.pc + 2) % 4096)] := by
  unfold flowOf
  split
  · next hres => rw [hres] at succeeds; cases succeeds
  · rw [if_pos hcall]

/-- The calls and returns of a run, in order. -/
def flow (i : Interpreter) (ops : List Operation) : List Flow :=
  i.history (fun i op => match op with | .step random => i.flowOf random | _ => []) ops

theorem step_pending (i : Interpreter) (random : UInt8) :
    (i.step random).1.state.stack.pending
      = Flow.replay i.state.stack.pending (i.flowOf random) := by
  have hstate : (i.step random).1.state = (i.state.step i.advancesIndex random).1 := rfl
  have hresult : (i.step random).2 = (i.state.step i.advancesIndex random).2 := rfl
  unfold flowOf
  rw [hstate, hresult]
  by_cases hcall : i.state.fetch.family = 2
  · rw [State.step_call hcall, if_pos hcall]
    cases hpush : i.state.stack.push? (State.after i.state.pc) with
    | none => rfl
    | some stack => exact CallStack.pending_push? hpush
  · rw [if_neg hcall]
    by_cases hret : i.state.fetch = 0x00EE
    · rw [State.step_ret hret, if_pos hret]
      cases hpop : i.state.stack.pop? with
      | none => rfl
      | some popped =>
        have h := CallStack.pending_pop? hpop
        show popped.2.pending = i.state.stack.pending.dropLast
        rw [h, List.dropLast_concat]
    · rw [if_neg hret, State.step_stack hcall hret]
      cases (i.state.step i.advancesIndex random).2 <;> rfl

/-- **The pending calls of the stack are those that the history of the run leaves open.** -/
theorem run_pending {ops : List Operation} :
    ∀ {i : Interpreter}, (∀ op ∈ ops, op.replaces = false) →
      (i.run ops).state.stack.pending = Flow.replay i.state.stack.pending (i.flow ops) := by
  induction ops with
  | nil => intro i _; rfl
  | cons op ops ih =>
    intro i kept
    obtain ⟨hop, kept⟩ := List.forall_mem_cons.mp kept
    have rest := ih (i := i.perform op) kept
    cases op with
    | step random =>
      have first := i.step_pending random
      show _ = Flow.replay _ (i.flowOf random ++ (i.step random).1.flow ops)
      rw [Flow.replay_append, ← first]
      exact rest
    | load source =>
      have stays := perform_failed_load i hop
      show ((i.perform (.load source)).run ops).state.stack.pending
        = Flow.replay _ ((i.perform (.load source)).flow ops)
      rw [stays] at rest ⊢
      exact rest
    | tick | key | expire | clearKeys | snapshot => exact rest

/-- **The call stack is a bounded stack of return addresses.** After a load and any run without
another one, the slots up to the depth hold what the history of the run leaves open, oldest first
and at most sixteen addresses. A return that succeeds goes to the newest of them. A return behind a
call and a balanced history succeeds, and goes to the address after the call. A call fails exactly
with sixteen calls open, a return exactly with none, and nothing else ever fails. -/
theorem call_stack_lifo (i : Interpreter) {source : Source}
    (loads : (Operation.load source).replaces = true) {ops : List Operation}
    (kept : ∀ op ∈ ops, op.replaces = false) :
    let start := i.perform (.load source)
    let now := start.run ops
    let opened := Flow.pending (start.flow ops)
    (now.state.stack.slots.toList.take now.state.stack.depth = opened ∧ opened.length ≤ 16)
      ∧ (∀ random, now.state.fetch = 0x00EE → (now.step random).2.isOk = true →
          opened.getLast? = some (now.step random).1.state.pc)
      ∧ (∀ before random between, ops = before ++ .step random :: between →
          let caller := start.run before
          caller.state.fetch.family = 2 → (caller.step random).2.isOk = true →
          Flow.Balanced ((caller.step random).1.flow between) →
          now.state.fetch = 0x00EE →
          ∀ random', (now.step random').2.isOk = true
            ∧ (now.step random').1.state.pc = (caller.state.pc + 2) % 4096)
      ∧ (∀ random pc, (now.step random).2 = .error (.overflow pc)
          ↔ pc = now.state.pc ∧ now.state.fetch.family = 2 ∧ opened.length = 16)
      ∧ (∀ random pc, (now.step random).2 = .error (.underflow pc)
          ↔ pc = now.state.pc ∧ now.state.fetch = 0x00EE ∧ opened = [])
      ∧ (∀ random, now.state.fetch.family ≠ 2 → now.state.fetch ≠ 0x00EE →
          (now.step random).2.isOk = true) := by
  intro start now opened
  have hpending : now.state.stack.pending = opened := by
    obtain ⟨memory, hstart⟩ := i.perform_load_state loads
    have hrun := run_pending (i := start) kept
    rw [hstart] at hrun
    exact hrun
  have hlength : opened.length = now.state.stack.depth := by
    rw [← hpending, CallStack.length_pending]
  refine ⟨⟨hpending, ?_⟩, ?_, ?_, ?_, ?_, ?_⟩
  · rw [hlength]
    exact now.state.stack.depth_le
  · intro random hret succeeds
    rcases List.eq_nil_or_concat opened with hnil | ⟨older, newest, hopened⟩
    · -- nothing to return to, so the return would have failed
      have hdepth : now.state.stack.depth = 0 := by rw [← hlength, hnil, List.length_nil]
      have hfault := State.stuck?_underflow_iff.mpr ⟨rfl, hret, hdepth⟩
      rw [step_eq_error_iff.mpr hfault] at succeeds
      cases succeeds
    · rw [List.concat_eq_append] at hopened
      rw [hopened, List.getLast?_concat, (step_return hret (hpending.trans hopened) random).2]
  · rintro before random between rfl caller hcall succeeds balanced hret random'
    -- nothing is known of what happens in between but that it is balanced, which leaves the stack
    -- as the call made it, with the address after the call on top
    have keptBetween := (List.forall_mem_cons.mp (List.forall_mem_append.mp kept).2).2
    have hnow : now = (caller.step random).1.run between := run_append _ _ _
    have hcalled := caller.step_pending random
    rw [flowOf_call hcall succeeds] at hcalled
    have hnested := run_pending (i := (caller.step random).1) keptBetween
    rw [balanced.replay, hcalled, ← hnow] at hnested
    exact step_return hret hnested random'
  · intro random pc
    rw [step_eq_error_iff, State.stuck?_overflow_iff, hlength]
  · intro random pc
    rw [step_eq_error_iff, State.stuck?_underflow_iff, ← List.length_eq_zero_iff, hlength]
  · intro random hcall hret
    cases hres : (now.step random).2 with
    | ok done => rfl
    -- only calls and returns can be stuck
    | error fault =>
      have hfault := step_eq_error_iff.mp hres
      rw [State.stuck?_eq, if_neg hcall, if_neg hret] at hfault
      cases hfault

/-- A subroutine that calls another one. -/
def twoDeep : Source := ⟨[0x22, 0x04, 0x12, 0x02, 0x22, 0x08, 0x00, 0xEE, 0x00, 0xEE], none⟩

def inside : List Operation := [.tick, .step 0, .key (.press 2) 8, .step 0, .snapshot]

theorem call_stack_lifo_twoDeep :
    let caller := (new false).perform (.load twoDeep)
    let now := caller.run (.step 0 :: inside)
    now.state.stack.slots.toList.take now.state.stack.depth = [0x202]
      ∧ (now.step 0).1.state.pc = (caller.state.pc + 2) % 4096 := by
  have loads : (Operation.load twoDeep).replaces = true := by decide +kernel
  have kept : ∀ op ∈ Operation.step 0 :: inside, op.replaces = false := by decide +kernel
  obtain ⟨⟨hslots, -⟩, -, matching, -⟩ := call_stack_lifo (new false) loads kept
  have facts :
      let caller := (new false).perform (.load twoDeep)
      Flow.pending (caller.flow (.step 0 :: inside)) = [0x202]
        ∧ caller.state.fetch.family = 2 ∧ (caller.step 0).2.isOk = true
        ∧ Flow.Balanced ((caller.step 0).1.flow inside)
        ∧ (caller.run (.step 0 :: inside)).state.fetch = 0x00EE := by
    decide +kernel
  obtain ⟨hopened, hcall, hcalled, balanced, hret⟩ := facts
  exact ⟨hslots.trans hopened, (matching [] 0 inside rfl hcall hcalled balanced hret 0).2⟩

end Interpreter

end Chip8
