import Mathlib.Control.Monad.Basic
import Chip8.Proofs.Machine.Shared

/-!
# Keeping account of runs and faults

What the calls of a machine's owner return depends on what happened before them. Two things are
enough to know of the past: whether there is a run, and which fault of its cpu was not returned
yet. A `Ledger` is these two, an `Event` is what changes them, and `Ledger.Allows` is what may
happen next. The last section reads off a history in which everything was allowed when it happened
what it says about calls and faults that may be far apart.

Nothing here speaks of machines in motion. That their histories are such is said elsewhere.
-/

set_option autoImplicit false

namespace Chip8

/-- What a machine says of itself to somebody who asks whether it runs and whether it has halted. -/
inductive Status where
  | stopped | running | halted
  deriving DecidableEq, Repr

/-- A call of the owner that has returned. -/
structure Return where
  call : Call
  /-- what the machine was when the call looked -/
  found : Status
  /-- the call began a run -/
  begun : Bool
  result : Except StackFault Unit
  deriving DecidableEq

/-- The calls that end a run if there is one: every stop, and a run of a halted machine. -/
def Return.closes (r : Return) : Bool := r.call == .stop || r.found == .halted

inductive Event where
  /-- an instruction of the cpu activity failed -/
  | met (fault : StackFault)
  | returned (r : Return)
  deriving DecidableEq

namespace Event

def closes : Event → Bool
  | met _ => false
  | returned r => r.closes

def begins : Event → Bool
  | met _ => false
  | returned r => r.begun

end Event

structure Ledger where
  /-- there is a run -/
  standing : Bool
  /-- the fault that nobody was told of yet -/
  owed : Option StackFault

namespace Ledger

def blank : Ledger := ⟨false, none⟩

/-- What a call returns that ends a run. -/
def settled (l : Ledger) : Except StackFault Unit :=
  match l.owed with
  | none => .ok ()
  | some fault => .error fault

def after (l : Ledger) : Event → Ledger
  | .met fault => { l with owed := some fault }
  | .returned r => ⟨r.begun || (l.standing && !r.closes), if r.closes then none else l.owed⟩

def afterAll (l : Ledger) (events : List Event) : Ledger := events.foldl after l

/-- What may happen: only a run meets a fault, and only once. A call returns what is owed if it
ends a run, and otherwise succeeds; it begins a run if it is asked to and finds none. -/
def Allows (l : Ledger) : Event → Prop
  | .met _ => l.standing = true ∧ l.owed = none
  | .returned r =>
    (r.found = .stopped ↔ l.standing = false) ∧ (r.found = .halted → l.owed.isSome = true)
      ∧ (r.begun = true ↔ r.call = .run ∧ r.found = .stopped)
      ∧ r.result = if r.closes then l.settled else .ok ()

theorem afterAll_append (l : Ledger) (before since : List Event) :
    l.afterAll (before ++ since) = (l.afterAll before).afterAll since := List.foldl_append

theorem settled_eq_error_iff {l : Ledger} {f : StackFault} :
    l.settled = .error f ↔ l.owed = some f := by
  unfold settled
  cases l.owed <;> simp

end Ledger

/-- Everything in the history was allowed when it happened. -/
def Legal (events : List Event) : Prop :=
  ∀ before e after, events = before ++ e :: after → (Ledger.blank.afterAll before).Allows e

namespace Legal

theorem nil : Legal [] := by
  intro before e after h
  simp at h

theorem snoc {events : List Event} {e : Event} (h : Legal events)
    (he : (Ledger.blank.afterAll events).Allows e) : Legal (events ++ [e]) := by
  intro before e' after hsplit
  rcases List.eq_nil_or_concat after with rfl | ⟨after, last, rfl⟩
  · obtain ⟨rfl, hlast⟩ := List.append_inj' hsplit rfl
    cases hlast
    exact he
  · rw [List.concat_eq_append, ← List.cons_append, ← List.append_assoc] at hsplit
    exact h before e' after (List.append_inj' hsplit rfl).1

variable {events before since after between : List Event} {f : StackFault} {r r' : Return}

/-- A fault is owed until somebody ends the run. -/
theorem owed_afterAll (h : Legal events) (hsplit : events = before ++ since ++ after)
    (howed : (Ledger.blank.afterAll before).owed = some f)
    (hopen : ∀ e ∈ since, e.closes = false) :
    (Ledger.blank.afterAll (before ++ since)).owed = some f := by
  induction since generalizing before with
  | nil => simpa using howed
  | cons e since ih =>
    have allowed := h before e (since ++ after) (by simp [hsplit])
    have stillOwed : (Ledger.blank.afterAll (before ++ [e])).owed = some f := by
      rw [Ledger.afterAll_append]
      cases e with
      | met g =>
        -- a second fault would have to be met where none is owed
        rw [allowed.2] at howed
        cases howed
      | returned r =>
        have keeps : r.closes = false := hopen _ (List.mem_cons_self ..)
        simpa [Ledger.afterAll, Ledger.after, keeps] using howed
    have rest := ih (by simp [hsplit]) stillOwed fun e he => hopen e (List.mem_cons_of_mem _ he)
    simpa using rest

end Legal

/-- A fault that is owed was met, and no run was ended since. -/
theorem Ledger.exists_met_of_owed {l : Ledger} {events : List Event} {f : StackFault}
    (h : (l.afterAll events).owed = some f) :
    (l.owed = some f ∧ ∀ e ∈ events, e.closes = false)
      ∨ ∃ before since, events = before ++ .met f :: since ∧ ∀ e ∈ since, e.closes = false := by
  induction events generalizing l with
  | nil => exact .inl ⟨h, by simp⟩
  | cons e events ih =>
    rcases ih (l := l.after e) h with ⟨howed, hopen⟩ | ⟨before, since, rfl, hopen⟩
    · cases e with
      | met g =>
        cases howed
        exact .inr ⟨[], events, rfl, hopen⟩
      | returned r =>
        cases hr : r.closes with
        | true => simp [after, hr] at howed
        | false =>
          refine .inl ⟨by simpa [after, hr] using howed, ?_⟩
          intro e he
          rcases List.mem_cons.mp he with rfl | he
          · exact hr
          · exact hopen e he
    · exact .inr ⟨e :: before, since, rfl, hopen⟩

namespace Legal

variable {events before since after between : List Event} {f : StackFault} {r r' : Return}

/-- **A call returns a fault exactly if it ends a run and the fault was met since the last call that
did.** -/
theorem result_eq_error_iff (h : Legal events) (hsplit : events = before ++ .returned r :: after) :
    r.result = .error f ↔ r.closes = true ∧ ∃ earlier since, before = earlier ++ .met f :: since
      ∧ ∀ e ∈ since, e.closes = false := by
  obtain ⟨-, -, -, result⟩ := h before _ after hsplit
  rw [result]
  constructor
  · intro herror
    split at herror
    · next closes =>
      have howed := Ledger.settled_eq_error_iff.mp herror
      rcases Ledger.exists_met_of_owed howed with ⟨nothing, -⟩ | met
      · cases nothing
      · exact ⟨closes, met⟩
    · cases herror
  · rintro ⟨closes, earlier, since, rfl, hopen⟩
    rw [if_pos closes, Ledger.settled_eq_error_iff]
    have met : (Ledger.blank.afterAll (earlier ++ [.met f])).owed = some f := by
      rw [Ledger.afterAll_append]
      rfl
    have split : events = earlier ++ [.met f] ++ since ++ .returned r :: after := by simp [hsplit]
    have owed := h.owed_afterAll split met hopen
    simpa using owed

theorem begun_iff (h : Legal events) (hr : .returned r ∈ events) :
    r.begun = true ↔ r.call = .run ∧ r.found = .stopped := by
  obtain ⟨before, after, hsplit⟩ := List.append_of_mem hr
  exact (h before _ after hsplit).2.2.1

/-- A machine does not halt but on a fault. -/
theorem exists_fault_of_halted (h : Legal events) (hr : .returned r ∈ events)
    (halted : r.found = .halted) : ∃ f, r.result = .error f := by
  obtain ⟨before, after, hsplit⟩ := List.append_of_mem hr
  obtain ⟨-, owes, -, result⟩ := h before _ after hsplit
  obtain ⟨f, hf⟩ := Option.isSome_iff_exists.mp (owes halted)
  refine ⟨f, ?_⟩
  rw [result, Return.closes, halted]
  simpa using Ledger.settled_eq_error_iff.mpr hf

/-- **The call after one that returned a fault finds the machine stopped.** -/
theorem found_stopped (h : Legal events)
    (hsplit : events = before ++ .returned r :: between ++ .returned r' :: after)
    (hnext : ∀ e ∈ between, ∃ f, e = .met f) (failed : r.result = .error f) :
    r'.found = .stopped := by
  have first : events = before ++ .returned r :: (between ++ .returned r' :: after) := by
    simp [hsplit]
  have closes := ((h.result_eq_error_iff first).mp failed).1
  have notBegun : r.begun = false := by
    cases hb : r.begun with
    | false => rfl
    | true =>
      obtain ⟨hcall, hfound⟩ := (h.begun_iff (by simp [first])).mp hb
      simp [Return.closes, hcall, hfound] at closes
  have meets (l : Ledger) : (l.afterAll between).standing = l.standing := by
    clear hsplit first
    induction between generalizing l with
    | nil => rfl
    | cons e between ih =>
      obtain ⟨g, rfl⟩ := hnext e (List.mem_cons_self ..)
      exact ih (fun e he => hnext e (List.mem_cons_of_mem _ he)) _
  obtain ⟨finds, -⟩ := h _ (.returned r') after hsplit
  refine finds.mpr ?_
  rw [Ledger.afterAll_append]
  show (((Ledger.blank.afterAll before).after (.returned r)).afterAll between).standing = false
  rw [meets]
  simp [Ledger.after, closes, notBegun]

end Legal

end Chip8
