import Mathlib.Data.List.Induction
import Chip8.Screen.Dashboard
import Chip8.Proofs.Memory.HexReading

/-!
# The marked row as history

The memory cursor is told where the program counter is, again and again, and in between the user
scrolls. It remembers two rows, and yet the row it marks depends on the whole history: on where the
program counter last came from another row, and on every scroll since. This file names that moment
(`Motion.LastMove`) and computes the marked row from it, with scrolls in integers that are cut off at
the ends of the listing.

What was followed longer ago does not matter. A row that is followed once more is nothing new, and
one that the program counter comes back to is.

The dashboard has the cursor follow the program counter whenever it renders. Its rows are those of
the dump that it shows, so what it marks is always one of them (`Screen.marks_listed_row`).
-/

set_option autoImplicit false

namespace Chip8

/-- What happens to the memory cursor. -/
inductive Motion where
  | follow (row : Nat)
  | scroll (direction : Scroll)
  deriving DecidableEq, Repr

namespace Motion

def row? : Motion → Option Nat
  | follow row => some row
  | scroll _ => none

def scroll? : Motion → Option Scroll
  | follow _ => none
  | scroll direction => some direction

/-- The row that was followed last, whatever was scrolled since. -/
def followed (history : List Motion) : Option Nat := (history.filterMap row?).getLast?

/-- The scrolls of a history, in order. -/
def scrolls (history : List Motion) : List Scroll := history.filterMap scroll?

/-- The most recent follow of another row than the one followed before it came after `before`, and
went to `row`; a follow that none came before counts. Since then, every follow was of the row that
had been followed just before. -/
structure LastMove (history before : List Motion) (row : Nat) (since : List Motion) : Prop where
  cut : history = before ++ .follow row :: since
  moved : followed before ≠ some row
  still : ∀ earlier row' later, since = earlier ++ .follow row' :: later →
    followed (before ++ .follow row :: earlier) = some row'

variable {history before since : List Motion} {row : Nat}

@[simp] theorem followed_concat_follow (history : List Motion) (row : Nat) :
    followed (history ++ [follow row]) = some row := by
  simp [followed, row?]

@[simp] theorem followed_concat_scroll (history : List Motion) (direction : Scroll) :
    followed (history ++ [scroll direction]) = followed history := by
  simp [followed, row?]

@[simp] theorem scrolls_concat_follow (history : List Motion) (row : Nat) :
    scrolls (history ++ [follow row]) = scrolls history := by
  simp [scrolls, scroll?]

@[simp] theorem scrolls_concat_scroll (history : List Motion) (direction : Scroll) :
    scrolls (history ++ [scroll direction]) = scrolls history ++ [direction] := by
  simp [scrolls, scroll?]

theorem followed_eq_none_iff : followed history = none ↔ ∀ row, follow row ∉ history := by
  rw [followed, List.getLast?_eq_none_iff, List.filterMap_eq_nil_iff]
  constructor
  · intro nothing row here
    cases nothing _ here
  intro absent motion here
  cases motion with
  | follow row => exact absurd here (absent row)
  | scroll direction => rfl

theorem LastMove.start (moved : followed before ≠ some row) :
    LastMove (before ++ [follow row]) before row [] where
  cut := rfl
  moved := moved
  still earlier row' later nothing := by simp at nothing

/-- Scrolls, and follows of the row that was followed last, leave the last move where it was. -/
theorem LastMove.concat (last : LastMove history before row since) (motion : Motion)
    (stays : ∀ row', motion = follow row' → followed history = some row') :
    LastMove (history ++ [motion]) before row (since ++ [motion]) where
  cut := by simp [last.cut]
  moved := last.moved
  still earlier row' later split := by
    rcases List.eq_nil_or_concat later with rfl | ⟨later, motion', rfl⟩
    · obtain ⟨rfl, rfl⟩ := List.append_singleton_inj.mp split
      rw [← last.cut]
      exact stays row' rfl
    · rw [List.concat_eq_append, ← List.cons_append, ← List.append_assoc] at split
      exact last.still earlier row' later (List.append_singleton_inj.mp split).1

/-- If anything was followed, there was a last move. -/
theorem exists_lastMove (some_followed : followed history ≠ none) :
    ∃ before row since, LastMove history before row since := by
  induction history using List.reverseRecOn with
  | nil => exact absurd rfl some_followed
  | append_singleton history motion ih =>
    cases motion with
    | scroll direction =>
      rw [followed_concat_scroll] at some_followed
      obtain ⟨before, row, since, last⟩ := ih some_followed
      exact ⟨before, row, _, last.concat _ nofun⟩
    | follow row' =>
      by_cases same : followed history = some row'
      · obtain ⟨before, row, since, last⟩ := ih (by simp [same])
        exact ⟨before, row, _, last.concat _ fun _ e => by cases e; exact same⟩
      · exact ⟨history, row', [], .start same⟩

end Motion

/-! ## Scrolling in integers -/

namespace Scroll

/-- The row that is scrolled to from a row; it may lie outside of the listing. -/
def target (row : Nat) : Scroll → Int
  | .down => row + 1
  | .up => row - 1
  | .top => 0
  | .bottom => 255

/-- The row between 0 and 255 that is nearest to a number. -/
def clamp (z : Int) : Nat := (max 0 (min z 255)).toNat

/-- Where scrolls lead from a row, each cut off at the ends of the listing. -/
def lead (row : Nat) (directions : List Scroll) : Nat :=
  directions.foldl (fun row direction => clamp (direction.target row)) row

theorem lead_concat (row : Nat) (directions : List Scroll) (direction : Scroll) :
    lead row (directions ++ [direction]) = clamp (direction.target (lead row directions)) := by
  simp [lead]

theorem clamp_le (z : Int) : clamp z ≤ 255 := by
  unfold clamp
  omega

end Scroll

/-! ## The cursor -/

namespace MemoryCursor

open Motion

/-- Tells the cursor of one motion. -/
def obey (c : MemoryCursor) : Motion → MemoryCursor
  | .follow row => c.follow row
  | .scroll direction => c.scroll direction

/-- The cursor after some motions. -/
def run (c : MemoryCursor) (history : List Motion) : MemoryCursor := history.foldl obey c

variable {c : MemoryCursor} {history : List Motion}

@[simp] theorem run_append (c : MemoryCursor) (history since : List Motion) :
    c.run (history ++ since) = (c.run history).run since :=
  List.foldl_append

@[simp] theorem run_singleton (c : MemoryCursor) (motion : Motion) : c.run [motion] = c.obey motion :=
  rfl

theorem follow_of_followed {row : Nat} (same : c.followed = some row) : c.follow row = c :=
  if_pos same

theorem follow_of_moved {row : Nat} (moved : c.followed ≠ some row) : c.follow row = ⟨row, some row⟩ :=
  if_neg moved

theorem selected_scroll (within : c.selected ≤ 255) (direction : Scroll) :
    (c.scroll direction).selected = Scroll.clamp (direction.target c.selected) := by
  cases direction <;> simp only [scroll, lastRow, Scroll.clamp, Scroll.target] <;> omega

/-- The cursor remembers which row was followed last. -/
theorem followed_run (history : List Motion) :
    (run {} history).followed = Motion.followed history := by
  induction history using List.reverseRecOn with
  | nil => rfl
  | append_singleton history motion ih =>
    rw [run_append, run_singleton]
    cases motion with
    | scroll direction => rw [followed_concat_scroll, ← ih]; rfl
    | follow row =>
      rw [followed_concat_follow]
      by_cases same : (run {} history).followed = some row
      · rw [obey, follow_of_followed same, same]
      · rw [obey, follow_of_moved same]

theorem selected_obey_le (within : c.selected ≤ 255) {motion : Motion}
    (inside : ∀ row, motion = .follow row → row ≤ 255) : (c.obey motion).selected ≤ 255 := by
  cases motion with
  | scroll direction =>
    rw [obey, selected_scroll within]
    exact Scroll.clamp_le _
  | follow row =>
    by_cases same : c.followed = some row
    · rw [obey, follow_of_followed same]
      exact within
    · rw [obey, follow_of_moved same]
      exact inside row rfl

theorem selected_run_le (within : c.selected ≤ 255)
    (inside : ∀ row, .follow row ∈ history → row ≤ 255) : (c.run history).selected ≤ 255 := by
  induction history generalizing c with
  | nil => exact within
  | cons motion rest ih =>
    refine ih (selected_obey_le within fun row e => inside row (e ▸ List.mem_cons_self)) ?_
    exact fun row here => inside row (List.mem_cons_of_mem _ here)

/-- As long as only the row is followed that the cursor has followed already, nothing but the scrolls
moves it. -/
theorem selected_run_of_still (within : c.selected ≤ 255) {since : List Motion}
    (still : ∀ earlier row later, since = earlier ++ .follow row :: later →
      (c.run earlier).followed = some row) :
    (c.run since).selected = Scroll.lead c.selected (scrolls since)
      ∧ (c.run since).selected ≤ 255 := by
  induction since using List.reverseRecOn with
  | nil => exact ⟨rfl, within⟩
  | append_singleton since motion ih =>
    obtain ⟨led, kept⟩ := ih fun earlier row later split =>
      still earlier row (later ++ [motion]) (by simp [split])
    rw [run_append, run_singleton]
    cases motion with
    | follow row =>
      rw [obey, follow_of_followed (still since row [] rfl), scrolls_concat_follow]
      exact ⟨led, kept⟩
    | scroll direction =>
      rw [obey, selected_scroll kept, scrolls_concat_scroll, Scroll.lead_concat, ← led]
      exact ⟨rfl, Scroll.clamp_le _⟩

/-- Before anything is followed, the cursor is scrolled from the top. -/
theorem selected_run_unfollowed (absent : ∀ row, .follow row ∉ history) :
    (run {} history).selected = Scroll.lead 0 (scrolls history) :=
  (selected_run_of_still (c := {}) (Nat.zero_le _) fun _ row _ split =>
    absurd (split ▸ List.mem_append_right _ List.mem_cons_self) (absent row)).1

theorem selected_run_of_lastMove {before since : List Motion} {row : Nat} (inside : row ≤ 255)
    (last : LastMove history before row since) :
    (run {} history).selected = Scroll.lead row (scrolls since) := by
  have arrives : run {} (before ++ [.follow row]) = ⟨row, some row⟩ := by
    rw [run_append, run_singleton, obey, follow_of_moved]
    rw [followed_run]
    exact last.moved
  have split (earlier : List Motion) :
      before ++ .follow row :: earlier = (before ++ [.follow row]) ++ earlier := by simp
  rw [last.cut, split, run_append, arrives]
  refine (selected_run_of_still (c := ⟨row, some row⟩) inside fun earlier row' later here => ?_).1
  rw [← arrives, ← run_append, ← split, followed_run]
  exact last.still earlier row' later here

/-- **The marked row is where the program counter last moved to, and the scrolls since.** Take any
follows of rows 0 to 255, mixed in any way with scrolls, from a cursor that is new. The row that is
marked stays between 0 and 255. If nothing was followed it is row 0, moved by the scrolls; otherwise
there is a last follow that was not of the row followed just before it, and the marked row is the row
of that follow, moved by the scrolls made since. Scrolls go down or up by one, to 0 or to 255, and
each is cut off at 0 and 255. So to follow the same row again changes nothing, whatever was scrolled
in between, and to follow any other row, even one that was followed before, drops all scrolling. -/
theorem marked_row_as_history (history : List Motion)
    (inside : ∀ row, .follow row ∈ history → row ≤ 255) :
    (run {} history).selected ≤ 255
      ∧ ((∀ row, .follow row ∉ history) →
          (run {} history).selected = Scroll.lead 0 (scrolls history))
      ∧ ((∃ row, .follow row ∈ history) → ∃ before row since, LastMove history before row since)
      ∧ (∀ before row since, LastMove history before row since →
          (run {} history).selected = Scroll.lead row (scrolls since))
      ∧ (∀ row, Motion.followed history = some row →
          run {} (history ++ [.follow row]) = run {} history)
      ∧ (∀ row, Motion.followed history ≠ some row →
          (run {} (history ++ [.follow row])).selected = row) := by
  refine ⟨selected_run_le (Nat.zero_le _) inside, selected_run_unfollowed,
    fun ⟨row, here⟩ => ?_, fun before row since last => ?_, fun row same => ?_, fun row moved => ?_⟩
  · exact exists_lastMove fun none => followed_eq_none_iff.mp none row here
  · refine selected_run_of_lastMove (inside row ?_) last
    rw [last.cut]
    exact List.mem_append_right _ List.mem_cons_self
  · rw [run_append, run_singleton, obey, follow_of_followed]
    rw [followed_run, same]
  · rw [run_append, run_singleton, obey, follow_of_moved]
    rw [followed_run]
    exact moved

/-- The program counter goes from row 32 to row 33 and comes back to row 32. Of all the scrolling
only the last three count, and the second of them has no room. -/
theorem marked_row_as_history_backAgain :
    let history : List Motion :=
      [.scroll .up, .follow 32, .scroll .down, .follow 32, .follow 33, .scroll .bottom, .follow 32,
        .scroll .top, .scroll .up, .follow 32, .scroll .down]
    (∀ row, .follow row ∈ history → row ≤ 255)
      ∧ LastMove history (history.take 6) 32 (history.drop 7)
      ∧ (run {} history).selected = 1 := by
  intro history
  have inside : ∀ row, .follow row ∈ history → row ≤ 255 := by simp [history]
  have back : LastMove (history.take 7) (history.take 6) 32 [] :=
    LastMove.start (show Motion.followed (history.take 6) ≠ some 32 by decide)
  have top : LastMove (history.take 8) (history.take 6) 32 _ := back.concat (.scroll .top) nofun
  have up : LastMove (history.take 9) (history.take 6) 32 _ := top.concat (.scroll .up) nofun
  have again : LastMove (history.take 10) (history.take 6) 32 _ :=
    up.concat (.follow 32) (by rintro _ ⟨⟩; rfl)
  have last : LastMove history (history.take 6) 32 (history.drop 7) :=
    again.concat (.scroll .down) nofun
  exact ⟨inside, last, (marked_row_as_history history inside).2.2.2.1 _ _ _ last⟩

end MemoryCursor

/-! ## On the dashboard -/

theorem HexDump.rowOf_le (addr : UInt16) : HexDump.rowOf addr ≤ 255 := by
  have := (Address.ofWord addr).isLt
  unfold rowOf rowBytes
  omega

theorem Snapshot.length_memoryRows (s : Snapshot) : s.memoryRows.length = 256 := by
  rw [memoryRows, HexDump.rows, HexDump.length_rowsFrom, Vector.length_toList]

namespace Screen

/-- What a screen is asked for. -/
inductive Request where
  /-- to show the machine as it is -/
  | render (s : State)
  | scroll (direction : Scroll)

def Request.motion : Request → Motion
  | render s => .follow (HexDump.rowOf s.pc)
  | scroll direction => .scroll direction

def serve (screen : Screen) : Request → Screen
  | .render s => (screen.render s.view).1
  | .scroll direction => screen.scroll direction

/-- The cursor is on a row of the listing, and so was every row that was marked. -/
structure Listed (screen : Screen) : Prop where
  cursor : screen.cursor.selected ≤ 255
  shown : ∀ v ∈ screen.shown, v.selected < v.snapshot.memoryRows.length

variable {screen : Screen}

theorem cursor_serve (screen : Screen) (request : Request) :
    (screen.serve request).cursor = screen.cursor.obey request.motion := by
  cases request <;> rfl

theorem Listed.serve (listed : Listed screen) (request : Request) :
    Listed (screen.serve request) := by
  have cursor : (screen.serve request).cursor.selected ≤ 255 := by
    rw [cursor_serve]
    refine MemoryCursor.selected_obey_le listed.cursor fun row follows => ?_
    cases request with
    | scroll direction => cases follows
    | render s =>
      cases follows
      exact HexDump.rowOf_le s.pc
  refine ⟨cursor, ?_⟩
  cases request with
  | scroll direction => exact listed.shown
  | render s =>
    refine List.forall_mem_cons.mpr ⟨?_, listed.shown⟩
    rw [Snapshot.length_memoryRows]
    exact Nat.lt_succ_of_le cursor

/-- The history of the cursor is that of the requests. -/
theorem cursor_foldl_serve (screen : Screen) (requests : List Request) :
    (requests.foldl serve screen).cursor = screen.cursor.run (requests.map Request.motion) := by
  induction requests generalizing screen with
  | nil => rfl
  | cons request rest ih =>
    rw [List.foldl_cons, ih, cursor_serve]
    rfl

/-- **A dashboard always marks a row that it lists**, in whatever order it is rendered and
scrolled. -/
theorem marks_listed_row (requests : List Request) :
    ∀ v ∈ (requests.foldl serve {}).shown, v.selected < v.snapshot.memoryRows.length := by
  have listed (screen : Screen) (h : Listed screen) : Listed (requests.foldl serve screen) := by
    induction requests generalizing screen with
    | nil => exact h
    | cons request rest ih => exact ih _ (h.serve request)
  exact (listed {} ⟨Nat.zero_le _, nofun⟩).shown

end Screen

end Chip8
