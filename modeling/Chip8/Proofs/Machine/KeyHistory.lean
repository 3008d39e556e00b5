import Mathlib.Data.List.Induction
import Chip8.Proofs.Machine.KeyOrder
import Chip8.Proofs.Machine.News

/-!
# Keys that expire

A keypad that is refreshed time and again has no memory but its sixteen keys and one moment. Yet it
behaves as if it had written down every event that it heard, with the moment of it, and torn up the
list whenever the last entry was too old: a key is down exactly if the last entry for it is a press
(`Keypad.Remembers`). This file keeps the list (`Heard.sinceExpiry`) beside the keypad, and says that
every refresh keeps the two together.

Events for keys that do not exist are not heard. They do not put off an expiry either, although they
come from the same queue.

Moments are compared twice, and differently. The keypad asks how long ago the last event was, where a
moment that lies ahead counts as no time ago. Said of the list, the last entry and the window may not
reach beyond the moment of the refresh. The two agree because refreshes come in order of time.
-/

set_option autoImplicit false

namespace Chip8

/-! ## What was heard -/

/-- A refresh: the moment of it, and the events it is given. -/
structure Refresh where
  now : Nat
  events : List KeyEvent

/-- Events for existing keys, the first one first, each with the moment at which it was applied. -/
abbrev Heard := List (Nat × KeyEvent)

namespace Heard

/-- What is heard of events that come at `now`. -/
def ofEvents (now : Nat) (events : List KeyEvent) : Heard :=
  (events.filter KeyEvent.inRange).map fun e => (now, e)

/-- Whether the last event for a key is a press. -/
def pressed (heard : Heard) (key : UInt8) : Bool :=
  (KeyEvent.lastIsPress? key (heard.map Prod.snd)).getD false

/-- Whether keys expire at `now`: they do if there is a window, something was heard, and the last of
it is a whole window old. -/
def stale (window : Option Nat) (now : Nat) (heard : Heard) : Bool :=
  window.any fun window => heard.getLast?.any fun last => last.1 + window ≤ now

/-- What was heard since keys last expired, after one more refresh. -/
def after (window : Option Nat) (heard : Heard) (c : Refresh) : Heard :=
  if stale window c.now (heard ++ ofEvents c.now c.events) then []
  else heard ++ ofEvents c.now c.events

/-- All that was heard in some refreshes. -/
def inAll (calls : List Refresh) : Heard := calls.flatMap fun c => ofEvents c.now c.events

/-- What was heard in some refreshes since keys last expired. -/
def sinceExpiry (window : Option Nat) (calls : List Refresh) : Heard := calls.foldl (after window) []

theorem ofEvents_append (now : Nat) (es es' : List KeyEvent) :
    ofEvents now (es ++ es') = ofEvents now es ++ ofEvents now es' := by
  rw [ofEvents, List.filter_append, List.map_append, ofEvents, ofEvents]

theorem sinceExpiry_append (window : Option Nat) (calls : List Refresh) (c : Refresh) :
    sinceExpiry window (calls ++ [c]) = after window (sinceExpiry window calls) c :=
  List.foldl_append

theorem pressed_append (heard new : Heard) (key : UInt8) :
    pressed (heard ++ new) key
      = (KeyEvent.lastIsPress? key (new.map Prod.snd)).getD (pressed heard key) := by
  rw [pressed, pressed, List.map_append, KeyEvent.lastIsPress?_append]
  cases KeyEvent.lastIsPress? key (new.map Prod.snd) <;> rfl

/-- What was heard since keys last expired is the end of what was heard at all. -/
theorem sinceExpiry_suffix (window : Option Nat) (calls : List Refresh) :
    sinceExpiry window calls <:+ inAll calls := by
  induction calls using List.reverseRecOn with
  | nil => exact List.suffix_rfl
  | append_singleton calls c ih =>
    obtain ⟨earlier, cut⟩ := ih
    have all : inAll (calls ++ [c]) = inAll calls ++ ofEvents c.now c.events := by simp [inAll]
    rw [sinceExpiry_append, after, all]
    split
    · exact List.nil_suffix
    · exact ⟨earlier, by rw [← cut, List.append_assoc]⟩

theorem exists_call_of_mem {window : Option Nat} {calls : List Refresh} {entry : Nat × KeyEvent}
    (h : entry ∈ sinceExpiry window calls) :
    ∃ c ∈ calls, entry.1 = c.now := by
  obtain ⟨c, hc, hentry⟩ := List.mem_flatMap.mp ((sinceExpiry_suffix window calls).mem h)
  obtain ⟨e, -, rfl⟩ := List.mem_map.mp hentry
  exact ⟨c, hc, rfl⟩

theorem le_of_ordered {window : Option Nat} {calls : List Refresh} {c : Refresh}
    (ordered : (calls ++ [c]).Pairwise fun earlier later => earlier.now ≤ later.now) :
    ∀ entry ∈ sinceExpiry window calls ++ ofEvents c.now c.events, entry.1 ≤ c.now := by
  obtain ⟨-, -, late⟩ := List.pairwise_append.mp ordered
  intro entry hentry
  rcases List.mem_append.mp hentry with old | new
  · obtain ⟨call, hcall, stamp⟩ := exists_call_of_mem old
    rw [stamp]
    exact late call hcall c (List.mem_singleton_self c)
  · obtain ⟨e, -, rfl⟩ := List.mem_map.mp new
    exact Nat.le_refl _

/-- If a key is pressed, the last thing that was heard at all is less than the window old. -/
theorem recent_of_pressed {window : Nat} {calls : List Refresh} {c : Refresh} {key : UInt8}
    (h : pressed (sinceExpiry (some window) (calls ++ [c])) key = true) :
    ∃ last, (inAll (calls ++ [c])).getLast? = some last ∧ c.now < last.1 + window := by
  obtain ⟨earlier, cut⟩ := sinceExpiry_suffix (some window) (calls ++ [c])
  rw [sinceExpiry_append, after] at h cut
  split at h
  · cases h
  · next fresh =>
    rw [if_neg fresh] at cut
    cases hlast : (sinceExpiry (some window) calls ++ ofEvents c.now c.events).getLast? with
    | none =>
      rw [List.getLast?_eq_none_iff.mp hlast] at h
      cases h
    | some last =>
      refine ⟨last, by rw [← cut, List.getLast?_append, hlast, Option.some_or], ?_⟩
      simpa [stale, hlast] using fresh

end Heard

/-! ## One keypad -/

namespace Keypad

/-- The keypad after some refreshes, the first one first. -/
def refreshAll (window : Option Nat) (calls : List Refresh) (k : Keypad) : Keypad :=
  calls.foldl (fun k c => (k.refresh window c.now c.events).1) k

theorem refreshAll_append (window : Option Nat) (calls : List Refresh) (c : Refresh) (k : Keypad) :
    k.refreshAll window (calls ++ [c])
      = ((k.refreshAll window calls).refresh window c.now c.events).1 :=
  List.foldl_append

/-- Whether the last event is `window` or longer ago. -/
def isOverdue (window : Option Nat) (now : Nat) (k : Keypad) : Bool :=
  window.any fun window => k.lastEvent.any fun since => window ≤ now - since

theorem settle_eq (window : Option Nat) (now : Nat) (k : Keypad) :
    k.settle window now = if k.isOverdue window now then idle else k := by
  cases window with
  | none => rfl
  | some window =>
    cases hlast : k.lastEvent with
    | none => simp [settle, expire, isOverdue, hlast]
    | some since =>
      simp only [settle, expire, isOverdue, hlast, Option.any_some, decide_eq_true_eq]
      split <;> rfl

theorem anyDown_iff (k : Keypad) : k.anyDown = true ↔ ∃ key, k.isDown key = true := by
  simp only [anyDown, Vector.any_eq_true, id]
  constructor
  · rintro ⟨i, hi, down⟩
    have number : (UInt8.ofNat i).toNat = i := by
      rw [UInt8.toNat_ofNat']
      omega
    exact ⟨UInt8.ofNat i, by simp [isDown, number, hi, down]⟩
  · rintro ⟨key, down⟩
    by_cases h : key.toNat < 16
    · exact ⟨key.toNat, h, by simpa [isDown, h] using down⟩
    · rw [isDown_of_le _ (Nat.le_of_not_lt h)] at down
      cases down

/-! ### What a refresh answers -/

/-- An event flips its key, if there is such a key, unless the key is already as the event would
have it. -/
theorem apply_changed (k : Keypad) (e : KeyEvent) (now : Nat) :
    (k.apply e now).2 = (e.inRange && k.isDown e.key != e.isPress) := by
  unfold apply KeyEvent.inRange
  split
  · next inside => simp [isDown, inside]
  · next outside => simp [outside]

theorem expire_changed (k : Keypad) (window now : Nat) :
    (k.expire window now).2 = (k.isOverdue (some window) now && k.anyDown) := by
  cases hlast : k.lastEvent with
  | none => simp [expire, isOverdue, hlast]
  | some since =>
    simp only [expire, isOverdue, hlast, Option.any_some]
    split
    · next late => rw [decide_eq_true late, Bool.true_and]
    · next early => rw [decide_eq_false early, Bool.false_and]

/-- Whether some event flips its key, when events are applied one after the other. -/
theorem foldl_changed (now : Nat) (events : List KeyEvent) (k : Keypad) (changed : Bool) :
    (events.foldl (fun x e => ((x.1.apply e now).1, x.2 || (x.1.apply e now).2)) (k, changed)).2
        = true
      ↔ changed = true
        ∨ ∃ es e es', events = es ++ e :: es' ∧ ((k.applyAll now es).apply e now).2 = true := by
  induction events generalizing k changed with
  | nil => simp
  | cons e events ih =>
    rw [List.foldl_cons, ih, Bool.or_eq_true, or_assoc]
    refine or_congr_right ?_
    constructor
    · rintro (first | ⟨es, e', es', rfl, later⟩)
      · exact ⟨[], e, events, rfl, first⟩
      · exact ⟨e :: es, e', es', rfl, later⟩
    · rintro ⟨es, e', es', cut, flips⟩
      cases es with
      | nil => cases cut; exact .inl flips
      | cons _ es => cases cut; exact .inr ⟨es, e', es', rfl, flips⟩

theorem refresh_changed (k : Keypad) (window : Option Nat) (now : Nat) (events : List KeyEvent) :
    (k.refresh window now events).2 = true
      ↔ (∃ es e es', events = es ++ e :: es' ∧ ((k.applyAll now es).apply e now).2 = true)
        ∨ (k.applyAll now events).isOverdue window now = true
          ∧ (k.applyAll now events).anyDown = true := by
  have applied := foldl_changed now events k false
  have keypad : (k.refresh none now events).1 = k.applyAll now events :=
    k.refresh_keypad none now events
  cases window with
  | none => exact applied.trans (by simp [isOverdue])
  | some window =>
    have both : (k.refresh (some window) now events).2
        = ((k.refresh none now events).2
          || ((k.refresh none now events).1.expire window now).2) := rfl
    rw [both, Bool.or_eq_true, keypad, expire_changed, Bool.and_eq_true]
    exact or_congr_left (applied.trans (by simp))

/-- Events for keys that do not exist make no difference, not even to when keys expire. -/
theorem refresh_filter (k : Keypad) (window : Option Nat) (now : Nat) (events : List KeyEvent) :
    k.refresh window now (events.filter KeyEvent.inRange) = k.refresh window now events := by
  have applied (x : Keypad × Bool) :
      (events.filter KeyEvent.inRange).foldl
          (fun x e => ((x.1.apply e now).1, x.2 || (x.1.apply e now).2)) x
        = events.foldl (fun x e => ((x.1.apply e now).1, x.2 || (x.1.apply e now).2)) x := by
    induction events generalizing x with
    | nil => rfl
    | cons e es ih =>
      cases exists_ : e.inRange with
      | true => rw [List.filter_cons_of_pos exists_, List.foldl_cons, ih, List.foldl_cons]
      | false =>
        have outside : ¬ e.key.toNat < 16 := of_decide_eq_false exists_
        have ignored : x.1.apply e now = (x.1, false) := dif_neg outside
        rw [List.filter_cons_of_neg (by rw [exists_]; exact Bool.false_ne_true), ih,
          List.foldl_cons, ignored, Bool.or_false]
  unfold refresh
  rw [applied (k, false)]

/-- The keypad is as a list of what was heard would have it. -/
structure Remembers (k : Keypad) (heard : Heard) : Prop where
  down : ∀ key, k.isDown key = heard.pressed key
  lastEvent : k.lastEvent = heard.getLast?.map Prod.fst
  exist : ∀ entry ∈ heard, entry.2.inRange = true

namespace Remembers

variable {k : Keypad} {heard : Heard}

theorem idle : idle.Remembers [] := by
  refine ⟨fun key => ?_, rfl, by simp⟩
  by_cases h : key.toNat < 16
  · simp [Keypad.idle, isDown, h, Heard.pressed, KeyEvent.lastIsPress?]
  · exact isDown_of_le _ (Nat.le_of_not_lt h)

theorem apply (h : k.Remembers heard) (e : KeyEvent) (now : Nat) :
    (k.apply e now).1.Remembers (heard ++ Heard.ofEvents now [e]) := by
  cases exists_ : e.inRange with
  | false =>
    -- an event that is not heard is no entry, and does not put off an expiry
    have outside : ¬ e.key.toNat < 16 := of_decide_eq_false exists_
    have unheard : Heard.ofEvents now [e] = [] := by simp [Heard.ofEvents, exists_]
    rw [unheard, List.append_nil, Keypad.apply, dif_neg outside]
    exact h
  | true =>
    have inside : e.key.toNat < 16 := of_decide_eq_true exists_
    have entry : Heard.ofEvents now [e] = [(now, e)] := by simp [Heard.ofEvents, exists_]
    rw [entry]
    refine ⟨fun key => ?_, ?_, ?_⟩
    · rw [Heard.pressed_append, ← h.down]
      by_cases hkey : key.toNat < 16
      · exact isDown_apply k e now hkey
      · have other : e.key ≠ key := fun same => hkey (same ▸ inside)
        rw [isDown_of_le _ (Nat.le_of_not_lt hkey), isDown_of_le _ (Nat.le_of_not_lt hkey)]
        simp [KeyEvent.lastIsPress?, other]
    · rw [Keypad.apply, dif_pos inside, List.getLast?_concat]
      rfl
    · intro entry hentry
      rcases List.mem_append.mp hentry with old | new
      · exact h.exist entry old
      · rw [List.mem_singleton.mp new]
        exact exists_

theorem applyAll (h : k.Remembers heard) (now : Nat) (events : List KeyEvent) :
    (k.applyAll now events).Remembers (heard ++ Heard.ofEvents now events) := by
  induction events generalizing k heard with
  | nil => rwa [show Heard.ofEvents now [] = [] from rfl, List.append_nil]
  | cons e es ih =>
    rw [← List.singleton_append, Heard.ofEvents_append, ← List.append_assoc]
    exact ih (h.apply e now)

theorem isOverdue_eq (h : k.Remembers heard) (window : Option Nat) {now : Nat}
    (past : ∀ entry ∈ heard, entry.1 ≤ now) :
    k.isOverdue window now = heard.stale window now := by
  unfold isOverdue Heard.stale
  rw [h.lastEvent]
  cases hlast : heard.getLast? with
  | none => rfl
  | some last =>
    -- no moment lies ahead, so the time that passed is a true difference
    have before : last.1 ≤ now := past last (List.mem_of_getLast? hlast)
    congr 1
    funext window
    simp only [Option.map_some, Option.any_some, decide_eq_decide]
    omega

theorem settle (h : k.Remembers heard) (window : Option Nat) {now : Nat}
    (past : ∀ entry ∈ heard, entry.1 ≤ now) :
    (k.settle window now).Remembers (if heard.stale window now then [] else heard) := by
  rw [settle_eq, h.isOverdue_eq window past]
  split
  · exact idle
  · exact h

/-- **A refresh is one more entry of the history.** -/
theorem refresh (h : k.Remembers heard) (window : Option Nat) (c : Refresh)
    (past : ∀ entry ∈ heard ++ Heard.ofEvents c.now c.events, entry.1 ≤ c.now) :
    (k.refresh window c.now c.events).1.Remembers (heard.after window c) := by
  rw [refresh_keypad]
  exact (h.applyAll c.now c.events).settle window past

/-- **The keypad remembers what was heard since keys last expired**, if time does not run
backwards. -/
theorem refreshAll (window : Option Nat) (calls : List Refresh)
    (ordered : calls.Pairwise fun earlier later => earlier.now ≤ later.now) :
    (Keypad.idle.refreshAll window calls).Remembers (Heard.sinceExpiry window calls) := by
  induction calls using List.reverseRecOn with
  | nil => exact idle
  | append_singleton calls c ih =>
    -- the latest refresh comes last, and what was heard before is not ahead of it
    obtain ⟨earlier, -, -⟩ := List.pairwise_append.mp ordered
    rw [Heard.sinceExpiry_append, refreshAll_append]
    exact (ih earlier).refresh window c (Heard.le_of_ordered ordered)

end Remembers

/-- **The keys are a function of the history.** Refresh an idle keypad any number of times in order
of time, with whatever window and whatever events, and consider the last of these refreshes.

A key is down after it exactly if the last event for it since keys last expired is a press. Keys
expire in it, once its own events are applied, exactly if there is a window and the last event that
was heard since the last expiry is a whole window old. Events for keys that do not exist count for
nothing. So, with a window, a key can be down only if the last event at all for an existing key is
less than the window old.

The refresh answers that some event of its own flipped its key, or that it found a key down and
expired it; when it denies that, the keys are as they were. -/
theorem keys_follow_history (window : Option Nat) (calls : List Refresh) (c : Refresh)
    (ordered : (calls ++ [c]).Pairwise fun earlier later => earlier.now ≤ later.now) :
    let before := idle.refreshAll window calls
    let after := before.refresh window c.now c.events
    let heard := Heard.sinceExpiry window calls
    let all := heard ++ Heard.ofEvents c.now c.events
    (∀ key, after.1.isDown key = true
        ↔ Heard.pressed (Heard.sinceExpiry window (calls ++ [c])) key = true)
      ∧ after.1 = (if Heard.stale window c.now all then idle else before.applyAll c.now c.events)
      ∧ before.refresh window c.now (c.events.filter KeyEvent.inRange) = after
      ∧ (∀ w key, window = some w → after.1.isDown key = true →
          ∃ last, (Heard.inAll (calls ++ [c])).getLast? = some last ∧ c.now < last.1 + w)
      ∧ (after.2 = true
        ↔ (∃ es e es', c.events = es ++ e :: es' ∧ e.inRange = true
            ∧ Heard.pressed (heard ++ Heard.ofEvents c.now es) e.key ≠ e.isPress)
          ∨ Heard.stale window c.now all = true ∧ ∃ key, Heard.pressed all key = true)
      ∧ (after.2 = false → after.1.keys = before.keys) := by
  intro before after heard all
  obtain ⟨earlier, -, -⟩ := List.pairwise_append.mp ordered
  have remembers : before.Remembers heard := .refreshAll window calls earlier
  have applied : (before.applyAll c.now c.events).Remembers all := remembers.applyAll _ _
  have remembers' : after.1.Remembers (Heard.sinceExpiry window (calls ++ [c])) := by
    have := Remembers.refreshAll window (calls ++ [c]) ordered
    rwa [refreshAll_append] at this
  -- whether keys expire is decided when the events of this refresh have been applied, and so by a
  -- history that has them at its end
  have overdue : (before.applyAll c.now c.events).isOverdue window c.now
      = Heard.stale window c.now all := applied.isOverdue_eq window (Heard.le_of_ordered ordered)
  refine ⟨fun key => by rw [remembers'.down], ?_, before.refresh_filter window c.now c.events, ?_,
    ?_, refresh_unchanged⟩
  · show (before.refresh window c.now c.events).1 = _
    rw [refresh_keypad, settle_eq, overdue]
  · rintro w key rfl down
    rw [remembers'.down] at down
    exact Heard.recent_of_pressed down
  · show (before.refresh window c.now c.events).2 = true ↔ _
    rw [refresh_changed, overdue, anyDown_iff]
    -- the first half asks of each event what the key was like just before it
    refine or_congr ?_ (and_congr_right fun _ => exists_congr fun key => by rw [applied.down])
    refine exists_congr fun es => exists_congr fun e => exists_congr fun es' =>
      and_congr_right fun _ => ?_
    rw [apply_changed, (remembers.applyAll c.now es).down, Bool.and_eq_true, bne_iff_ne]

/-- A key is pressed and not released, and what comes last is for no key that exists. -/
def lapsing : List Refresh :=
  [⟨0, [.press 3, .press 20]⟩, ⟨10, [.release 3, .press 5]⟩, ⟨59, [.press 16]⟩]

/-- Just before its time is up the key is down, and then it is not. -/
theorem keys_follow_history_lapsed :
    let before := idle.refreshAll (some 50) (lapsing.take 2)
    let kept := before.refresh (some 50) 59 [.press 16]
    let lapsed := kept.1.refresh (some 50) 60 [.press 200]
    (lapsing ++ [(⟨60, [.press 200]⟩ : Refresh)]).Pairwise
        (fun earlier later => earlier.now ≤ later.now)
      ∧ (kept.2 = false ∧ kept.1.keys = before.keys)
      ∧ (kept.1.isDown 5 = true
        ∧ ∃ last, (Heard.inAll lapsing).getLast? = some last ∧ 59 < last.1 + 50)
      ∧ (lapsed.2 = true ∧ lapsed.1 = idle) := by
  intro before kept lapsed
  have ordered : (lapsing ++ [(⟨60, [.press 200]⟩ : Refresh)]).Pairwise
      (fun earlier later => earlier.now ≤ later.now) := by decide
  have earlier : (lapsing.take 2 ++ [(⟨59, [.press 16]⟩ : Refresh)]).Pairwise
      (fun earlier later => earlier.now ≤ later.now) := by decide
  obtain ⟨-, -, -, recent, -, unchanged⟩ :=
    keys_follow_history (some 50) (lapsing.take 2) ⟨59, [.press 16]⟩ earlier
  obtain ⟨-, expires, -, -, answers, -⟩ :=
    keys_follow_history (some 50) lapsing ⟨60, [.press 200]⟩ ordered
  have silent : kept.2 = false := by decide
  have down : kept.1.isDown 5 = true := by decide
  exact ⟨ordered, ⟨silent, unchanged silent⟩, ⟨down, recent 50 5 rfl down⟩,
    answers.mpr (.inr ⟨by decide, 5, by decide⟩), expires.trans (if_pos (by decide))⟩

end Keypad

end Chip8
