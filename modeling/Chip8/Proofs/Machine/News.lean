import Chip8.Proofs.Machine.Faults

/-!
# Word of a change

Whoever shows a machine shows a snapshot of it, and looks again when an update says so. Updates are
dropped when the channel is full, and one may be a long time coming, since an activity changes the
machine in one action and tells of it in a later one.

`Snapshot.Current` is what is left of "up to date" then: the snapshot shows the machine as it is, or
an update waits to be read, or an activity has not told yet. Every action of an activity keeps it
(`Forthright`), and so does every action of a call, which has announcements of its own to make.
Dropping an update does no harm, for a channel drops only what comes on top of an update that waits.
-/

set_option autoImplicit false

namespace Chip8

/-! ## What a snapshot shows -/

namespace Snapshot

/-- A snapshot shows a state, if not its timers and which registers were just written. -/
structure Shows (v : Snapshot) (s : State) : Prop where
  pc : v.pc = s.pc
  index : v.index = s.index
  registers : v.registers = s.registers.values
  stack : v.stack = s.stack.slots
  depth : v.depth = s.stack.depth
  memory : v.memory = s.memory
  frame : v.frame = s.frame
  keys : v.keys = s.keypad.keys
  opcode : v.opcode = s.opcode
  last : v.last = s.last

instance (v : Snapshot) (s : State) : Decidable (v.Shows s) :=
  decidable_of_iff
    (v.pc = s.pc ∧ v.index = s.index ∧ v.registers = s.registers.values ∧ v.stack = s.stack.slots
      ∧ v.depth = s.stack.depth ∧ v.memory = s.memory ∧ v.frame = s.frame
      ∧ v.keys = s.keypad.keys ∧ v.opcode = s.opcode ∧ v.last = s.last)
    ⟨fun ⟨pc, index, registers, stack, depth, memory, frame, keys, opcode, last⟩ =>
        ⟨pc, index, registers, stack, depth, memory, frame, keys, opcode, last⟩,
      fun h => ⟨h.pc, h.index, h.registers, h.stack, h.depth, h.memory, h.frame, h.keys, h.opcode,
        h.last⟩⟩

namespace Shows

variable {v : Snapshot} {s : State}

/-- Taking a snapshot changes nothing that it shows. -/
theorem of_view (s : State) : s.view.Shows s.seen :=
  ⟨rfl, rfl, rfl, rfl, rfl, rfl, rfl, rfl, rfl, rfl⟩

theorem tickTimers (h : v.Shows s) : v.Shows s.tickTimers :=
  ⟨h.pc, h.index, h.registers, h.stack, h.depth, h.memory, h.frame, h.keys, h.opcode, h.last⟩

theorem withKeypad (h : v.Shows s) {k : Keypad} (same : k.keys = s.keypad.keys) :
    v.Shows { s with keypad := k } :=
  ⟨h.pc, h.index, h.registers, h.stack, h.depth, h.memory, h.frame, h.keys.trans same.symm,
    h.opcode, h.last⟩

end Shows

end Snapshot

namespace Keypad

/-! A refresh that reports no change may still move `lastEvent`, so the keypad is not what it was:
only its keys are. -/

theorem apply_unchanged {k : Keypad} {e : KeyEvent} {now : Nat} (h : (k.apply e now).2 = false) :
    (k.apply e now).1.keys = k.keys := by
  unfold apply at h ⊢
  split at h
  · next inRange =>
    have same : k.keys[e.key.toNat] = e.isPress := by simpa using h
    rw [dif_pos inRange, ← same]
    exact Vector.set_getElem_self inRange
  · next outside => rw [dif_neg outside]

theorem keys_of_not_anyDown {k : Keypad} (h : k.anyDown = false) :
    k.keys = Vector.replicate 16 false := by
  ext i hi
  have up : ∀ i (hi : i < 16), k.keys[i] = false := by
    simpa [anyDown, Vector.any_eq_false] using h
  rw [up i hi, Vector.getElem_replicate]

theorem expire_unchanged {k : Keypad} {window now : Nat} (h : (k.expire window now).2 = false) :
    (k.expire window now).1.keys = k.keys := by
  unfold expire at h ⊢
  split
  · rfl
  · next since hsince =>
    rw [hsince] at h
    split
    · next late =>
      dsimp only at h
      rw [if_pos late] at h
      exact (keys_of_not_anyDown h).symm
    · rfl

theorem refresh_unchanged {window : Option Nat} {now : Nat} {events : List KeyEvent} {k : Keypad}
    (h : (k.refresh window now events).2 = false) :
    (k.refresh window now events).1.keys = k.keys := by
  -- the flag only ever goes up, so it was down all the way
  have applied : ∀ (es : List KeyEvent) (k : Keypad) (c : Bool) (end_ : Keypad × Bool),
      es.foldl (fun x e => ((x.1.apply e now).1, x.2 || (x.1.apply e now).2)) (k, c) = end_ →
      end_.2 = false → c = false ∧ end_.1.keys = k.keys := by
    intro es
    induction es with
    | nil => rintro k c _ rfl h; exact ⟨h, rfl⟩
    | cons e es ih =>
      intro k c end_ hend h
      obtain ⟨flag, keys⟩ := ih _ _ end_ hend h
      obtain ⟨hc, he⟩ := Bool.or_eq_false_iff.mp flag
      exact ⟨hc, keys.trans (apply_unchanged he)⟩
  unfold refresh at h ⊢
  cases window with
  | none => exact (applied events k false _ rfl h).2
  | some window =>
    obtain ⟨hevents, hexpire⟩ := Bool.or_eq_false_iff.mp h
    exact (expire_unchanged hexpire).trans (applied events k false _ rfl hevents).2

end Keypad

/-! ## Who is told -/

namespace Frontend

/-- Somebody reads the channel, and it can hold an update. -/
def Listening (f : Frontend) : Prop :=
  ∃ c, f.channel = some c ∧ c.connected = true ∧ 0 < c.capacity

variable {f f' : Frontend}

/-- **An update that is sent leaves one to be read**, if not itself. -/
theorem Listening.send (h : f.Listening) (u : Update) :
    (f.send u).Listening ∧ (f.send u).waiting ≠ [] := by
  obtain ⟨c, hc, connected, room⟩ := h
  simp only [Frontend.send, hc, Listening, waiting, Option.some.injEq, exists_eq_left',
    Channel.connected_offer, Channel.capacity_offer, Channel.waiting_offer, connected, Bool.true_and]
  cases hfull : c.full with
  | false => exact ⟨⟨trivial, room⟩, by simp⟩
  | true =>
    have held : c.capacity ≤ c.waiting.length := by simpa [Channel.full, connected] using hfull
    exact ⟨⟨trivial, room⟩, List.ne_nil_of_length_pos (Nat.lt_of_lt_of_le room held)⟩

theorem Listening.receive (h : f.Listening) {u : Update} (hr : f.receive = some (u, f')) :
    f'.Listening := by
  obtain ⟨c, hc, connected, room⟩ := h
  unfold Frontend.receive at hr
  rw [hc] at hr
  dsimp only at hr
  split at hr
  · cases hr
  · cases hr
    exact ⟨_, rfl, connected, room⟩

end Frontend

/-! ## Who tells -/

theorem Update.ofStep_ok_ne_nil (done : Executed) : ofStep (.ok done) ≠ [] :=
  List.append_ne_nil_of_right_ne_nil _ (List.cons_ne_nil _ _)

namespace Activities

/-- An activity has changed the state and not sent all that it has to say about that. -/
def Telling (a : Activities) : Prop := a.pending ≠ [] ∨ a.keys = .sending

theorem not_telling_of_allFinished {a : Activities} (h : a.allFinished = true) : ¬ a.Telling := by
  unfold allFinished at h
  split at h
  · next hcpu _ hkeys =>
    rintro (told | told)
    · rw [pending, hcpu] at told; exact told rfl
    · rw [hkeys] at told; cases told
  · cases h

end Activities

namespace Progress

/-- A call is about to tell of what its instruction did, or to fail. -/
def Announces (call : Progress) : Prop := call.pending ≠ [] ∨ call.carries.isSome = true

theorem announces_of_outcome (before : List Update) (outcome : Except StackFault Executed) :
    (sending (before ++ Update.ofStep outcome) (outcome.map fun _ => ())).Announces := by
  cases outcome with
  | ok done => exact .inl (List.append_ne_nil_of_right_ne_nil _ (Update.ofStep_ok_ne_nil done))
  | error fault => exact .inr rfl

/-- Most calls have nothing to announce. -/
theorem not_announces {call : Progress} (hpending : call.pending = [])
    (hcarries : call.carries = none) : ¬ call.Announces := by
  rintro (told | told)
  · exact told hpending
  · rw [hcarries] at told; cases told

end Progress

namespace Machine

/-- Word of a change is on its way. -/
def News (m : Machine) : Prop :=
  m.frontend.waiting ≠ [] ∨ ∃ a, m.activities = some a ∧ a.Telling

end Machine

/-- A snapshot shows the machine as it is, or word is on its way that it does not. -/
def Snapshot.Current (v : Snapshot) (m : Machine) : Prop := v.Shows m.state ∨ m.News

namespace Machine

variable {m m' : Machine} {a b : Activities}

/-- An action that lets no snapshot go stale in silence. -/
structure Forthright (m m' : Machine) : Prop where
  listening : m'.frontend.Listening
  current : ∀ v : Snapshot, v.Current m → v.Current m'

namespace Forthright

theorem refl (hl : m.frontend.Listening) : Forthright m m := ⟨hl, fun _ h => h⟩

/-- Who moves from one phase to another and sends nothing must not have had anything to tell, and
change nothing that is shown. -/
theorem of_phase (hl : m.frontend.Listening) (ha : m.activities = some a)
    (hb : m'.activities = some b) (hfrontend : m'.frontend = m.frontend)
    (hshows : ∀ v : Snapshot, v.Shows m.state → v.Shows m'.state)
    (htelling : a.Telling → b.Telling) : Forthright m m' := by
  refine ⟨hfrontend ▸ hl, fun v h => ?_⟩
  rcases h with shows | waiting | ⟨a', ha', telling⟩
  · exact .inl (hshows v shows)
  · exact .inr (.inl (hfrontend ▸ waiting))
  · rw [ha] at ha'
    cases ha'
    exact .inr (.inr ⟨b, hb, htelling telling⟩)

/-- Who is about to tell may have changed anything. -/
theorem of_telling (hl : m'.frontend.Listening) (hb : m'.activities = some b) (h : b.Telling) :
    Forthright m m' :=
  ⟨hl, fun _ _ => .inr (.inr ⟨b, hb, h⟩)⟩

/-- Who has just told need not say more. -/
theorem of_notify (hl : m.frontend.Listening) (u : Update)
    (hfrontend : m'.frontend = (m.notify u).frontend) : Forthright m m' := by
  rw [notify_frontend] at hfrontend
  obtain ⟨listening, waiting⟩ := hl.send u
  rw [← hfrontend] at listening waiting
  exact ⟨listening, fun _ _ => .inr (.inl waiting)⟩

end Forthright

/-! ## Actions of the activities -/

/-- The cpu had nothing to send, and what the keys activity has to say is still to be said. -/
theorem telling_of_cpu (hpending : a.pending = []) (hkeys : b.keys = a.keys) (h : a.Telling) :
    b.Telling :=
  .inr (hkeys.trans (h.resolve_left (· hpending)))

/-- The keys activity had nothing to send, and what the cpu has to say is still to be said. -/
theorem telling_of_keys (hkeys : a.keys ≠ .sending) (hcpu : b.cpu = a.cpu) (h : a.Telling) :
    b.Telling := by
  refine .inl ?_
  have pending := h.resolve_right hkeys
  rw [Activities.pending] at pending ⊢
  rwa [hcpu]

theorem actCpu_forthright (random : UInt8) (ha : m.activities = some a)
    (hl : m.frontend.Listening) : Forthright m (m.actCpu random a) := by
  unfold actCpu
  split
  · next hcpu =>
    have pending : a.pending = [] := by rw [Activities.pending, hcpu]
    split <;> exact .of_phase hl ha rfl rfl (fun _ => id) (telling_of_cpu pending rfl)
  · -- whatever the instruction came to, there is an update to send
    dsimp only
    split
    · next done hok =>
      refine .of_telling hl rfl (.inl ?_)
      show Update.ofStep (m.execute random).2 ≠ []
      rw [hok]
      exact Update.ofStep_ok_ne_nil done
    · exact .of_telling hl rfl (.inl (List.cons_ne_nil _ _))
  · exact .of_notify hl _ rfl
  · next hcpu =>
    have pending : a.pending = [] := by rw [Activities.pending, hcpu]
    exact .of_phase hl ha rfl rfl (fun _ => id) (telling_of_cpu pending rfl)
  · next fault hcpu =>
    have pending : a.pending = [] := by rw [Activities.pending, hcpu]
    exact .of_phase hl ha rfl rfl (fun _ => id) (telling_of_cpu pending rfl)
  · exact .refl hl

theorem actTimers_forthright (ha : m.activities = some a) (hl : m.frontend.Listening) :
    Forthright m (m.actTimers a) := by
  unfold actTimers
  split
  · split <;> exact .of_phase hl ha rfl rfl (fun _ => id) id
  · exact .of_phase hl ha rfl rfl (fun _ => Snapshot.Shows.tickTimers) id
  · exact .refl hl

theorem actKeys_forthright (now : Nat) (ha : m.activities = some a)
    (hl : m.frontend.Listening) : Forthright m (m.actKeys now a) := by
  unfold actKeys
  split
  · next hkeys =>
    have silent : a.keys ≠ .sending := by rw [hkeys]; exact nofun
    split <;> exact .of_phase hl ha rfl rfl (fun _ => id) (telling_of_keys silent rfl)
  · next hkeys =>
    have silent : a.keys ≠ .sending := by rw [hkeys]; exact nofun
    exact .of_phase hl ha rfl rfl (fun _ => id) (telling_of_keys silent rfl)
  · next events hkeys =>
    have silent : a.keys ≠ .sending := by rw [hkeys]; exact nofun
    cases hchanged : (m.refreshKeys now events).2 with
    | true => exact .of_telling hl rfl (.inr (by simp [hchanged]))
    | false =>
      have shows (v : Snapshot) (h : v.Shows m.state) :
          v.Shows (m.refreshKeys now events).1.state :=
        h.withKeypad (Keypad.refresh_unchanged hchanged)
      exact .of_phase hl ha rfl rfl shows (telling_of_keys silent rfl)
  · exact .of_notify hl .keys rfl
  · exact .refl hl

theorem act_forthright (now : Nat) (random : UInt8) (actor : Actor)
    (hl : m.frontend.Listening) : Forthright m (m.act now random actor) := by
  cases ha : m.activities with
  | none =>
    simp only [act, ha]
    exact .refl hl
  | some a =>
    simp only [act, ha]
    cases actor with
    | cpu => exact actCpu_forthright random ha hl
    | timers => exact actTimers_forthright ha hl
    | keys => exact actKeys_forthright now ha hl

/-! ## Actions of calls -/

/-- Beginning and ending runs changes nothing shown. An activity that still has something to tell is
waited for. -/
theorem Course.forthright {p q : Progress} (hc : Course m p m' q)
    (hspawn : p = .spawning → m.activities = none) (hl : m.frontend.Listening) :
    Forthright m m' := by
  -- without an activity that has anything to tell, there is no need to keep any
  have untold {m' : Machine} (hstate : m'.state = m.state) (hfrontend : m'.frontend = m.frontend)
      (silent : ∀ a, m.activities = some a → ¬ a.Telling) : Forthright m m' := by
    refine ⟨hfrontend ▸ hl, fun v h => ?_⟩
    rcases h with shows | waiting | ⟨a, ha, telling⟩
    · exact .inl (hstate ▸ shows)
    · exact .inr (.inl (hfrontend ▸ waiting))
    · exact absurd telling (silent a ha)
  cases hc with
  | begins | finds | revives | idles | loses | waits | rests => exact .refl hl
  | @halts again a ha =>
    have halted : (m.log [.stopping]).raiseHalt.activities = some { a with halt := true } := by
      simp only [raiseHalt, log, ha, Option.map_some]
    exact .of_phase hl ha halted rfl (fun _ => id) id
  | reaps ha hdone | collects ha hdone =>
    refine untold rfl rfl fun a' ha' => ?_
    rw [ha] at ha'
    cases ha'
    exact Activities.not_telling_of_allFinished hdone
  | spawns =>
    refine untold rfl rfl fun a ha => ?_
    rw [hspawn rfl] at ha
    cases ha

/-- **No call lets a snapshot go stale in silence**: word is on its way, or the call is about to
send it, or it fails. -/
theorem advance_current (now : Nat) (random : UInt8) {call : Progress}
    (hl : m.frontend.Listening) (hspawn : call = .spawning → m.activities = none) :
    (m.advance now random call).1.frontend.Listening
      ∧ ∀ v : Snapshot, call.Announces ∨ v.Current m →
          (m.advance now random call).2.Announces
            ∨ v.Current (m.advance now random call).1 := by
  cases call with
  | step =>
    exact ⟨hl, fun v h => .inr (h.resolve_left (Progress.not_announces rfl rfl))⟩
  | stepHolding events => exact ⟨hl, fun v _ => .inl (Progress.announces_of_outcome _ _)⟩
  | sending pending result =>
    cases pending with
    | nil =>
      refine ⟨hl, fun v h => h.imp_left fun announces => .inr ?_⟩
      have fails := announces.resolve_left (· rfl)
      cases result <;> exact fails
    | cons u rest =>
      have told := hl.send u
      rw [← notify_frontend] at told
      exact ⟨told.1, fun v _ => .inr (.inr (.inl told.2))⟩
  | run | halting | joining | spawning =>
    have forthright := (m.advance_course now random rfl).forthright hspawn hl
    refine ⟨forthright.listening, fun v h => .inr (forthright.current v ?_)⟩
    exact h.resolve_left (Progress.not_announces rfl rfl)
  | returned => exact ⟨hl, fun v h => h⟩

end Machine

end Chip8
