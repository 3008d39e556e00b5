import Chip8.Proofs.Machine.News
import Chip8.Proofs.Session.Run

/-!
# No redraw gets lost

The loop renders once and then polls, and it polls again and again without rendering unless an
update was read in between. So a change that no update tells of would stay unseen: this file says
that there is none. Whenever the loop polls, what it rendered last shows the machine as it is, or
an update waits to be read, or an activity has yet to send one (`no_redraw_lost`).

A channel that is full drops updates, and it may have room for a single one. The loop may be driven
by any input, to a screen that fails at any render, and the machine may be running when it begins.

To take a snapshot and to render it count as one action here. Nothing is lost by that
(`activity_render`): rendering reads only the snapshot.
-/

set_option autoImplicit false

namespace Chip8

namespace Session

/-- What becomes of a session when a poll uses up or replaces an entry of its input. -/
structure Kept (s s' : Session) : Prop where
  point : s'.point = s.point
  dirty : s'.dirty = s.dirty
  screen : s'.screen = s.screen

theorem Kept.take (s : Session) : s.Kept s.take := by
  unfold Session.take
  split <;> exact ⟨rfl, rfl, rfl⟩

theorem Kept.replaceNext (s : Session) (p : Poll) : s.Kept (s.replaceNext p) := by
  unfold Session.replaceNext
  split <;> exact ⟨rfl, rfl, rfl⟩

end Session

namespace Point

instance (p : Point) : Decidable (p = .polling) :=
  match p with
  | .polling => .isTrue rfl
  | .receiving _ | .checking _ | .rendering | .reporting _ | .calling .. | .ended _ =>
    .isFalse nofun

/-- The loop renders or ends before it polls again, or a call of its own has yet to announce what it
did. -/
def Heeds : Point → Prop
  | .receiving fault | .checking fault => fault.isSome = true
  | .rendering | .reporting _ | .ended _ => True
  | .polling => False
  | .calling call _ => call.Announces

end Point

namespace World

/-! ## A render takes its snapshot first -/

/-- What is left to do of a render once the snapshot was taken. -/
def present (view : Snapshot) (next : Point) (w : World) : World :=
  let (screen, result) := w.session.screen.render view
  let session := { w.session with screen := screen }
  match result with
  | .ok () => ⟨w.machine, { session with point := next, dirty := false }⟩
  | .error e => ⟨w.machine, session.finish (.error e)⟩

/-- An activity that acts between a snapshot and its rendering might as well act afterwards. -/
theorem activity_render (w : World) (next : Point) (now : Nat) (random : UInt8) (actor : Actor) :
    let taken : World := ⟨w.machine.snapshot.2, w.session⟩
    (taken.act now random (.activity actor)).present w.machine.snapshot.1 next
      = (w.render next).act now random (.activity actor) := by
  intro taken
  unfold present World.render
  dsimp only [act]
  split
  · next shown => rw [shown]
  · next e broken => rw [broken]

/-! ## What the loop sees to -/

/-- What a loop sees to whose machine somebody listens to. Of the clauses, `shown` is what matters:
unless a render is due anyway, the last one is current or something makes the loop look again. -/
structure Attentive (w : World) : Prop where
  listening : w.machine.frontend.Listening
  clean : w.session.point = .polling → w.session.dirty = false
  spawning : ∀ purpose, w.session.point = .calling .spawning purpose →
    w.machine.activities = none
  shown : w.session.dirty = false → ∃ v rest, w.session.screen.shown = v :: rest
    ∧ (w.session.point.Heeds ∨ v.snapshot.Current w.machine)

namespace Attentive

variable {w : World}

/-- Where the loop polls, the last render is current. -/
theorem current (h : Attentive w) (hp : w.session.point = .polling) :
    ∃ v rest, w.session.screen.shown = v :: rest ∧ v.snapshot.Current w.machine := by
  obtain ⟨v, rest, hv, heeds | current⟩ := h.shown (h.clean hp)
  · rw [hp] at heeds
    cases heeds
  · exact ⟨v, rest, hv, current⟩

/-- The loop goes on to where it heeds a change anyway, if there was one. -/
theorem heed (h : Attentive w) {frontend : Frontend} (listening : frontend.Listening) {p : Point}
    (heeds : p.Heeds) :
    Attentive ⟨{ w.machine with frontend := frontend }, { w.session with point := p }⟩ := by
  refine ⟨listening, fun hp => ?_, fun purpose hp => ?_, fun hd => ?_⟩
  · dsimp only at hp
    subst hp
    cases heeds
  · dsimp only at hp
    subst hp
    exact absurd heeds (Progress.not_announces rfl rfl)
  · obtain ⟨v, rest, hv, -⟩ := h.shown hd
    exact ⟨v, rest, hv, .inl heeds⟩

/-- The loop goes on from a poll, having done no more than to queue a key event and to scroll. -/
theorem goOn (h : Attentive w) (hp : w.session.point = .polling) {s : Session}
    {queue : List KeyEvent} {journal : Journal}
    (hshown : s.screen.shown = w.session.screen.shown)
    (hclean : s.point = .polling → s.dirty = false)
    (hspawning : ∀ purpose, s.point ≠ .calling .spawning purpose) :
    Attentive ⟨{ w.machine with queue := queue, journal := journal }, s⟩ := by
  obtain ⟨v, rest, hv, current⟩ := h.current hp
  refine ⟨h.listening, hclean, fun purpose hs => absurd hs (hspawning purpose), fun _ => ?_⟩
  exact ⟨v, rest, hshown.trans hv, .inr current⟩

/-- The loop stays where it polls. -/
theorem stay (h : Attentive w) (hp : w.session.point = .polling) {s : Session} {journal : Journal}
    (kept : w.session.Kept s) : Attentive ⟨{ w.machine with journal := journal }, s⟩ := by
  refine h.goOn hp (congrArg Screen.shown kept.screen) (fun _ => kept.dirty.trans (h.clean hp)) ?_
  intro purpose hs
  rw [kept.point, hp] at hs
  cases hs

theorem obey (h : Attentive w) (hp : w.session.point = .polling) (c : Command) :
    Attentive (w.obey c) := by
  cases c <;> exact h.goOn hp rfl nofun nofun

theorem poll (h : Attentive w) (hp : w.session.point = .polling) : Attentive w.poll := by
  have taken := Session.Kept.take w.session
  have goOn {journal : Journal} {s : Session} (hs : s.screen = w.session.take.screen)
      (hpoint : s.point = .receiving none ∨ ∃ result, s.point = .ended result) :
      Attentive ⟨{ w.machine with journal := journal }, s⟩ := by
    have leaves : s.point ≠ .polling ∧ ∀ purpose, s.point ≠ .calling .spawning purpose := by
      rcases hpoint with hpoint | ⟨result, hpoint⟩ <;> rw [hpoint] <;> exact ⟨nofun, nofun⟩
    refine h.goOn hp ?_ (fun hs => absurd hs leaves.1) leaves.2
    rw [hs, taken.screen]
  have turn {journal : Journal} :
      Attentive ⟨{ w.machine with journal := journal }, w.session.take.turn⟩ :=
    goOn rfl (.inl rfl)
  unfold World.poll
  dsimp only
  split
  · next c _ => exact (h.stay hp taken).obey (taken.point.trans hp) c
  · exact turn
  · exact turn
  · exact goOn rfl (.inr ⟨_, rfl⟩)
  · split
    · exact turn
    · exact h
  · split
    · exact turn
    · split
      · exact h.stay hp (.replaceNext w.session _)
      · exact h

/-- **A render brings the screen up to date**, and if it fails the session is over. -/
theorem render (h : Attentive w) {next : Point}
    (hspawning : ∀ purpose, next ≠ .calling .spawning purpose) : Attentive (w.render next) := by
  have current : w.machine.snapshot.1.Current w.machine.snapshot.2 :=
    .inl (Snapshot.Shows.of_view w.machine.state)
  unfold World.render
  dsimp only
  split
  · exact ⟨h.listening, fun _ => rfl, fun purpose hs => absurd hs (hspawning purpose),
      fun _ => ⟨_, _, rfl, .inr current⟩⟩
  · exact ⟨h.listening, nofun, nofun, fun _ => ⟨_, _, rfl, .inl trivial⟩⟩

theorem resume (h : Attentive w) {result : Except StackFault Unit} {purpose : Purpose}
    (hp : w.session.point = .calling (.returned result) purpose) :
    Attentive ⟨w.machine, World.resume w.session result purpose⟩ := by
  have shown := h.shown
  rw [hp] at shown
  have ends (r : Except Error Unit) : Attentive ⟨w.machine, w.session.finish r⟩ :=
    h.heed h.listening (p := .ended r) trivial
  cases result with
  | error fault => cases purpose <;> exact ends _
  | ok _ =>
    cases purpose with
    | command =>
      refine ⟨h.listening, nofun, nofun, fun hd => ?_⟩
      obtain ⟨v, rest, hv, now⟩ := shown hd
      exact ⟨v, rest, hv, .inr (now.resolve_left (Progress.not_announces rfl rfl))⟩
    | commandThenRender => exact ⟨h.listening, nofun, nofun, nofun⟩
    | quit | fault => exact ends _

theorem advance (h : Attentive w) (now : Nat) (random : UInt8) {call : Progress}
    {purpose : Purpose} (hp : w.session.point = .calling call purpose) :
    Attentive ⟨(w.machine.advance now random call).1,
      { w.session with point := .calling (w.machine.advance now random call).2 purpose }⟩ := by
  have shown := h.shown
  rw [hp] at shown
  have spawning : call = .spawning → w.machine.activities = none := by
    rintro rfl
    exact h.spawning purpose hp
  obtain ⟨listening, kept⟩ := Machine.advance_current now random h.listening spawning
  refine ⟨listening, nofun, fun purpose' hs => ?_, fun hd => ?_⟩
  · cases hcall : (w.machine.advance now random call).2 with
    | spawning => exact w.machine.advance_spawning now random hcall
    | _ =>
      dsimp only at hs
      rw [hcall] at hs
      cases hs
  · obtain ⟨v, rest, hv, before⟩ := shown hd
    exact ⟨v, rest, hv, kept v.snapshot before⟩

/-- **Whatever the loop does, it sees to that.** -/
theorem session (h : Attentive w) (now : Nat) (random : UInt8) :
    Attentive (w.actSession now random) := by
  unfold World.actSession
  split
  · next fault hp =>
    split
    · next told frontend hr =>
      exact h.heed (h.listening.receive hr) (p := .receiving (some told)) rfl
    · next u frontend _ hr =>
      -- whatever else the update says, it asks for a render
      refine ⟨h.listening.receive hr, ?_, ?_, nofun⟩ <;> rw [hp] <;> exact nofun
    · refine ⟨h.listening, nofun, nofun, fun hd => ?_⟩
      have shown := h.shown hd
      rw [hp] at shown
      exact shown
  · next fault hp =>
    have shown := h.shown
    rw [hp] at shown
    split
    · exact h.heed h.listening (p := .reporting fault) trivial
    · next hreport =>
      split
      · exact h.heed h.listening (p := .rendering) trivial
      · next clean =>
        refine ⟨h.listening, fun _ => Bool.eq_false_iff.mpr clean, nofun, fun hd => ?_⟩
        obtain ⟨v, rest, hv, now⟩ := shown hd
        refine ⟨v, rest, hv, .inr (now.resolve_left fun heeds => hreport ?_)⟩
        exact Bool.or_eq_true_iff.mpr (.inl heeds)
  · exact h.render nofun
  · exact h.render nofun
  · next hp => exact h.poll hp
  · next hp => exact h.resume hp
  · next hp => exact h.advance now random hp
  · exact h

theorem activity (h : Attentive w) (now : Nat) (random : UInt8) (actor : Actor) :
    Attentive { w with machine := w.machine.act now random actor } := by
  have forthright := Machine.act_forthright now random actor h.listening
  refine ⟨forthright.listening, h.clean, fun purpose hp => ?_, fun hd => ?_⟩
  · have idle := h.spawning purpose hp
    simp only [Machine.act, idle]
  · obtain ⟨v, rest, hv, before⟩ := h.shown hd
    exact ⟨v, rest, hv, before.imp_right (forthright.current v.snapshot)⟩

end Attentive

end World

namespace Watched

/-- **No redraw is lost.** Let a session drive a machine, with somebody listening on a channel that
can hold an update, and let session and activities act in any order. Whenever the loop polls, it has
rendered before; and if the snapshot it rendered last does not show the machine as it is, then an
update waits to be read, or an activity has changed the machine and is about to tell. -/
theorem no_redraw_lost {m : Machine} (listening : m.frontend.Listening) (input : List Poll)
    (afterInput : Poll) (screen : Screen) (turns : List World.Turn)
    (polling : ((start m input afterInput screen).run turns).world.session.point = .polling) :
    let w := ((start m input afterInput screen).run turns).world
    ∃ v rest, w.session.screen.shown = v :: rest
      ∧ (¬ v.snapshot.Shows w.machine.state →
          w.machine.frontend.waiting ≠ [] ∨ ∃ a, w.machine.activities = some a ∧ a.Telling) := by
  intro w
  have keeps (w : Watched) (t : World.Turn) (h : w.world.Attentive) :
      (w.act t).world.Attentive := by
    obtain ⟨now, random, who⟩ := t
    cases who with
    | session => exact h.session now random
    | activity actor => exact h.activity now random actor
  -- at first a render is due
  have begins : (start m input afterInput screen).world.Attentive :=
    ⟨listening, nofun, nofun, nofun⟩
  have attentive : w.Attentive :=
    run_induction (P := fun w => w.world.Attentive) keeps turns begins
  obtain ⟨v, rest, hv, current⟩ := attentive.current polling
  exact ⟨v, rest, hv, fun stale => current.resolve_left stale⟩

/-- A machine that counts, and whose frontend has room for one update. -/
def counting : Machine :=
  ((Machine.new {} (Frontend.ofCapacity 1) none).load ⟨[0x70, 0x01, 0x12, 0x00], none⟩).1

/-- Two instructions are executed while the loop polls, and the second update finds the channel
full. A render later the cpu executes a third one, and has not told yet. -/
def crowded : List World.Turn :=
  let order : List Participant :=
    List.replicate 10 .session ++ List.replicate 8 (.activity .cpu) ++ List.replicate 5 .session
      ++ List.replicate 2 (.activity .cpu)
  order.map fun who => ⟨0, 0, who⟩

theorem no_redraw_lost_crowded :
    let w := ((start counting [.command .run] .nothing {}).run crowded).world
    w.session.point = .polling
      ∧ (∃ v rest, w.session.screen.shown = v :: rest ∧ ¬ v.snapshot.Shows w.machine.state)
      ∧ w.machine.frontend.waiting = []
      ∧ ∃ a, w.machine.activities = some a ∧ a.Telling := by
  have facts :
      let w := ((start counting [.command .run] .nothing {}).run crowded).world
      w.session.point = .polling
        ∧ (∀ v ∈ w.session.screen.shown.head?, ¬ v.snapshot.Shows w.machine.state)
        ∧ w.machine.frontend.waiting = [] := by
    decide +kernel
  have listening : counting.frontend.Listening := ⟨_, rfl, rfl, by decide⟩
  have redraw := no_redraw_lost listening _ _ _ crowded facts.1
  -- from here on the world is not to be computed any more
  generalize ((start counting [.command .run] .nothing {}).run crowded).world = w at *
  obtain ⟨polling, stale, silent⟩ := facts
  obtain ⟨v, rest, hv, told⟩ := redraw
  have hstale : ¬ v.snapshot.Shows w.machine.state := stale v (by rw [hv]; rfl)
  exact ⟨polling, ⟨v, rest, hv, hstale⟩, silent, (told hstale).resolve_left (· silent)⟩

end Watched

end Chip8
