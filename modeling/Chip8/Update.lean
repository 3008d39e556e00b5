import Chip8.Text.Quoted

/-!
# Updates

The machine tells the outside world that something worth showing happened by sending updates to
its frontend. A frontend with a channel queues them, up to the channel's capacity: what does not
fit is dropped rather than waited for, since an update is only a hint to look again. A frontend
without a channel listens to nothing. Either way the machine is not held up. That a channel never
holds more than its capacity is part of what a channel is.
-/

set_option autoImplicit false

namespace Chip8

/-- What changed. -/
inductive Update where
  /-- the frame buffer -/
  | display
  /-- an instruction was executed, so registers or other state moved on -/
  | registers
  /-- the keypad -/
  | keys
  /-- the run stopped on a fault, given in words -/
  | fault (message : String)
  deriving DecidableEq, Repr

namespace Update

/-- The update's name in log lines. -/
def name : Update → String
  | display => "Display"
  | registers => "Registers"
  | keys => "Keys"
  | fault message => s!"Fault({Quoted.string message})"

end Update

/-- A bounded queue of updates. -/
structure Channel where
  capacity : Nat
  /-- oldest first -/
  waiting : List Update
  /-- someone may still read it -/
  connected : Bool
  length_le : waiting.length ≤ capacity
  deriving DecidableEq

namespace Channel

def ofCapacity (capacity : Nat) : Channel where
  capacity := capacity
  waiting := []
  connected := true
  length_le := Nat.zero_le _

/-- There is a reader, and no room. -/
def full (c : Channel) : Bool := c.connected && decide (c.capacity ≤ c.waiting.length)

/-- Whoever reads a channel that is not full leaves room in it. -/
theorem room {c : Channel} (accepts : (c.connected && !c.full) = true) :
    c.waiting.length < c.capacity := by
  obtain ⟨connected, unfull⟩ := Bool.and_eq_true_iff.mp accepts
  simpa [full, connected] using unfull

/-- Queues an update if there is a reader and room for it. -/
def offer (c : Channel) (u : Update) : Channel :=
  if accepts : c.connected && !c.full then
    { c with
      waiting := c.waiting ++ [u]
      length_le := by rw [List.length_append]; exact room accepts }
  else c

@[simp] theorem capacity_offer (c : Channel) (u : Update) :
    (c.offer u).capacity = c.capacity := by
  unfold offer
  split <;> rfl

@[simp] theorem connected_offer (c : Channel) (u : Update) :
    (c.offer u).connected = c.connected := by
  unfold offer
  split <;> rfl

theorem waiting_offer (c : Channel) (u : Update) :
    (c.offer u).waiting
      = if c.connected && !c.full then c.waiting ++ [u] else c.waiting := by
  unfold offer
  split <;> rfl

theorem length_le_of_cons {c : Channel} {u : Update} {rest : List Update}
    (h : c.waiting = u :: rest) : rest.length ≤ c.capacity := by
  have held := c.length_le
  rw [h] at held
  exact Nat.le_of_succ_le held

def emptied (c : Channel) : Channel := { c with waiting := [], length_le := Nat.zero_le _ }

end Channel

/-- How many updates of each kind were sent to a frontend, and the fault last sent. -/
structure Tally where
  display : Nat := 0
  registers : Nat := 0
  keys : Nat := 0
  fault : Option String := none
  deriving DecidableEq

namespace Tally

def add (t : Tally) : Update → Tally
  | .display => { t with display := t.display + 1 }
  | .registers => { t with registers := t.registers + 1 }
  | .keys => { t with keys := t.keys + 1 }
  | .fault message => { t with fault := some message }

end Tally

/-- Where a machine sends its updates. -/
structure Frontend where
  /-- `none` for a frontend that does not listen -/
  channel : Option Channel
  /-- what a listening frontend was sent, delivered or not -/
  tally : Tally
  deriving DecidableEq

namespace Frontend

/-- A frontend that does not listen. -/
def silent : Frontend := ⟨none, {}⟩

def ofCapacity (capacity : Nat) : Frontend := ⟨some (Channel.ofCapacity capacity), {}⟩

/-- Whether an update sent now would find the channel full. -/
def drops (f : Frontend) : Bool :=
  match f.channel with
  | none => false
  | some channel => channel.full

def send (f : Frontend) (u : Update) : Frontend :=
  match f.channel with
  | none => f
  | some channel => ⟨some (channel.offer u), f.tally.add u⟩

/-- The updates that wait to be read, oldest first. -/
def waiting (f : Frontend) : List Update :=
  match f.channel with
  | none => []
  | some channel => channel.waiting

/-- Takes the oldest waiting update. -/
def receive (f : Frontend) : Option (Update × Frontend) :=
  match f.channel with
  | none => none
  | some channel =>
    match oldest : channel.waiting with
    | [] => none
    | u :: rest =>
      let left := { channel with waiting := rest, length_le := Channel.length_le_of_cons oldest }
      some (u, { f with channel := some left })

/-- The frontend once everything waiting was read. -/
def drained (f : Frontend) : Frontend :=
  { f with channel := f.channel.map Channel.emptied }

/-- The frontend once its reader is gone. -/
def disconnected (f : Frontend) : Frontend :=
  { f with channel := f.channel.map fun c => { c.emptied with connected := false } }

end Frontend

end Chip8
