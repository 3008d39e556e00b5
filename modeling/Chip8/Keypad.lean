import Chip8.Text.Hex

/-!
# The keypad

Sixteen keys, each up or down, and the time of the last event. A terminal says when a key goes
down but not when it comes up, so keys can be made to expire: when no event has come for a while,
all of them are released.

Times are in milliseconds from some fixed moment and need not grow: a time before the last event
counts as no time passed.
-/

set_option autoImplicit false

namespace Chip8

/-- A key going down or coming up. Only keys 0 to 15 exist. -/
inductive KeyEvent where
  | press (key : UInt8)
  | release (key : UInt8)
  deriving DecidableEq, Repr

namespace KeyEvent

def key : KeyEvent → UInt8
  | press k => k
  | release k => k

/-- Whether the key is down after the event. -/
def isPress : KeyEvent → Bool
  | press _ => true
  | release _ => false

/-- Whether the keypad has the key. -/
def inRange (e : KeyEvent) : Bool := e.key.toNat < 16

end KeyEvent

structure Keypad where
  keys : Vector Bool 16
  /-- when the last event for an existing key came, unless the keys have expired since -/
  lastEvent : Option Nat
  deriving DecidableEq

namespace Keypad

/-- All keys up, no event yet. -/
def idle : Keypad := ⟨Vector.replicate 16 false, none⟩

/-- Keys outside 0 to 15 are never down. -/
def isDown (k : Keypad) (key : UInt8) : Bool := (k.keys[key.toNat]?).getD false

/-- Applies an event that comes at `now`, and says whether a key changed. An event for a key that
does not exist is ignored. -/
def apply (k : Keypad) (e : KeyEvent) (now : Nat) : Keypad × Bool :=
  if h : e.key.toNat < 16 then
    (⟨k.keys.set e.key.toNat e.isPress, some now⟩, k.keys[e.key.toNat] != e.isPress)
  else
    (k, false)

/-- The keys that are down, in order. -/
def down (k : Keypad) : List (Fin 16) := (List.finRange 16).filter fun key => k.keys.get key

/-- The lowest key that is down. -/
def firstDown (k : Keypad) : Option (Fin 16) := (List.finRange 16).find? fun key => k.keys.get key

/-- Whether some key is down. -/
def anyDown (k : Keypad) : Bool := k.keys.any id

/-- Releases every key, and says whether one was down. -/
def clear (k : Keypad) : Keypad × Bool :=
  (⟨Vector.replicate 16 false, k.lastEvent⟩, k.anyDown)

/-- Releases every key if the last event is `window` or longer ago, and says whether that released
one. An expiry also forgets the event, so nothing expires again before the next one. -/
def expire (k : Keypad) (window now : Nat) : Keypad × Bool :=
  match k.lastEvent with
  | none => (k, false)
  | some since =>
    if window ≤ now - since then (⟨Vector.replicate 16 false, none⟩, k.anyDown)
    else (k, false)

/-- One line for each key: `0: up` or `A: DOWN`. -/
def rows (keys : Vector Bool 16) : List String :=
  (List.finRange 16).map fun key =>
    Hex.upper 1 key.val ++ ": " ++ if keys.get key then "DOWN" else "up"

end Keypad

end Chip8
