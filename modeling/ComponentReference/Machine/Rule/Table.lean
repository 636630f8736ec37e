import ComponentReference.Machine.Text.Octets
import Std.Data.HashMap

/-!
# Arrays of rules

An array gives values for keys.  Where a key stands follows from its text, and from which
keys have been looked for: keys are kept in slots, and one that is found comes to the front
of its slot.  So the order in which the keys are gone through is settled by the rules alone.
-/

namespace ComponentReference.Rule

/-- A key: a whole number has a place of its own as long as it has not been needed as text. -/
inductive Key where
  | whole (n : Int)
  | text (s : Octets)

/-- The text of a key. -/
def Key.shown : Key → Octets
  | whole n => Octets.ofInt n
  | text s => s

/-- An array with values of some type. -/
structure Table (α : Type) where
  /-- How many values there are if their keys are the numbers from one on, and nothing but
  this has been asked for. -/
  listed? : Option Nat := none
  values : Std.HashMap Octets α := {}
  /-- The slots of keys as text; there are none before text has been needed. -/
  byText : Array (List Octets) := #[]
  /-- The slots of whole numbers. -/
  byWhole : Array (List Int) := #[]

namespace Table

variable {α : Type}

/-- How many slots there are in the beginning. -/
def firstSlots : Nat := 64

/-- How many keys there are to a slot at most. -/
def mostPerSlot : Nat := 12

/-- How many values there are. -/
def size (t : Table α) : Nat :=
  t.values.size

/-- The number from which the slot of a text follows. -/
def scatter (s : Octets) : Nat :=
  (s.foldl (fun (h : UInt32) c => (h ^^^ c.toNat.toUInt32) * 16777619) 2166136261).toNat

/-- The slot of a text among so many. -/
def slotOf (slots : Nat) (s : Octets) : Nat :=
  scatter s % slots

/-- The slot of a whole number among so many. -/
def wholeSlotOf (slots : Nat) (n : Int) : Nat :=
  (n % (slots : Int)).toNat

/-- How many slots there are. -/
def slots (t : Table α) : Nat :=
  t.byWhole.size

/-- A key put in front of a slot. -/
def inFront {β : Type} [BEq β] (table : Array (List β)) (i : Nat) (key : β) : Array (List β) :=
  table.modify i fun keys => key :: keys.filter (· != key)

/-- The array that has slots. -/
def slotted (t : Table α) : Table α :=
  match t.listed? with
  | some n =>
    -- there are as many slots as hold them all, and the numbers are dealt out in turn
    let rec enough : (fuel : Nat) → Nat → Nat
      | 0, slots => slots
      | fuel + 1, slots => if slots * mostPerSlot < n then enough fuel (2 * slots) else slots
    let slots := enough n firstSlots
    let byWhole := (List.range n).foldl (fun table i =>
      table.modify ((i + 1) % slots) ((i + 1 : Int) :: ·)) (Array.replicate slots [])
    { t with listed? := none, byWhole }
  | none => if t.byWhole.isEmpty then { t with byWhole := Array.replicate firstSlots [] } else t

/-- The array whose keys all stand as text. -/
def textual (t : Table α) : Table α :=
  let t := t.slotted
  if t.byText.isEmpty then
    let byText := t.byWhole.foldl (fun table numbers =>
      numbers.foldl (fun table n =>
        let s := Octets.ofInt n
        table.modify (slotOf t.slots s) (s :: ·)) table) (Array.replicate t.slots [])
    { t with byText }
  else t

/-- The array with twice the slots, if there are too many keys for those that there are. -/
def widened (t : Table α) : Table α :=
  if t.slots * mostPerSlot < t.size then
    let slots := 2 * t.slots
    let split {β : Type} (slotOf : β → Nat) (table : Array (List β)) : Array (List β) :=
      (table.mapIdx fun i keys => keys.filter fun k => slotOf k == i) ++
        table.map fun keys => keys.filter fun k => table.size ≤ slotOf k
    { t with byText := split (slotOf slots) t.byText, byWhole := split (wholeSlotOf slots) t.byWhole }
  else t

/-- The value of a text; a text that is not there gets the value `new?`. -/
def findText (t : Table α) (s : Octets) (new? : Option α) : Option α × Table α :=
  let t := t.textual
  match t.values[s]?, new? with
  | some v, _ => (some v, { t with byText := inFront t.byText (slotOf t.slots s) s })
  | none, some v =>
    let t := { t with values := t.values.insert s v }.widened
    (some v, { t with byText := inFront t.byText (slotOf t.slots s) s })
  | none, none => (none, t)

/-- The value of a whole number; one that is not there gets the value `new?`. -/
def findWhole (t : Table α) (n : Int) (new? : Option α) : Option α × Table α :=
  let s := Octets.ofInt n
  if t.listed?.any fun last => 1 ≤ n ∧ n ≤ last then (t.values[s]?, t)
  else if t.listed?.isSome ∧ new?.isNone then (none, t)
  else
    let t := t.slotted
    let known : Bool := (t.byWhole.getD (wholeSlotOf t.slots n) []).contains n
    let (v?, t) : Option α × Table α :=
      if known then (t.values[s]?, t)
      else if !t.byText.isEmpty then t.findText s new?
      else match new? with
        | some v => (some v, { t with values := t.values.insert s v }.widened)
        | none => (none, t)
    match v? with
    | some v => (some v, { t with byWhole := inFront t.byWhole (wholeSlotOf t.slots n) n })
    | none => (none, t)

/-- The value of a key; a key that is not there gets the value `new?`. -/
def find (t : Table α) (key : Key) (new? : Option α) : Option α × Table α :=
  if t.size = 0 ∧ new?.isNone then (none, t)
  else
    match key with
    | .whole n => t.findWhole n new?
    | .text s => t.findText s new?

/-- Gives a key a value. -/
def put (t : Table α) (key : Key) (v : α) : Table α :=
  let t := (t.find key (some v)).2
  { t with values := t.values.insert key.shown v }

/-- The array without a key. -/
def erase (t : Table α) (key : Key) : Table α :=
  match t.find key none with
  | (none, t) => t
  | (some _, t) =>
    let t := t.slotted
    let s := key.shown
    let values := t.values.erase s
    if values.isEmpty then {}
    else
      { t with
        values
        byText := t.byText.map fun keys => keys.filter (· != s)
        byWhole := t.byWhole.map fun keys => keys.filter fun n => Octets.ofInt n != s }

/-- The keys, in their order. -/
def keys (t : Table α) : List Octets × Table α :=
  if t.size = 0 then ([], t)
  else
    let t := t.textual
    (t.byText.toList.flatten, t)

/-- The array of values whose keys are the numbers from one on. -/
def ofList (values : List α) : Table α :=
  { listed? := some values.length
    values := values.zipIdx.foldl (fun m (v, i) => m.insert (Octets.ofNat (i + 1)) v) {} }

end Table

end ComponentReference.Rule
