import ClusterMembership.Group
/-!
# The notice bus

Every receiver has a backlog of the notices published since it subscribed. A backlog holds as many as the bus's capacity;
beyond that the oldest are lost, and the receiver is told how many before it is given the oldest one kept. A notice that
nobody receives is not kept.
-/
namespace ClusterMembership

/-- What a receiver takes off its backlog. -/
inductive Received where
  | notice (n : Notice)
  /-- So many notices were lost. -/
  | lagged (count : Nat)
deriving DecidableEq

/-- The notices that a receiver has still to take. -/
structure Backlog where
  missed : Nat := 0
  queue : List Notice := []

namespace Backlog

/-- Puts a notice at the end, at the cost of the oldest one when the backlog is full. -/
def push (capacity : Nat) (b : Backlog) (n : Notice) : Backlog :=
  if b.queue.length < capacity then { b with queue := b.queue ++ [n] }
  else ⟨b.missed + 1, b.queue.tail ++ [n]⟩

def take? (b : Backlog) : Option (Received × Backlog) :=
  if 0 < b.missed then some (.lagged b.missed, { b with missed := 0 })
  else
    match b.queue with
    | [] => none
    | n :: rest => some (.notice n, { b with queue := rest })

def drain : Nat → Backlog → List Received × Backlog
  | 0, b => ([], b)
  | limit + 1, b =>
    match b.take? with
    | none => ([], b)
    | some (r, b) =>
      let (rest, b) := drain limit b
      (r :: rest, b)

/-- The number of items that can be taken off. -/
def size (b : Backlog) : Nat := (if 0 < b.missed then 1 else 0) + b.queue.length

end Backlog

/-- The names under which backlogs are kept are `κ`. -/
structure Bus (κ : Type) where
  capacity : Nat
  receivers : List (κ × Backlog) := []

namespace Bus

variable {κ : Type} [DecidableEq κ]

/-- A bus that keeps at least `wanted` notices for each receiver: the next power of two. -/
def ofCapacity (wanted : Nat) : Bus κ where
  capacity := (max wanted 1).nextPowerOfTwo

def size (b : Bus κ) : Nat := b.receivers.length

def unsubscribe (b : Bus κ) (name : κ) : Bus κ := { b with receivers := b.receivers.filter (·.1 ≠ name) }

/-- Adds a receiver of the notices from now on; an earlier one of that name is dropped. -/
def subscribe (b : Bus κ) (name : κ) : Bus κ :=
  let b := b.unsubscribe name
  { b with receivers := b.receivers ++ [(name, {})] }

def backlog? (b : Bus κ) (name : κ) : Option Backlog := (b.receivers.find? (·.1 = name)).map (·.2)

def publish (b : Bus κ) (n : Notice) : Bus κ :=
  { b with receivers := b.receivers.map fun (name, log) => (name, log.push b.capacity n) }

def setBacklog (b : Bus κ) (name : κ) (log : Backlog) : Bus κ :=
  { b with receivers := b.receivers.map fun r => if r.1 = name then (name, log) else r }

/-- Takes up to `limit` items off a receiver's backlog. -/
def receive (b : Bus κ) (name : κ) (limit : Nat) : List Received × Bus κ :=
  match b.backlog? name with
  | none => ([], b)
  | some log =>
    let (items, log) := log.drain limit
    (items, b.setBacklog name log)

end Bus

end ClusterMembership
