import ClusterMembership.Json.Skip
/-!
# Reading values of a known shape

Readers for numbers, strings, choices, lists and records. A text is read from left to right and the first problem wins: a
value of the wrong type is reported as soon as it has been recognised, whatever follows it. A record is an object, its
unknown members skipped, or the list of its fields in order.
-/
namespace ClusterMembership.Json

open Text (Symbol)

abbrev Reader (α : Type) := List Symbol → Except Flaw (α × List Symbol)

/-- The flaw of a value that begins with `x` and is not of the wanted kind. -/
def misplaced (wanted : Wanted) (x : Symbol) (s : List Symbol) : Flaw :=
  let instead {α : Type} (r : Except Flaw α) (found : α → Found) : Flaw :=
    match r with
    | .error e => e
    | .ok a => .unfit (.wrongType (found a) wanted)
  match x with
  | some 'n' => instead (literal ['u', 'l', 'l'] s) fun _ => .null
  | some 't' => instead (literal ['r', 'u', 'e'] s) fun _ => .bool true
  | some 'f' => instead (literal ['a', 'l', 's', 'e'] s) fun _ => .bool false
  | some '-' => instead (numberTail true s) fun r => .number r.1
  | some '"' => instead (stringTail s) fun r => .string (String.ofList r.1)
  | some '[' => .unfit (.wrongType .list wanted)
  | some '\x7b' => .unfit (.wrongType .object wanted)
  | x => if isDigit x then instead (numberTail false (x :: s)) fun r => .number r.1 else .malformed

/-- Reads from the next token on, given its first symbol and the symbols after it. -/
def atToken {α : Type} (read : Symbol → Reader α) : Reader α := fun s =>
  match skipGap s with
  | [] => .error .cutShort
  | x :: t => read x t

def expectChar (c : Char) : List Symbol → Except Flaw (List Symbol) := fun s =>
  match skipGap s with
  | [] => .error .cutShort
  | x :: t => if x = some c then .ok t else .error .malformed

def Number.natural? (wanted : Wanted) (limit : Nat) : Number → Except Flaw Nat
  | .natural n => if n ≤ limit then .ok n else .error (.unfit (.outOfRange n wanted))
  | .negative n => .error (.unfit (.outOfRange (-n) wanted))
  | .real x => .error (.unfit (.wrongType (.number (.real x)) wanted))

def readNatural (wanted : Wanted) (limit : Nat) : Reader Nat := atToken fun x t => do
  if x = some '-' then
    let (n, t) ← numberTail true t
    return (← n.natural? wanted limit, t)
  else if isDigit x then
    let (n, t) ← numberTail false (x :: t)
    return (← n.natural? wanted limit, t)
  else .error (misplaced wanted x t)

def readBool : Reader Bool := atToken fun x t =>
  if x = some 't' then (literal ['r', 'u', 'e'] t).map (true, ·)
  else if x = some 'f' then (literal ['a', 'l', 's', 'e'] t).map (false, ·)
  else .error (misplaced .bool x t)

def readString : Reader String := atToken fun x t =>
  if x = some '"' then (stringTail t).map fun (cs, r) => (String.ofList cs, r)
  else .error (misplaced .string x t)

def readNull : Reader Unit := atToken fun x t =>
  if x = some 'n' then (literal ['u', 'l', 'l'] t).map ((), ·) else .error (misplaced .null x t)

def readOption {α : Type} (read : Reader α) : Reader (Option α) := fun s =>
  match skipGap s with
  | some 'n' :: t => (literal ['u', 'l', 'l'] t).map (none, ·)
  | _ => (read s).map fun (a, r) => (some a, r)

def choose {α : Type} (choices : List (String × α)) (given : String) : Except Flaw α :=
  match choices.find? (·.1 = given) with
  | some (_, a) => .ok a
  | none => .error (.unfit (.unknownVariant given (choices.map (·.1))))

/-- A choice: its name as a string, or an object of one member with that name and the value null. -/
def readChoice {α : Type} (choices : List (String × α)) : Reader α := atToken fun x t => do
  if x = some '"' then
    let (cs, t) ← stringTail t
    return (← choose choices (String.ofList cs), t)
  else if x = some '\x7b' then
    let t ← expectChar '"' t
    let (name, t) ← stringTail t
    let a ← choose choices (String.ofList name)
    let t ← expectChar ':' t
    let (_, t) ← readNull t
    return (a, ← expectChar '\x7d' t)
  else .error .malformed

/-! ## Lists -/

/-- The unread symbols before the next item of an open list, or those after its end. -/
def nextItem (isFirst : Bool) (s : List Symbol) : Except Flaw (Bool × List Symbol) :=
  match skipGap s with
  | [] => .error .cutShort
  | x :: t =>
    if x = some ']' then .ok (false, t)
    else if isFirst then .ok (true, x :: t)
    else if x = some ',' then
      match skipGap t with
      | [] => .error .cutShort
      | y :: u => if y = some ']' then .error .malformed else .ok (true, y :: u)
    else .error .malformed

/-- The items of an open list, at most `room` of them. -/
def readItems {α : Type} (read : Reader α) (isFirst : Bool) : Nat → Reader (List α)
  | 0, _ => .error .cutShort
  | room + 1, s => do
    match ← nextItem isFirst s with
    | (false, t) => return ([], t)
    | (true, t) =>
      let (a, t) ← read t
      let (as, t) ← readItems read false room t
      return (a :: as, t)

/-- A list. Every item takes up at least one symbol, so the length of the text is room enough. -/
def readList {α : Type} (read : Reader α) : Reader (List α) := atToken fun x t =>
  if x = some '[' then readItems read true (t.length + 1) t else .error (misplaced .list x t)

/-! ## Records -/

/-- One field of a record that is being filled in. -/
structure Field (σ : Type) where
  name : String
  isSet : σ → Bool
  read : σ → Reader σ

/-- The field that `get` looks up and `set` fills in. -/
def Field.ofReader {σ α : Type} (name : String) (get : σ → Option α) (set : σ → α → σ) (read : Reader α) : Field σ where
  name := name
  isSet r := (get r).isSome
  read r s := (read s).map fun (a, t) => (set r a, t)

/-- How a record is written: its name in messages, its fields in order, the record with no field filled in, and whether
a list may leave out fields at its end. -/
structure Shape (σ : Type) where
  name : String
  fields : List (Field σ)
  blank : σ
  mayEndEarly : Bool

/-- The unread symbols after the opening quote of the next member's name, or those after the end of the object. -/
def nextMember (isFirst : Bool) (s : List Symbol) : Except Flaw (Bool × List Symbol) :=
  match skipGap s with
  | [] => .error .cutShort
  | x :: t =>
    if x = some '\x7d' then .ok (false, t)
    else if isFirst then if x = some '"' then .ok (true, t) else .error .malformed
    else if x = some ',' then
      match skipGap t with
      | [] => .error .cutShort
      | y :: u => if y = some '"' then .ok (true, u) else .error .malformed
    else .error .malformed

/-- One member after the opening quote of its name. A known field that is already filled in is refused by its name. -/
def readMember {σ : Type} (fields : List (Field σ)) (record : σ) : Reader σ := fun s => do
  let (cs, s) ← stringTail s
  match fields.find? (·.name = String.ofList cs) with
  | none =>
    let s ← expectChar ':' s
    let s ← skipValue s
    return (record, s)
  | some field =>
    if field.isSet record then .error (.unfit (.duplicateField field.name))
    else
      let s ← expectChar ':' s
      field.read record s

/-- The members of an open object, at most `room` of them. -/
def readMembers {σ : Type} (fields : List (Field σ)) (isFirst : Bool) : Nat → σ → Reader σ
  | 0, _, _ => .error .cutShort
  | room + 1, record, s => do
    match ← nextMember isFirst s with
    | (false, t) => return (record, t)
    | (true, t) =>
      let (record, t) ← readMember fields record t
      readMembers fields false room record t

/-- The fields of a record written as a list; `index` counts those already read. -/
def readElements {σ : Type} (shape : Shape σ) : List (Field σ) → Nat → σ → Reader σ
  | [], _, record, s => (expectChar ']' s).map (record, ·)
  | field :: fields, index, record, s => do
    match ← nextItem (index = 0) s with
    | (false, t) =>
      if shape.mayEndEarly then return (record, t)
      else .error (.unfit (.wrongLength index (.recordList shape.name shape.fields.length)))
    | (true, t) =>
      let (record, t) ← field.read record t
      readElements shape fields (index + 1) record t

/-- A record as an object or as a list. -/
def readRecord {σ : Type} (shape : Shape σ) : Reader σ := atToken fun x t =>
  if x = some '\x7b' then readMembers shape.fields true (t.length + 1) shape.blank t
  else if x = some '[' then readElements shape shape.fields 0 shape.blank t
  else .error (misplaced (.record shape.name) x t)

def required {α : Type} (name : String) : Option α → Except Flaw α
  | some a => .ok a
  | none => .error (.unfit (.missingField name))

/-- A reader whose result a second step may refuse. -/
def Reader.andThen {α β : Type} (read : Reader α) (finish : α → Except Flaw β) : Reader β := fun s => do
  let (a, t) ← read s
  return (← finish a, t)

def Reader.map {α β : Type} (f : α → β) (read : Reader α) : Reader β := fun s =>
  (Except.map fun (a, t) => (f a, t)) (read s)

/-- Reads a whole text, which holds one value and blanks. -/
def readWhole {α : Type} (read : Reader α) (s : List Symbol) : Except Flaw α := do
  let (a, t) ← read s
  if skipGap t = [] then return a else .error .malformed

end ClusterMembership.Json
