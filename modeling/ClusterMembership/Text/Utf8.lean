/-!
# Bytes and characters

`octets` encodes a text. `symbols` decodes bytes that may be damaged: every maximal run that no character begins with
becomes one empty place, so that a reader can still tell where the damage is. `lossy` puts U+FFFD into these places.
-/
namespace ClusterMembership.Text

/-- One place of a text being read: a character, or `none` for bytes that encode none. -/
abbrev Symbol := Option Char

def octets (s : String) : List UInt8 := s.toList.flatMap String.utf8EncodeChar

/-- A character of which some bytes have been read. -/
structure Unfinished where
  /-- Bytes still to come. -/
  left : Nat
  /-- Smallest byte that may come next. -/
  low : UInt8
  /-- Largest byte that may come next. -/
  high : UInt8
  /-- The bits read so far. -/
  value : Nat

/-- What a byte does where a character may begin. -/
inductive Opening where
  | whole (c : Char)
  | part (u : Unfinished)
  | damage

/-- The first byte of a character settles its length and, for four of them, narrows the byte that follows. -/
def opening (b : UInt8) : Opening :=
  if b < 0x80 then .whole (Char.ofNat b.toNat)
  else if b < 0xc2 then .damage
  else if b < 0xe0 then .part ⟨1, 0x80, 0xbf, b.toNat % 0x20⟩
  else if b = 0xe0 then .part ⟨2, 0xa0, 0xbf, 0⟩
  else if b = 0xed then .part ⟨2, 0x80, 0x9f, 0xd⟩
  else if b < 0xf0 then .part ⟨2, 0x80, 0xbf, b.toNat % 0x10⟩
  else if b = 0xf0 then .part ⟨3, 0x90, 0xbf, 0⟩
  else if b < 0xf4 then .part ⟨3, 0x80, 0xbf, b.toNat % 8⟩
  else if b = 0xf4 then .part ⟨3, 0x80, 0x8f, 4⟩
  else .damage

/-- The symbols that a byte completes, `u` being the character under way, and the character under way after it. -/
def feed (u : Option Unfinished) (b : UInt8) : List Symbol × Option Unfinished :=
  let afresh : List Symbol × Option Unfinished :=
    match opening b with
    | .whole c => ([some c], none)
    | .part v => ([], some v)
    | .damage => ([none], none)
  match u with
  | none => afresh
  | some u =>
    if u.low ≤ b ∧ b ≤ u.high then
      let value := u.value * 0x40 + b.toNat % 0x40
      if u.left ≤ 1 then ([some (Char.ofNat value)], none) else ([], some ⟨u.left - 1, 0x80, 0xbf, value⟩)
    else (none :: afresh.1, afresh.2)

/-- The symbols of `bytes`, the character `u` being under way. -/
def symbolsAfter : Option Unfinished → List UInt8 → List Symbol
  | none, [] => []
  | some _, [] => [none]
  | u, b :: bytes =>
    let (complete, next) := feed u b
    complete ++ symbolsAfter next bytes

def symbols (bytes : List UInt8) : List Symbol := symbolsAfter none bytes

/-- Bytes as text, every damaged run replaced by U+FFFD. -/
def lossy (bytes : List UInt8) : String := String.ofList ((symbols bytes).map (·.getD '\ufffd'))

def symbolsOf (s : String) : List Symbol := s.toList.map some

end ClusterMembership.Text
