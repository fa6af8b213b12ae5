import ClusterMembership.Url.Ipv4
/-!
# IPv6 addresses

An IPv6 address is a list of eight numbers of 16 bits. Two colons stand for a run of zeros, once in an address, and four
decimal bytes may stand for the last two numbers. The written form puts the two colons for the longest run of zeros, the
first of several as long, and not for a lone zero.
-/
namespace ClusterMembership.Url.Ipv6

def readNumber? (cs : List Char) : Option Nat :=
  if cs = [] ∨ 4 < cs.length then none else Ipv4.readDigits? 16 cs

def readByte? (cs : List Char) : Option Nat := do
  if cs = [] ∨ (1 < cs.length ∧ cs.head? = some '0') then none
  let n ← Ipv4.readDigits? 10 cs
  if n ≤ 255 then some n else none

def readBytes? (cs : List Char) : Option (List Nat) := do
  match ← (Text.pieces '.' cs).mapM readByte? with
  | [a, b, c, d] => some [a * 256 + b, c * 256 + d]
  | _ => none

def readEnd? (cs : List Char) : Option (List Nat) :=
  if cs = [] then some []
  else do
    let all := Text.pieces ':' cs
    let front ← all.dropLast.mapM readNumber?
    let last := all.getLast?.getD []
    let back ← if last.contains '.' then readBytes? last else (readNumber? last).map ([·])
    return front ++ back

def readStart? (cs : List Char) : Option (List Nat) :=
  if cs = [] then some [] else (Text.pieces ':' cs).mapM readNumber?

/-- What stands before the first two colons and behind them, or the whole if there are none. -/
def splitDouble : List Char → List Char × Option (List Char)
  | ':' :: ':' :: cs => ([], some cs)
  | [] => ([], none)
  | c :: cs =>
    let (front, back) := splitDouble cs
    (c :: front, back)

def read? (cs : List Char) : Option (List Nat) :=
  match splitDouble cs with
  | (whole, none) => do
    let numbers ← readEnd? whole
    if numbers.length = 8 then some numbers else none
  | (front, some back) => do
    let before ← readStart? front
    let behind ← readEnd? back
    let left := 8 - before.length - behind.length
    if before.length + behind.length < 8 then some (before ++ List.replicate left 0 ++ behind) else none

/-- The length of the run of zeros that a list begins with. -/
def zeroRun (ns : List Nat) : Nat := (ns.takeWhile (· = 0)).length

/-- Where the first of the longest runs of zeros begins, and how long it is. -/
def longestZeros (ns : List Nat) : Nat × Nat :=
  (List.range ns.length).foldl
    (fun (start, length) i => if length < zeroRun (ns.drop i) then (i, zeroRun (ns.drop i)) else (start, length)) (0, 0)

def numbersText (ns : List Nat) : String := String.intercalate ":" (ns.map Text.lowerHex)

def text (ns : List Nat) : String :=
  let (start, length) := longestZeros ns
  if length < 2 then numbersText ns
  else numbersText (ns.take start) ++ "::" ++ numbersText (ns.drop (start + length))

end ClusterMembership.Url.Ipv6
