import ClusterMembership.Text.Hexadecimal
import ClusterMembership.Text.Pieces
/-!
# Tables of characters

Properties of characters are written as tables: numbers to base sixteen, parted by blanks, such as `5d0`, or several of
them joined by dots, such as `5d0.5ea` for a run of characters. A number with a colon behind it is a heading for the
entries that follow. `Runs` is a set of characters kept as its runs in ascending order.
-/
namespace ClusterMembership.Text

/-- An entry of a table: numbers joined by dots. -/
structure Entry where
  isHeading : Bool
  numbers : List Nat

def entries (table : String) : List Entry :=
  ((pieces ' ' (table.toList.map fun c => if c = '\n' then ' ' else c)).filter (· ≠ [])).map fun word =>
    ⟨word.getLast? = some ':', (pieces '.' (word.filter (· ≠ ':'))).map hexNumber⟩

/-- The entries of a table by their headings; those before the first heading are left out. -/
def groups (table : String) : List (Nat × List (List Nat)) :=
  ((entries table).foldr
    (fun e (closed, under) => if e.isHeading then ((e.numbers.headD 0, under) :: closed, []) else (closed, e.numbers :: under))
    (([] : List (Nat × List (List Nat))), ([] : List (List Nat)))).1

/-- A set of characters as runs from a first to a last one, in ascending order. -/
structure Runs where
  bounds : Array (Nat × Nat)

namespace Runs

/-- The runs given by entries of one or two numbers. -/
def ofEntries (es : List (List Nat)) : Runs := ⟨(es.map fun ns => (ns.headD 0, ns.getLastD 0)).toArray⟩

def ofTable (table : String) : Runs := ofEntries ((entries table).map Entry.numbers)

/-- Whether `n` lies in a run among those from `low` to below `high`, which are halved until one is left. -/
def search (r : Runs) (n low high : Nat) : Bool :=
  if low < high then
    match r.bounds[(low + high) / 2]? with
    | none => false
    | some (first, last) =>
      if n < first then r.search n low ((low + high) / 2)
      else if last < n then r.search n ((low + high) / 2 + 1) high
      else true
  else false
termination_by high - low

/-- Whether a character lies in one of the runs. -/
def contains (r : Runs) (c : Char) : Bool := r.search c.toNat 0 r.bounds.size

end Runs

end ClusterMembership.Text
