import ClusterMembership.Domain.MappingTable
/-!
# Characters of domain names

`mapChar?` brings a character into the form that domain names use: most stand for themselves, letters become small
letters, some stand for other texts or for nothing, and some may not occur.
-/
namespace ClusterMembership.Domain

/-- What a character stands for by one of the runs. -/
def shifted? (n : Nat) : Option Nat :=
  (shifts.find? fun s => s.first ≤ n && n ≤ s.last && (n - s.first) % s.step = 0).map fun s => s.target + (n - s.first)

/-- What a character stands for by the table of texts. -/
def expansion? (n : Nat) : Option (List Nat) := do
  let (first, texts) ← expansions.find? fun (first, texts) => first ≤ n && n < first + texts.length
  texts[n - first]?

/-- What a character stands for; `none` for one that may not occur. -/
def mapChar? (c : Char) : Option (List Char) :=
  if c.toNat < 0x80 then some [c.toLower]
  else if ignoredRuns.contains c then some []
  else
    match shifted? c.toNat with
    | some n => some [Char.ofNat n]
    | none =>
      match expansion? c.toNat with
      | some ns => some (ns.map Char.ofNat)
      | none => if refusedRuns.contains c then none else some [c]

def isKept (c : Char) : Bool := mapChar? c = some [c]

end ClusterMembership.Domain
