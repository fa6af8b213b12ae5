/-!
# Stretches between separators

`pieces` cuts a text at every separator. There is always one piece more than there are separators, and no piece holds
one.
-/
namespace ClusterMembership.Text

def pieces (separator : Char) : List Char → List (List Char)
  | [] => [[]]
  | c :: cs =>
    if c = separator then [] :: pieces separator cs
    else match pieces separator cs with
      | [] => [[c]]
      | p :: ps => (c :: p) :: ps

/-- Cutting at a separator and then reading on: a text without one is a single piece. -/
theorem pieces_of_not_mem {separator : Char} {cs : List Char} (h : separator ∉ cs) : pieces separator cs = [cs] := by
  induction cs with
  | nil => rfl
  | cons c cs ih =>
    have hc : ¬ c = separator := fun hc => h (hc ▸ List.mem_cons_self)
    rw [pieces, if_neg hc, ih fun hs => h (List.mem_cons_of_mem _ hs)]

end ClusterMembership.Text
