import ClusterMembership.Span.Unit
/-!
# Writing spans

The text of a span names each unit of which it holds a part, from years down to nanoseconds, with a blank between them;
years, months and days are spelled out and take a plural.
-/
namespace ClusterMembership.Span

/-- The parts of a span, each with the name it is written with. -/
def parts (d : Span) : List (Nat × String) :=
  let year := TimeUnit.year.seconds
  let month := TimeUnit.month.seconds
  let day := TimeUnit.day.seconds
  let plural (n : Nat) (name : String) : Nat × String := (n, if n = 1 then name else name ++ "s")
  let inYear := d.seconds % year
  let inMonth := inYear % month
  let inDay := inMonth % day
  [plural (d.seconds / year) "year", plural (inYear / month) "month", plural (inMonth / day) "day",
    (inDay / 3600, "h"), (inDay % 3600 / 60, "m"), (inDay % 60, "s"),
    (d.nanos / 1000000, "ms"), (d.nanos / 1000 % 1000, "us"), (d.nanos % 1000, "ns")]

def print (d : Span) : String :=
  match d.parts.filter (·.1 ≠ 0) with
  | [] => "0s"
  | parts => String.intercalate " " (parts.map fun (n, name) => Text.decimal n ++ name)

end ClusterMembership.Span
