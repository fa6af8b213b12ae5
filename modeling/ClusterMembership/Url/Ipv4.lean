import ClusterMembership.Text.Decimal
import ClusterMembership.Text.Hexadecimal
import ClusterMembership.Text.Pieces
/-!
# IPv4 addresses

An IPv4 address is a number of 32 bits. It is read from up to four parts with dots between them, each decimal, octal or
to base sixteen, of which the last fills all bytes that are left; it is written as four decimal parts.
-/
namespace ClusterMembership.Url.Ipv4

/-- The number that digits to a given base denote; `none` where something else stands among them. -/
def readDigits? (base : Nat) (cs : List Char) : Option Nat :=
  cs.foldlM (fun n c => (Text.hexValue? c).bind fun d => if d < base then some (n * base + d) else none) 0

/-- The number of a part: to base sixteen behind `0x`, octal behind `0`, else decimal. -/
def readPart? : List Char → Option Nat
  | [] => none
  | ['0'] => some 0
  | '0' :: 'x' :: cs => readDigits? 16 cs
  | '0' :: 'X' :: cs => readDigits? 16 cs
  | '0' :: cs => readDigits? 8 cs
  | cs => readDigits? 10 cs

/-- The parts of a name, the empty one behind a last dot left out. -/
def parts (name : List Char) : List (List Char) :=
  let all := Text.pieces '.' name
  if all.getLast? = some [] ∧ 1 < all.length then all.dropLast else all

/-- The last part of a name is a number, so the whole has to be an IPv4 address. -/
def endsInNumber (name : List Char) : Bool :=
  match (parts name).getLast? with
  | none => false
  | some last => (last ≠ [] && last.all fun c => (Text.digit? c).isSome) || (readPart? last).isSome

/-- The address that a name denotes. All parts but the last are bytes. -/
def read? (name : List Char) : Option Nat := do
  if 4 < (parts name).length then none
  let numbers ← (parts name).mapM readPart?
  let last ← numbers.getLast?
  let bytes := numbers.dropLast
  let room := Nat.pow 256 (4 - bytes.length)
  if bytes.any (255 < ·) ∨ room ≤ last then none
  return bytes.foldl (fun v n => v * 256 + n) 0 * room + last

def text (n : Nat) : String :=
  String.intercalate "." ([n / 0x1000000, n / 0x10000 % 256, n / 0x100 % 256, n % 256].map Text.decimal)

end ClusterMembership.Url.Ipv4
