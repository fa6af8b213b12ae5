import ClusterMembership.Text.Hexadecimal
import ClusterMembership.Text.Pieces
import ClusterMembership.Text.Utf8
/-!
# Form bodies

Fields as `application/x-www-form-urlencoded`: `name=value` pairs joined by `&`, a blank written as `+`, letters,
digits and `*-._` as they are, and every other byte of the UTF-8 encoding as `%` and two digits. `Form.fields?` takes a
body apart again.
-/
namespace ClusterMembership.Text

abbrev Form := List (String × String)

namespace Form

/-- A byte that a form body carries as it is. -/
def isPlain (b : UInt8) : Bool :=
  (0x30 ≤ b && b ≤ 0x39) || (0x41 ≤ b && b ≤ 0x5a) || (0x61 ≤ b && b ≤ 0x7a) ||
    b = 0x2a || b = 0x2d || b = 0x2e || b = 0x5f

def encodeOctet (b : UInt8) : List Char :=
  if b = 0x20 then ['+']
  else if isPlain b then [Char.ofNat b.toNat]
  else ['%', upperHexChar (b.toNat / 16), upperHexChar (b.toNat % 16)]

def encodeText (s : String) : List Char := (octets s).flatMap encodeOctet

def encodeField (field : String × String) : List Char := encodeText field.1 ++ '=' :: encodeText field.2

def encodeChars : Form → List Char
  | [] => []
  | [f] => encodeField f
  | f :: g :: rest => encodeField f ++ '&' :: encodeChars (g :: rest)

def encode (form : Form) : String := String.ofList (encodeChars form)

/-- The bytes that a written name or value stands for. -/
def decodeOctets : List Char → List UInt8
  | '+' :: rest => 0x20 :: decodeOctets rest
  | '%' :: high :: low :: rest =>
    match hexValue? high, hexValue? low with
    | some h, some l => UInt8.ofNat (h * 16 + l) :: decodeOctets rest
    | _, _ => 0x25 :: decodeOctets (high :: low :: rest)
  | c :: rest => octets c.toString ++ decodeOctets rest
  | [] => []

/-- A written name or value read back; `none` where its bytes are no text. -/
def decodeText? (cs : List Char) : Option String :=
  ((symbols (decodeOctets cs)).mapM id).map String.ofList

/-- A written field: the name ends at the first `=`. -/
def decodeField? (cs : List Char) : Option (String × String) := do
  let name ← decodeText? (cs.takeWhile (· ≠ '='))
  let value ← decodeText? ((cs.dropWhile (· ≠ '=')).drop 1)
  return (name, value)

/-- The fields of a body; empty stretches between separators hold none. -/
def fields? (body : String) : Option Form :=
  ((pieces '&' body.toList).filter (· ≠ [])).mapM decodeField?

end Form

end ClusterMembership.Text
