import ClusterMembership.Text.Hexadecimal
import ClusterMembership.Text.Utf8
/-!
# Percent escapes

A character that may not stand in a part of a URL is written as the bytes of its UTF-8 encoding, each as `%` and two
digits to base sixteen. Every part has its own set of such characters, and all of them hold the controls and everything
beyond ASCII (`isControl`). What is in none of the sets stays as it is.
-/
namespace ClusterMembership.Url

/-- A character that no part of a URL holds. -/
def isControl (c : Char) : Bool := c.toNat < 0x20 || 0x7f ≤ c.toNat

def isEscapedInFragment (c : Char) : Bool := isControl c || " \"<>`".toList.contains c

/-- A character that is escaped in a segment of a path. -/
def isEscapedInPath (c : Char) : Bool := isEscapedInFragment c || "#?\x7b\x7d".toList.contains c

/-- A character that is escaped in the name or the password of a user. -/
def isEscapedInUser (c : Char) : Bool := isEscapedInPath c || "/:;=@[\\]^|".toList.contains c

/-- A character that is escaped in a query; those of special URLs have no quotes of either kind. -/
def isEscapedInQuery (isSpecial : Bool) (c : Char) : Bool :=
  isControl c || " \"#<>".toList.contains c || (isSpecial && c = '\'')

def escapeOctet (b : UInt8) : List Char :=
  ['%', Text.upperHexChar (b.toNat / 16), Text.upperHexChar (b.toNat % 16)]

def escape (isEscaped : Char → Bool) (cs : List Char) : List Char :=
  cs.flatMap fun c => if isEscaped c then (String.utf8EncodeChar c).flatMap escapeOctet else [c]

/-- The bytes that characters stand for, their escapes resolved. A `%` without two digits stands for itself. -/
def unescape : List Char → List UInt8
  | '%' :: high :: low :: rest =>
    match Text.hexValue? high, Text.hexValue? low with
    | some h, some l => UInt8.ofNat (h * 16 + l) :: unescape rest
    | _, _ => 0x25 :: unescape (high :: low :: rest)
  | c :: rest => String.utf8EncodeChar c ++ unescape rest
  | [] => []

/-- The characters that characters stand for; `none` where the bytes are no text. -/
def unescapeText? (cs : List Char) : Option (List Char) := (Text.symbols (unescape cs)).mapM id

end ClusterMembership.Url
