import ClusterMembership.Text.Hexadecimal
import ClusterMembership.Text.Unprintable
/-!
# Quoted text

Text between double quotes, as messages show it: the quote, the backslash and the usual controls get a short escape,
every other unprintable character is written by its number, and all else, the apostrophe included, stands for itself.
-/
namespace ClusterMembership.Text

def escapeChar (c : Char) : String :=
  match c with
  | '\x00' => "\\0"
  | '\t' => "\\t"
  | '\n' => "\\n"
  | '\r' => "\\r"
  | '"' => "\\\""
  | '\\' => "\\\\"
  | c => if isUnprintable c then "\\u\x7b" ++ lowerHex c.toNat ++ "\x7d" else c.toString

def quoted (s : String) : String :=
  "\"" ++ String.join (s.toList.map escapeChar) ++ "\""

/-- A run of letters between grave accents, as error messages name fields and variants. -/
def ticked (s : String) : String := "`" ++ s ++ "`"

end ClusterMembership.Text
