import ClusterMembership.Text.Quoted
import ClusterMembership.Text.Decimal
import ClusterMembership.Text.Shortest
/-!
# What can be wrong with a JSON text

A text ends too early, is no JSON, or is JSON of the wrong shape. `Misfit` says how a shape differs from the one wanted
and `Misfit.message` puts it into words.
-/
namespace ClusterMembership.Json

/-- A number as it is read: whole numbers within 64 bits are exact, all others are doubles. -/
inductive Number where
  | natural (n : Nat)
  /-- Minus `n`, which is not zero. -/
  | negative (n : Nat)
  | real (x : Float)

/-- What stands in the text in place of the wanted value. -/
inductive Found where
  | number (n : Number)
  | bool (b : Bool)
  | string (s : String)
  | null
  | list
  | object

/-- A value that a reader wants. -/
inductive Wanted where
  | size
  | port
  | string
  | bool
  | list
  | null
  | record (name : String)
  /-- A record written as the list of its fields. -/
  | recordList (name : String) (fields : Nat)

/-- A text that is JSON so far, but of the wrong shape. -/
inductive Misfit where
  | wrongType (found : Found) (wanted : Wanted)
  | outOfRange (found : Int) (wanted : Wanted)
  | unknownVariant (given : String) (known : List String)
  | missingField (name : String)
  | duplicateField (name : String)
  | wrongLength (found : Nat) (wanted : Wanted)
  /-- A string that the field's own notation refuses. -/
  | refused (message : String)

/-- Why a text cannot be read. -/
inductive Flaw where
  | cutShort
  | malformed
  | unfit (reason : Misfit)

def integerText (n : Int) : String := (if n < 0 then "-" else "") ++ Text.decimal n.natAbs

def Found.text : Found → String
  | .number (.natural n) => "integer " ++ Text.ticked (Text.decimal n)
  | .number (.negative n) => "integer " ++ Text.ticked ("-" ++ Text.decimal n)
  | .number (.real x) => "floating point " ++ Text.ticked (Text.doubleText x)
  | .bool true => "boolean " ++ Text.ticked "true"
  | .bool false => "boolean " ++ Text.ticked "false"
  | .string s => "string " ++ Text.quoted s
  | .null => "null"
  | .list => "sequence"
  | .object => "map"

def Wanted.text : Wanted → String
  | .size => "usize"
  | .port => "u16"
  | .string => "a string"
  | .bool => "a boolean"
  | .list => "a sequence"
  | .null => "unit"
  | .record name => "struct " ++ name
  | .recordList name fields =>
    "struct " ++ name ++ " with " ++ Text.decimal fields ++ (if fields = 1 then " element" else " elements")

def choiceText : List String → String
  | [] => "there are no variants"
  | [a] => "expected " ++ Text.ticked a
  | [a, b] => "expected " ++ Text.ticked a ++ " or " ++ Text.ticked b
  | names => "expected one of " ++ String.intercalate ", " (names.map Text.ticked)

def Misfit.message : Misfit → String
  | .wrongType found wanted => "invalid type: " ++ found.text ++ ", expected " ++ wanted.text
  | .outOfRange found wanted =>
    "invalid value: integer " ++ Text.ticked (integerText found) ++ ", expected " ++ wanted.text
  | .unknownVariant given known => "unknown variant " ++ Text.ticked given ++ ", " ++ choiceText known
  | .missingField name => "missing field " ++ Text.ticked name
  | .duplicateField name => "duplicate field " ++ Text.ticked name
  | .wrongLength found wanted => "invalid length " ++ Text.decimal found ++ ", expected " ++ wanted.text
  | .refused message => message

end ClusterMembership.Json
