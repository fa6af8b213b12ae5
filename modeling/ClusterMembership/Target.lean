import ClusterMembership.Json.Reader
import ClusterMembership.Json.Value
/-!
# Addressing a node

The identity of a node, the address and credentials of its administrative interface, and the three together as the
target of a call. Debugging output never shows a password.
-/
namespace ClusterMembership

/-- The stable identity of a node. -/
structure NodeId where
  text : String
deriving DecidableEq

/-- The address of a node's administrative interface. -/
structure Address where
  host : String
  port : UInt16
deriving DecidableEq

/-- A name and password for a node's administrative interface. -/
structure Credentials where
  username : String
  password : String
deriving DecidableEq

/-- All that a call needs to address one node. -/
structure Target where
  id : NodeId
  address : Address
  credentials : Credentials
deriving DecidableEq

/-- A record in debugging output, given its name and the texts of its fields. -/
def debugRecord (name : String) (fields : List (String × String)) : String :=
  name ++ " \x7b " ++ String.intercalate ", " (fields.map fun (field, value) => field ++ ": " ++ value) ++ " \x7d"

namespace NodeId

def debug (id : NodeId) : String := "NodeId(" ++ Text.quoted id.text ++ ")"

def toJson (id : NodeId) : Json.Value := .string id.text

def read : Json.Reader NodeId := Json.readString.map NodeId.mk

/-- Identities are ordered as their texts, by code points. -/
def le (a b : NodeId) : Bool := !(b.text < a.text)

/-- The order of two identities: minus one, zero or one. -/
def compared (a b : NodeId) : Int := if a.text < b.text then -1 else if b.text < a.text then 1 else 0

def sorted (ids : List NodeId) : List NodeId := ids.mergeSort le

/-- An identity made of 128 random bits: a universally unique identifier of version 4, six of whose bits are fixed. -/
def ofRandom (high low : UInt64) : NodeId :=
  let h := high.toNat / 0x10000 * 0x10000 + 0x4000 + high.toNat % 0x1000
  let l := 0x8000000000000000 + low.toNat % 0x4000000000000000
  let group (count n : Nat) : String := String.ofList (Text.lowerHexDigits count n)
  ⟨group 8 (h / 0x100000000) ++ "-" ++ group 4 (h / 0x10000) ++ "-" ++ group 4 h ++ "-" ++ group 4 (l / 0x1000000000000) ++ "-" ++
    group 12 l⟩

/-- The places of a universally unique identifier of version 4: `x` is any digit to base sixteen and `y` one of `8`,
`9`, `a` and `b`. -/
def randomPattern : List Char := "xxxxxxxx-xxxx-4xxx-yxxx-xxxxxxxxxxxx".toList

def admits (place c : Char) : Bool :=
  if place = 'x' then "0123456789abcdef".toList.contains c
  else if place = 'y' then "89ab".toList.contains c
  else place = c

/-- The text is a universally unique identifier of version 4 in lower case. -/
def isRandomForm (id : NodeId) : Bool :=
  let cs := id.text.toList
  cs.length = randomPattern.length && (randomPattern.zip cs).all fun (place, c) => admits place c

end NodeId

namespace Address

/-- The characters of an address: host, colon and port, nothing escaped. -/
def chars (a : Address) : List Char := a.host.toList ++ ':' :: Text.decimalDigits a.port.toNat

def text (a : Address) : String := String.ofList a.chars

def debug (a : Address) : String :=
  debugRecord "NodeAddress" [("host", Text.quoted a.host), ("admin_port", Text.decimal a.port.toNat)]

def toJson (a : Address) : Json.Value := .object [("host", .string a.host), ("admin_port", .nat a.port.toNat)]

/-- An address of which fields may still be missing. -/
structure Draft where
  host : Option String := none
  port : Option UInt16 := none

def shape : Json.Shape Draft where
  name := "NodeAddress"
  fields := [
    .ofReader "host" (·.host) (fun d host => { d with host := some host }) Json.readString,
    .ofReader "admin_port" (·.port) (fun d port => { d with port := some port })
      ((Json.readNatural .port 65535).map Nat.toUInt16)]
  blank := {}
  mayEndEarly := false

def read : Json.Reader Address := (Json.readRecord shape).andThen fun d => do
  return ⟨← Json.required "host" d.host, ← Json.required "admin_port" d.port⟩

end Address

namespace Credentials

def debug (c : Credentials) : String :=
  debugRecord "Credentials" [("username", Text.quoted c.username), ("password", Text.quoted "<redacted>")]

def toJson (c : Credentials) : Json.Value :=
  .object [("username", .string c.username), ("password", .string c.password)]

/-- Credentials of which fields may still be missing. -/
structure Draft where
  username : Option String := none
  password : Option String := none

def shape : Json.Shape Draft where
  name := "Credentials"
  fields := [
    .ofReader "username" (·.username) (fun d name => { d with username := some name }) Json.readString,
    .ofReader "password" (·.password) (fun d word => { d with password := some word }) Json.readString]
  blank := {}
  mayEndEarly := false

def read : Json.Reader Credentials := (Json.readRecord shape).andThen fun d => do
  return ⟨← Json.required "username" d.username, ← Json.required "password" d.password⟩

end Credentials

namespace Target

/-- The parts of a target in debugging output, under the name of the record that holds them. -/
def debugAs (name : String) (t : Target) : String :=
  debugRecord name [("node_id", t.id.debug), ("address", t.address.debug), ("credentials", t.credentials.debug)]

def debug (t : Target) : String := t.debugAs "NodeTarget"

/-- What a node is made from, in debugging output. -/
def debugOptions (t : Target) : String := t.debugAs "NodeOptions"

end Target

end ClusterMembership
