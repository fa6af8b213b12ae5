import ClusterMembership.Text.Decimal
/-!
# URLs

A `Url` is an absolute URL in normal form: scheme and host are in lower case, the port is left out where it is the
scheme's own, and the path has no dot segments. Its parts hold their text with the escapes in it.
-/
namespace ClusterMembership

/-- Who is asked, and as whom. -/
structure Url.Authority where
  /-- The name of the user, empty if there is none. -/
  username : String := ""
  password : Option String := none
  /-- The host, which may be empty. -/
  host : String := ""
  /-- The port, unless it is the scheme's own. -/
  port : Option Nat := none
deriving DecidableEq

/-- An absolute URL in normal form. -/
structure Url where
  scheme : String
  authority : Option Url.Authority := none
  path : String
  query : Option String := none
  fragment : Option String := none
deriving DecidableEq

namespace Url

/-- What a scheme says about its URLs. -/
inductive Family where
  /-- A service of the network with the port that goes without saying. -/
  | network (port : Nat)
  | file
  | other
deriving DecidableEq

def Family.ofScheme (scheme : String) : Family :=
  if scheme = "http" ∨ scheme = "ws" then .network 80
  else if scheme = "https" ∨ scheme = "wss" then .network 443
  else if scheme = "ftp" then .network 21
  else if scheme = "file" then .file
  else .other

/-- The scheme is one of the special ones, for which a backslash is as good as a slash. -/
def Family.isSpecial (f : Family) : Bool := f ≠ other

def Family.port? : Family → Option Nat
  | network port => some port
  | _ => none

namespace Authority

/-- The part about the user, with the sign behind it. -/
def userText (a : Authority) : String :=
  let password := a.password.elim "" (":" ++ ·)
  if a.username = "" ∧ a.password = none then "" else a.username ++ password ++ "@"

def text (a : Authority) : String :=
  a.userText ++ a.host ++ a.port.elim "" fun p => ":" ++ Text.decimal p

end Authority

def host? (u : Url) : Option String := (u.authority.map (·.host)).filter (· ≠ "")

/-- A URL as it is written. A path that begins with two slashes would be taken for an authority where there is none, so
it gets a dot segment before it. -/
def text (u : Url) : String :=
  let authority :=
    match u.authority with
    | some a => "//" ++ a.text
    | none => if ['/', '/'].isPrefixOf u.path.toList then "/." else ""
  u.scheme ++ ":" ++ authority ++ u.path ++ u.query.elim "" ("?" ++ ·) ++ u.fragment.elim "" ("#" ++ ·)

/-- The URL without the part that its reader keeps to itself. -/
def withoutFragment (u : Url) : Url := { u with fragment := none }

end Url

end ClusterMembership
