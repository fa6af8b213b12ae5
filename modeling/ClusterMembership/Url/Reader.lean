import ClusterMembership.Url.Basic
import ClusterMembership.Url.Host
import ClusterMembership.Url.Path
/-!
# Reading URLs

`Url.parse?` reads an absolute URL and puts it into normal form. Behind the scheme stands an authority, which begins with
two slashes and may be left out for schemes that are not special, then a path, a query and a fragment. What is no URL at
all, for instance one with an empty host or with a port that is no number, has no normal form.
-/
namespace ClusterMembership.Url

/-- A character that a URL's text may not begin or end with. -/
def isEdge (c : Char) : Bool := c.toNat ≤ 0x20

/-- The characters of a URL: nothing at the edges that does not belong to it, and no tabs or line ends. -/
def trim (cs : List Char) : List Char :=
  let front := cs.dropWhile isEdge
  let both := (front.reverse.dropWhile isEdge).reverse
  both.filter fun c => c ≠ '\t' && c ≠ '\n' && c ≠ '\x0d'

def isSchemeChar (c : Char) : Bool := Path.isLetter c || (Text.digit? c).isSome || c = '+' || c = '-' || c = '.'

/-- The scheme in lower case, and what follows its colon. -/
def splitScheme? (cs : List Char) : Option (String × List Char) :=
  let name := cs.takeWhile isSchemeChar
  match name, cs.dropWhile isSchemeChar with
  | first :: _, ':' :: rest =>
    if Path.isLetter first then some (String.ofList (name.map Char.toLower), rest) else none
  | _, _ => none

/-- A slash, or what is as good as one. -/
def isSlash (isSpecial : Bool) (c : Char) : Bool := c = '/' || (isSpecial && c = '\\')

def endsPath (c : Char) : Bool := c = '?' || c = '#'

def endsAuthority (isSpecial : Bool) (c : Char) : Bool := isSlash isSpecial c || endsPath c

/-- Name and password of a user, written with a colon between them; an empty password is none. -/
def readUser (cs : List Char) : String × Option String :=
  let written (ds : List Char) : String := String.ofList (escape isEscapedInUser ds)
  let password := (cs.dropWhile (· ≠ ':')).drop 1
  (written (cs.takeWhile (· ≠ ':')), if password = [] then none else some (written password))

/-- The user of an authority, who stands before its last `@`, and what follows. A lone `@` is no authority. -/
def splitUser? (isSpecial : Bool) (cs : List Char) : Option ((String × Option String) × List Char) :=
  let whole := cs.takeWhile (!endsAuthority isSpecial ·)
  let host := (whole.reverse.takeWhile (· ≠ '@')).reverse
  if host.length = whole.length then some (("", none), cs)
  else
    let user := whole.take (whole.length - host.length - 1)
    let rest := cs.drop (user.length + 1)
    if user = [] ∧ host = [] ∧ rest ≠ [] then none else some (readUser user, rest)

/-- The host, which ends at a colon outside brackets or with the authority, and what follows. -/
def splitHost (isSpecial : Bool) : Bool → List Char → List Char × List Char
  | _, [] => ([], [])
  | inside, c :: cs =>
    if (c = ':' && !inside) || endsAuthority isSpecial c then ([], c :: cs)
    else
      let (host, rest) := splitHost isSpecial (c = '[' || (inside && c ≠ ']')) cs
      (c :: host, rest)

/-- The port behind its colon, and what follows: no more than sixteen bits, and none without digits. -/
def splitPort? (cs : List Char) : Option (Option Nat × List Char) :=
  let digits := cs.takeWhile fun c => (Text.digit? c).isSome
  let rest := cs.drop digits.length
  let port := Text.digitsValue digits
  if 65535 < port ∨ !rest.head?.all (endsAuthority true) then none
  else some (if digits = [] then none else some port, rest)

/-- An authority, and what follows. An empty host goes with neither a user nor a port. -/
def splitAuthority? (family : Family) (cs : List Char) : Option (Authority × List Char) := do
  let ((username, password), rest) ← splitUser? family.isSpecial cs
  let (name, rest) := splitHost family.isSpecial false rest
  let host ← Host.read? family.isSpecial name
  let hasUser := username ≠ "" ∨ password ≠ none
  if host = "" ∧ (hasUser ∨ rest.head? = some ':') then none
  let (port, rest) ← if rest.head? = some ':' then splitPort? (rest.drop 1) else some (none, rest)
  return (⟨username, password, host, if port = family.port? then none else port⟩, rest)

/-- What stands behind a sign, and what stands before it. -/
def splitOff (sign : Char) (cs : List Char) : List Char × Option (List Char) :=
  (cs.takeWhile (· ≠ sign), (cs.dropWhile (· ≠ sign)).tail?)

/-- A URL that goes on with `cs` behind its path. -/
def finish (family : Family) (scheme : String) (authority : Option Authority) (path : String) (cs : List Char) : Url :=
  let (front, fragment) := splitOff '#' cs
  let (_, query) := splitOff '?' front
  { scheme, authority, path
    query := query.map fun q => String.ofList (escape (isEscapedInQuery family.isSpecial) q)
    fragment := fragment.map fun f => String.ofList (escape isEscapedInFragment f) }

/-- The characters of a path with plain slashes, and what follows. -/
def splitPath (isSpecial : Bool) (cs : List Char) : List Char × List Char :=
  ((cs.takeWhile (!endsPath ·)).map fun c => if isSlash isSpecial c then '/' else c, cs.dropWhile (!endsPath ·))

def dropSlash : List Char → List Char
  | '/' :: cs => cs
  | cs => cs

/-- A URL with an authority. Its path may be empty where the scheme is not special. -/
def readRemote? (family : Family) (scheme : String) (cs : List Char) : Option Url := do
  let (authority, rest) ← splitAuthority? family cs
  let (path, rest) := splitPath family.isSpecial rest
  let path := if path = [] ∧ !family.isSpecial then "" else Path.text (Path.read false (dropSlash path))
  return finish family scheme (some authority) path rest

/-- A file on a host. The path has no empty segments at its start, and one with a drive has no host. -/
def placeFile (host : String) (cs : List Char) (rest : List Char) : Url :=
  let segments := Path.read true cs
  let host := if segments.head?.any Path.isDrive then "" else host
  finish .file "file" (some { host }) (Path.text (segments.dropWhile (· = []))) rest

/-- The URL of a file. It has a host behind two slashes, unless a drive letter stands there. -/
def readFile? (cs : List Char) : Option Url := do
  match cs.takeWhile (isSlash true), cs with
  | _ :: _ :: _, _ :: _ :: cs =>
    let name := cs.takeWhile (!endsAuthority true ·)
    let (path, rest) := splitPath true (cs.drop name.length)
    if Path.isDrive name then return placeFile "" (name ++ path) rest
    else if name = [] then return placeFile "" path rest
    else
      let host ← Host.read? true name
      if host = "localhost" then return placeFile "" path rest
      else return placeFile host (dropSlash path) rest
  | _, cs =>
    let (path, rest) := splitPath true cs
    return placeFile "" (dropSlash path) rest

/-- A URL of another scheme: with an authority, with a path of segments, or opaque. -/
def readOther? (scheme : String) (cs : List Char) : Option Url :=
  match cs with
  | '/' :: '/' :: cs => readRemote? .other scheme cs
  | cs =>
    let (path, rest) := splitPath false cs
    let path := if path.head? = some '/' then Path.text (Path.read false path.tail) else String.ofList (escape isControl path)
    some (finish .other scheme none path rest)

def parse? (text : String) : Option Url := do
  let (scheme, rest) ← splitScheme? (trim text.toList)
  match Family.ofScheme scheme with
  | .network port => readRemote? (.network port) scheme (rest.dropWhile (isSlash true))
  | .file => readFile? rest
  | .other => readOther? scheme rest

end ClusterMembership.Url
