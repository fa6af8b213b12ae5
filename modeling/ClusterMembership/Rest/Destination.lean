import ClusterMembership.Target
import ClusterMembership.Url.Reader
/-!
# Destinations of requests

Not every URL can be asked. `Url.destination` is the URL that a request goes to: the user in it has become a matter of
authorization (`Url.user?`). `Url.isRequestable` tells whether a request can go there at all.
-/
namespace ClusterMembership.Url

/-- The user that a URL names, if it can be made out; a password that cannot is left out. -/
def Authority.user? (a : Authority) : Option Credentials := do
  let username ← unescapeText? a.username.toList
  let password := a.password.bind fun word => unescapeText? word.toList
  if username = [] ∧ password = none then none
  else return ⟨String.ofList username, String.ofList (password.getD [])⟩

def user? (u : Url) : Option Credentials := u.authority.bind (·.user?)

/-- The URL without a user that can be made out. -/
def destination (u : Url) : Url :=
  if u.user?.isSome then
    { u with authority := u.authority.map fun a => { a with username := "", password := none } }
  else u

/-- The longest URL that a request carries, in bytes. -/
def longest : Nat := 65534

/-- A character of a host that no request carries. -/
def isUnsendable (c : Char) : Bool := "\"`\x7b\x7d".toList.contains c

/-- A request can go to the URL: it is one of the hypertext protocol, names a host and fits into a request. -/
def isRequestable (u : Url) : Bool :=
  (u.scheme = "http" || u.scheme = "https") && u.text.utf8ByteSize ≤ longest &&
    u.host?.any fun host => !host.toList.any isUnsendable

end ClusterMembership.Url
