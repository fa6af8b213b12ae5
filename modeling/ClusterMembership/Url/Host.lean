import ClusterMembership.Domain.Basic
import ClusterMembership.Url.Ipv6
import ClusterMembership.Url.Percent
/-!
# Hosts

The host of a URL has one normal text. In brackets it is an IPv6 address. Without them it is, for special schemes, a
domain name or an IPv4 address, with its escapes resolved; other schemes have opaque hosts, which keep their characters.
-/
namespace ClusterMembership.Url.Host

def isForbidden (c : Char) : Bool := "\x00\t\n\x0d #/:<>?@[\\]^|".toList.contains c

def readName? (cs : List Char) : Option String := do
  let name ← Domain.toAscii? (← unescapeText? cs)
  if name = "" then none
  else if Ipv4.endsInNumber name.toList then (Ipv4.read? name.toList).map Ipv4.text
  else some name

/-- The text of an opaque host, which may be empty. -/
def readOpaque? (cs : List Char) : Option String :=
  if cs.any isForbidden then none else some (String.ofList (escape isControl cs))

def read? (isSpecial : Bool) : List Char → Option String
  | '[' :: cs =>
    if cs.getLast? = some ']' then (Ipv6.read? cs.dropLast).map fun ns => "[" ++ Ipv6.text ns ++ "]" else none
  | cs => if isSpecial then readName? cs else readOpaque? cs

end ClusterMembership.Url.Host
