import EndpointClient.Http.Uri
import EndpointClient.Net.Address

/-!
# EndpointClient.Net.PinnedResolver

A resolver that answers every name with one address. The name stays in the request; only the
connection goes to the address.

* `lookupName?` is the name that is looked up for a target, if one is.
-/

namespace EndpointClient

/-- The name that is looked up for a target: its host, unless that is an address, or the scheme is
none of the web. -/
def lookupName? (u : Http.Uri) : Option String :=
  if u.scheme = some "http".toList || u.scheme = some "https".toList then
    (u.host?.filter fun cs =>
      cs.head? ≠ some '[' && (IpAddress.parse? (String.ofList cs)).isNone).map String.ofList
  else none

structure PinnedResolver where
  address : IpAddress

namespace PinnedResolver

/-- The answer for a name: the address, with port 0 for the port of the target. -/
def resolve (r : PinnedResolver) (_name : String) : List SocketAddress := [⟨r.address, 0⟩]

end PinnedResolver

end EndpointClient
