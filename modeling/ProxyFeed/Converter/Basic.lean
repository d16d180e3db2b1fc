import ProxyFeed.Converter.Url
import ProxyFeed.Failure
import ProxyFeed.Text.Blank

/-!
# The converter

A web service that turns a share link into a Clash document.

## What is here

* `Converter.requestUrl?` — the URL a link is sent to: the base URL with the link among its
  parameters.
* `Reply` — what comes back over the network, if anything does.
* `Converter.convert` — the document for a link, or the fault.
-/

set_option autoImplicit false
namespace ProxyFeed

/-- What the network brings back: a status and a body, which may break off. -/
structure Reply where
  status : Nat
  body : Option (List UInt8)
deriving DecidableEq, Repr

namespace Converter

/-- The parameters that ask for a Clash document of a link. -/
def params (link : String) : List (String × String) :=
  [("target", "clash"), ("url", link), ("insert", "false")]

/-- The URL a link is sent to. -/
def requestUrl? (base link : String) : Option Url :=
  (Url.parse? base).map (·.addParams (params link))

/-- The document in a reply; a status of 400 or more is a fault. -/
def document : Option Reply → Except Fault String
  | none => .error ⟨"Converter request failed", []⟩
  | some reply =>
    if 400 ≤ reply.status then .error ⟨"Converter returned an error status", []⟩
    else
      match reply.body with
      | none => .error ⟨"Failed to read converter response", []⟩
      | some bytes => .ok (String.ofList (Utf8.decodeLossy bytes))

/-- The document for a link, over a network that takes a URL to a reply. -/
def convert (send : Url → Option Reply) (base link : String) : Except Fault String :=
  match requestUrl? base link with
  | none => .error ⟨"Invalid converter URL " ++ base, []⟩
  | some url => document (send url)

end Converter
end ProxyFeed
