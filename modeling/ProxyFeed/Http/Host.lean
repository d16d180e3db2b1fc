import ProxyFeed.Http.Message
import ProxyFeed.Text.Blank

/-!
# The host of a request

Which name the client used to reach the service: links point back to it.

## What is here

* `Host.ofHeaders` — the host without its port.  Behind a proxy the first entry of
  `X-Forwarded-Host` counts, else `Host`.
* `Host.stripPort` — a host text without port and brackets.  Only a single colon can set off a port;
  a text with several is an IPv6 address.
-/

set_option autoImplicit false
namespace ProxyFeed
namespace Host

/-- A text cut at its last colon. -/
def splitLastColon (cs : List Char) : Option (List Char × List Char) :=
  let port := (cs.reverse.takeWhile (· ≠ ':')).reverse
  match cs.reverse.dropWhile (· ≠ ':') with
  | _ :: name => some (name.reverse, port)
  | [] => none

/-- A host text without port and brackets. -/
def stripPort (cs : List Char) : List Char :=
  match cs with
  | '[' :: rest => rest.takeWhile (· ≠ ']')
  | _ =>
    match splitLastColon cs with
    | some (name, port) =>
      if !name.contains ':' && port.all (fun c => '0' ≤ c && c ≤ '9') then name else cs
    | none => cs

/-- The first entry of a comma-separated list, if it is not blank. -/
def firstEntry? (value : String) : Option (List Char) :=
  let entry := Blank.trim (value.toList.takeWhile (· ≠ ','))
  if entry = [] then none else some entry

/-- The host text of a request, port included. -/
def rawOfHeaders (headers : Headers) : List Char :=
  match (headers.text? "x-forwarded-host").bind firstEntry? with
  | some entry => entry
  | none => ((headers.text? "host").getD "").toList

/-- The host of a request, without its port. -/
def ofHeaders (headers : Headers) : String := String.ofList (stripPort (rawOfHeaders headers))

end Host
end ProxyFeed
