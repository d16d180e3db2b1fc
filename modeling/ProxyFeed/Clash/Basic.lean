import ProxyFeed.Cache.Basic
import ProxyFeed.Digest.Sha256
import ProxyFeed.Fallback
import ProxyFeed.Link.Basic
import ProxyFeed.Text.Replace

/-!
# Clash documents

A client's link is turned into a Clash document by a converter.  The document is kept under the
fingerprint of the link and made anew only when the link changes.

The link handed to the converter carries a placeholder port, which is swapped back afterwards, and
its spider path comes from a seed of the e-mail: the same configuration always has the same
fingerprint.

## What is here

The work on a request falls into steps, each of which touches the world at most once:

* `Clash.prepare` — looks up the inbound and renders the link.
* `Clash.cachedAnswer?` — the document in an entry, if it was made from that link.
* `Clash.restorePort` — the converter's text with the inbound's own port.
* `Clash.record` — writes the document to the cache; a failed write changes nothing.
* `Clash.serve` — the steps in a row, and an `Outcome` that tells what was answered, what was sent
  to the converter, and the cache afterwards.
-/

set_option autoImplicit false
namespace ProxyFeed

/-- How links for Clash documents are rendered. -/
structure ClashOptions where
  remarkModel : String
  /-- The placeholder port. -/
  hiddenPort : UInt16
deriving DecidableEq, Repr

namespace Clash

/-- The fingerprint of a link. -/
def fingerprint (link : String) : String := Sha256.hex (utf8 link)

/-- A number of bytes as one number, most significant first. -/
def ofBytes (bs : List UInt8) : UInt64 := bs.foldl (fun n b => n * 256 + b.toUInt64) 0

/-- The seed of an e-mail: the first eight bytes of its digest. -/
def seedOf (email : String) : UInt64 := ofBytes ((Sha256.bytes (utf8 email)).take 8)

/-- What links take from a request to a host. -/
def context (options : ClashOptions) (host : String) : LinkContext :=
  ⟨host, some options.hiddenPort, options.remarkModel, false⟩

/-- The link of an enabled client of an inbound; empty if there is none. -/
def renderLink (options : ClashOptions) (inbound : Inbound) (email host : String) : String :=
  match inbound.clients? with
  | none => ""
  | some clients =>
    (Link.generate (context options host) inbound email (clients.filter (·.enable))
      (ChaCha.ofSeed (seedOf email))).1

/-- A link ready to be converted, and the port its document has to show. -/
structure Prepared where
  link : String
  port : Int64
deriving DecidableEq, Repr

/-- Looks up the inbound of an e-mail and renders its link. -/
def prepare (store : InboundStore) (options : ClashOptions) (email host : String) :
    Except Failure Prepared :=
  match store.byClientEmail email with
  | .error fault => .error (.store fault)
  | .ok none => .error (.notFound ("client " ++ email))
  | .ok (some inbound) =>
    let outside := Fallback.resolve store inbound
    let link := renderLink options outside email host
    if link = "" then .error (.notFound ("link for client " ++ email))
    else .ok ⟨link, outside.port⟩

/-- The document in an entry, if it was made from the link with this fingerprint. -/
def cachedAnswer? (print : String) (cached : Option CacheEntry) : Option String :=
  match cached with
  | some e => if e.urlFingerprint = print ∧ e.yamlContent ≠ "" then some e.yamlContent else none
  | none => none

/-- A converted text with the placeholder port swapped for the real one. -/
def restorePort (options : ClashOptions) (port : Int64) (text : String) : String :=
  replaceAll text (toString options.hiddenPort.toNat) (toString port.toInt)

/-- The entry to write: the one found before, renewed, or a new one. -/
def renewed (cached : Option CacheEntry) (email print document : String) (now : Int64) :
    CacheEntry :=
  match cached with
  | some e => { e with urlFingerprint := print, yamlContent := document, updatedAt := now }
  | none => ⟨0, email, print, document, now, now⟩

/-- Writes a document to the cache; a failed write changes nothing. -/
def record {κ : Type} (cache : CacheStore κ) (state : κ) (cached : Option CacheEntry)
    (email print document : String) (now : Int64) : κ :=
  let entry := renewed cached email print document now
  match cached with
  | some _ =>
    match cache.update state entry with
    | .ok next => next
    | .error _ => state
  | none =>
    match cache.insert state entry with
    | .ok (_, next) => next
    | .error _ => state

/-- What came of a request: the answer, the link sent to the converter, and the cache. -/
structure Outcome (κ : Type) where
  answer : Except Failure String
  sent : Option String
  cache : κ

/-- Answers a request for the document of an e-mail. -/
def serve {κ : Type} (store : InboundStore) (cache : CacheStore κ)
    (convert : String → Except Fault String) (options : ClashOptions) (now : Int64) (state : κ)
    (email host : String) : Outcome κ :=
  match prepare store options email host with
  | .error failure => ⟨.error failure, none, state⟩
  | .ok prepared =>
    let print := fingerprint prepared.link
    match cache.find? state email with
    | .error fault => ⟨.error (.store fault), none, state⟩
    | .ok cached =>
      match cachedAnswer? print cached with
      | some document => ⟨.ok document, none, state⟩
      | none =>
        match convert prepared.link with
        | .error fault => ⟨.error (.conversion fault), some prepared.link, state⟩
        | .ok text =>
          let document := restorePort options prepared.port text
          ⟨.ok document, some prepared.link, record cache state cached email print document now⟩

end Clash
end ProxyFeed
