import ProxyFeed.Link.Security
import ProxyFeed.Proofs.Link.ParamSet
import Mathlib.Tactic.SplitIfs

/-!
# Where the fields of a link stand

The writers of transport and security fields put each field under a key, and leave every other key
as it was.  So all that is to be known of a writer is the field that it shows under a key: what a
set has there afterwards is that field, or what it had before.

## What is here

* `Transport.query?` and `Transport.document?` — the transport field that a query, or a document,
  shows under a key; `Transport.get?_writeQuery_eq` and `Transport.get?_writeDocument_eq` say that
  the writers put it there.
* `Transport.written_of_unknown` — a network of no known kind has no fields.
* `Security.common?` — the security field that both show; `Security.get?_writeCommon_eq`.
* `Security.identity?` — the TLS identity among them.
-/

set_option autoImplicit false
namespace ProxyFeed

namespace Transport

variable {network : Network} {key : String}

/-! ## Transport in a query -/

/-- The keys of transport fields in a query. -/
def queryKeys : List String :=
  ["path", "host", "headerType", "seed", "serviceName", "authority", "mode"]

/-- The field that a query shows under a key. -/
def query? (t : Transport) (network : Network) (key : String) : Option String :=
  match network with
  | .tcp =>
    if t.headerType = some httpHeader then
      if key = "path" then t.path
      else if key = "host" then t.host
      else if key = "headerType" then some httpHeader
      else none
    else none
  | .kcp => if key = "headerType" then t.headerType else if key = "seed" then t.seed else none
  | .ws | .httpUpgrade | .xhttp =>
    if key = "path" then t.path else if key = "host" then t.host else none
  | .grpc =>
    if key = "serviceName" then t.serviceName
    else if key = "authority" then t.authority
    else if key = "mode" ∧ t.multi then some "multi"
    else none
  | .other _ => none

/-- **The writer of a query puts each field under its key.** -/
theorem get?_writeQuery_eq (t : Transport) (network : Network) (out : ParamSet) (key : String) :
    (t.writeQuery network out).get? key =
      ((t.query? network key).map .text).or (out.get? key) := by
  cases network with
  | tcp =>
    rw [writeQuery, query?]
    split
    · simp only [ParamSet.get?_setText?, ParamSet.get?_setText]
      split_ifs <;> simp_all
    · rfl
  | kcp | ws | httpUpgrade | xhttp =>
    simp only [writeQuery, query?, ParamSet.get?_setText?]
    split_ifs <;> simp_all
  | grpc =>
    have optional : t.writeQuery .grpc out = ((out.setText? "serviceName" t.serviceName).setText?
        "authority" t.authority).setText? "mode" (if t.multi then some "multi" else none) := by
      rw [writeQuery]
      cases t.multi <;> rfl
    simp only [optional, query?, ParamSet.get?_setText?]
    split_ifs <;> simp_all
  | other tag => rfl

theorem query?_eq_none (h : key ∉ queryKeys) (t : Transport) (network : Network) :
    t.query? network key = none := by
  simp only [queryKeys, List.mem_cons, List.not_mem_nil, or_false, not_or] at h
  cases network <;> simp [query?, h]

theorem get?_writeQuery (h : key ∉ queryKeys) (t : Transport) (network : Network)
    (out : ParamSet) : (t.writeQuery network out).get? key = out.get? key := by
  rw [get?_writeQuery_eq, query?_eq_none h]
  rfl

/-! ## Transport in a document -/

/-- The keys of transport fields in a document. -/
def documentKeys : List String := ["type", "path", "host", "authority"]

/-- The field that a document shows under a key. -/
def document? (t : Transport) (network : Network) (key : String) : Option String :=
  match network with
  | .tcp =>
    if key = "type" then t.headerType
    else if key = "path" then t.path
    else if key = "host" then t.host
    else none
  | .kcp => if key = "type" then t.headerType else if key = "path" then t.seed else none
  | .ws | .httpUpgrade | .xhttp =>
    if key = "path" then t.path else if key = "host" then t.host else none
  | .grpc =>
    if key = "path" then t.serviceName
    else if key = "authority" then t.authority
    else if key = "type" ∧ t.multi then some "multi"
    else none
  | .other _ => none

/-- **The writer of a document puts each field under its key.** -/
theorem get?_writeDocument_eq (t : Transport) (network : Network) (out : ParamSet) (key : String) :
    (t.writeDocument network out).get? key =
      ((t.document? network key).map .text).or (out.get? key) := by
  cases network with
  | tcp | kcp | ws | httpUpgrade | xhttp =>
    simp only [writeDocument, document?, ParamSet.get?_setText?]
    split_ifs <;> simp_all
  | grpc =>
    have optional : t.writeDocument .grpc out = ((out.setText? "path" t.serviceName).setText?
        "authority" t.authority).setText? "type" (if t.multi then some "multi" else none) := by
      rw [writeDocument]
      cases t.multi <;> rfl
    simp only [optional, document?, ParamSet.get?_setText?]
    split_ifs <;> simp_all
  | other tag => rfl

theorem document?_eq_none (h : key ∉ documentKeys) (t : Transport) (network : Network) :
    t.document? network key = none := by
  simp only [documentKeys, List.mem_cons, List.not_mem_nil, or_false, not_or] at h
  cases network <;> simp [document?, h]

theorem get?_writeDocument (h : key ∉ documentKeys) (t : Transport) (network : Network)
    (out : ParamSet) : (t.writeDocument network out).get? key = out.get? key := by
  rw [get?_writeDocument_eq, document?_eq_none h]
  rfl

/-- **A network of no known kind has no fields**: a link shows nothing of it but its tag. -/
theorem written_of_unknown (unknown : network.isKnown = false) (t : Transport) (out : ParamSet) :
    t.writeQuery network out = out ∧ t.writeDocument network out = out := by
  cases network with
  | other tag => exact ⟨rfl, rfl⟩
  | tcp | kcp | ws | grpc | httpUpgrade | xhttp => cases unknown

end Transport

/-! ## Security -/

theorem SecurityMode.tag_injective : Function.Injective tag := by
  intro m m' same
  cases m <;> cases m' <;> simp [tag] at same ⊢

namespace Security

/-- The keys of security fields that queries and documents share. -/
def commonKeys : List String := ["alpn", "sni", "fp", "allowInsecure", "pbk", "sid", "spx"]

/-- The TLS identity in security fields, under the keys of a link. -/
def identity? (s : Security) (key : String) : Option String :=
  if key = "alpn" then s.alpn
  else if key = "sni" then s.sni
  else if key = "fp" then s.fp
  else if key = "allowInsecure" ∧ s.allowInsecure then some "1"
  else none

/-- The field that queries and documents show under a key. -/
def common? (s : Security) (key : String) : Option String :=
  if key = "pbk" then s.pbk
  else if key = "sid" then s.sid
  else if key = "spx" then s.spx
  else s.identity? key

/-- Leave to skip certificates is written as any other field. -/
theorem writeCommon_eq (s : Security) (out : ParamSet) : s.writeCommon out =
    ((((((out.setText? "alpn" s.alpn).setText? "sni" s.sni).setText? "fp" s.fp).setText?
      "allowInsecure" (if s.allowInsecure then some "1" else none)).setText?
        "pbk" s.pbk).setText? "sid" s.sid).setText? "spx" s.spx := by
  rw [writeCommon]
  cases s.allowInsecure <;> rfl

variable {key : String}

theorem common?_eq_none (h : key ∉ commonKeys) (s : Security) : s.common? key = none := by
  simp only [commonKeys, List.mem_cons, List.not_mem_nil, or_false, not_or] at h
  simp [common?, identity?, h]

/-- **The writers put each field that they share under its key.** -/
theorem get?_writeCommon_eq (s : Security) (out : ParamSet) (key : String) :
    (s.writeCommon out).get? key = ((s.common? key).map .text).or (out.get? key) := by
  by_cases named : key ∈ commonKeys
  · simp only [commonKeys, List.mem_cons, List.not_mem_nil, or_false] at named
    rcases named with rfl | rfl | rfl | rfl | rfl | rfl | rfl <;>
      simp [writeCommon_eq, ParamSet.get?_setText?, common?, identity?]
  · rw [common?_eq_none named]
    simp only [commonKeys, List.mem_cons, List.not_mem_nil, or_false, not_or] at named
    simp [writeCommon_eq, ParamSet.get?_setText?, named]

theorem get?_writeCommon (h : key ∉ commonKeys) (s : Security) (out : ParamSet) :
    (s.writeCommon out).get? key = out.get? key := by
  rw [get?_writeCommon_eq, common?_eq_none h]
  rfl

theorem get?_flow_writeQuery (s : Security) (out : ParamSet) :
    (s.writeQuery out).get? "flow" = (s.flow.map ParamValue.text).or (out.get? "flow") := by
  rw [writeQuery, ParamSet.get?_setText?_self, get?_writeCommon (by decide),
    ParamSet.get?_setText_of_ne (by decide)]

theorem get?_security_writeQuery (s : Security) (out : ParamSet) :
    (s.writeQuery out).get? "security" = some (.text s.mode.tag) := by
  rw [writeQuery, ParamSet.get?_setText?_of_ne (by decide), get?_writeCommon (by decide),
    ParamSet.get?_setText_self]

theorem get?_writeDocument (tls : key ≠ "tls") (h : key ∉ commonKeys) (s : Security)
    (out : ParamSet) : (s.writeDocument out).get? key = out.get? key := by
  rw [writeDocument, get?_writeCommon h]
  split
  · rfl
  · rw [ParamSet.get?_setText_of_ne tls]

end Security
end ProxyFeed
