import ProxyFeed.Proofs.Link.ParamHistory

/-!
# Transport fields in both kinds of links

The fields of a transport are written into the query of a link and into the document of a vmess
link, under keys that differ and with omissions of their own.  The document tells what is in the
query.  On tcp it tells no other path or host than that, since the reader takes them only from
a block that disguises tcp as HTTP, however malformed the settings are.

## What is here

* `Transport.ofStream_plain` — tcp without the disguise has neither a path nor a host.
* `Network.queryField` — the field of a query, told from a document.
* `Transport.SameFields` — fields of a document and of a query that say the same;
  `Transport.sameFields` has them for all stream settings.
-/

set_option autoImplicit false
namespace ProxyFeed

/-- The field of a query that belongs to what a document shows. -/
def Network.queryField (network : Network) (document : String → Option ParamValue) (key : String) :
    Option ParamValue :=
  match network with
  | .tcp =>
    if document "type" = some (.text "http") then
      if key = "path" then document "path"
      else if key = "host" then document "host"
      else if key = "headerType" then some (.text "http")
      else none
    else none
  | .kcp =>
    if key = "headerType" then document "type"
    else if key = "seed" then document "path"
    else none
  | .ws | .httpUpgrade | .xhttp => document key
  | .grpc =>
    if key = "serviceName" then document "path"
    else if key = "authority" then document "authority"
    else if key = "mode" ∧ document "type" = some (.text "multi") then some (.text "multi")
    else none
  | .other _ => none

namespace Transport

/-! ## The reader -/

theorem ofTcp_plain (block : Json) (plain : (ofTcp block).headerType ≠ some httpHeader) :
    (ofTcp block).path = none ∧ (ofTcp block).host = none := by
  cases found : block.get? "header" with
  | none => simp [ofTcp, found]
  | some header =>
    cases asked : header.get? "request" with
    | none => simp [ofTcp, found, asked]
    | some request =>
      simp only [ofTcp, found, asked] at plain ⊢
      split at plain
      · next disguise => exact absurd disguise plain
      · next other =>
        rw [if_neg other]
        exact ⟨rfl, rfl⟩

/-- **Only the disguise as HTTP has a path and a host on tcp.** -/
theorem ofStream_plain (stream : Json)
    (plain : (ofStream stream .tcp).headerType ≠ some httpHeader) :
    (ofStream stream .tcp).path = none ∧ (ofStream stream .tcp).host = none := by
  rw [ofStream] at plain ⊢
  split at plain
  · exact ofTcp_plain _ plain
  · exact ⟨rfl, rfl⟩

/-! ## Both -/

/-- The transport fields of a document. -/
def documentFields (stream : Json) : ParamSet :=
  (ofStream stream (Network.ofStream stream)).writeDocument (Network.ofStream stream) .empty

/-- The transport fields of a query. -/
def queryFields (stream : Json) : ParamSet :=
  (ofStream stream (Network.ofStream stream)).writeQuery (Network.ofStream stream) .empty

theorem get?_documentFields (stream : Json) (key : String) :
    (documentFields stream).get? key = ((ofStream stream (Network.ofStream stream)).document?
      (Network.ofStream stream) key).map .text := by
  rw [documentFields, get?_writeDocument_eq, ParamSet.get?_empty, Option.or_none]

theorem get?_queryFields (stream : Json) (key : String) :
    (queryFields stream).get? key = ((ofStream stream (Network.ofStream stream)).query?
      (Network.ofStream stream) key).map .text := by
  rw [queryFields, get?_writeQuery_eq, ParamSet.get?_empty, Option.or_none]

/-- Every field of a query is told from the document, whatever the settings. -/
theorem query?_eq_queryField (t : Transport) (network : Network) (key : String) :
    (t.query? network key).map ParamValue.text =
      network.queryField (fun key => (t.document? network key).map .text) key := by
  cases network with
  | tcp =>
    by_cases disguise : t.headerType = some "http"
    · simp only [query?, Network.queryField, document?, httpHeader, disguise]
      split_ifs <;> simp_all
    · simp [query?, Network.queryField, document?, httpHeader, disguise]
  | kcp =>
    simp only [query?, Network.queryField, document?]
    split_ifs <;> simp_all
  | ws | httpUpgrade | xhttp => rfl
  | grpc =>
    simp only [query?, Network.queryField, document?]
    split_ifs <;> simp_all
  | other tag => rfl

/-- Transport fields in a document and in a query that say the same. -/
structure SameFields (network : Network) (document query : ParamSet) : Prop where
  /-- The document tells every field of the query, and of every other key that it is missing. -/
  field : ∀ key, query.get? key = network.queryField document.get? key
  /-- Without the disguise as HTTP, tcp has nothing in the query, and neither a path nor a host in
  the document. -/
  plain : network = .tcp → document.get? "type" ≠ some (.text "http") →
    query = .empty ∧ document.get? "path" = none ∧ document.get? "host" = none
  shared : network = .ws ∨ network = .httpUpgrade ∨ network = .xhttp → query = document
  other : ∀ tag, network = .other tag → query = .empty ∧ document = .empty

theorem sameFields (stream : Json) :
    SameFields (Network.ofStream stream) (documentFields stream) (queryFields stream) := by
  constructor
  case field =>
    intro key
    have shown : (documentFields stream).get? = fun key => _ :=
      funext (get?_documentFields stream)
    rw [get?_queryFields, query?_eq_queryField, shown]
  case plain =>
    intro tcp plain
    rw [get?_documentFields, tcp] at plain
    have plain : (ofStream stream .tcp).headerType ≠ some httpHeader := by
      simpa [document?, httpHeader] using plain
    obtain ⟨no_path, no_host⟩ := ofStream_plain stream plain
    refine ⟨?_, ?_, ?_⟩
    · rw [queryFields, tcp, writeQuery, if_neg plain]
    · rw [get?_documentFields, tcp]
      simp [document?, no_path]
    · rw [get?_documentFields, tcp]
      simp [document?, no_host]
  case shared =>
    rw [queryFields, documentFields]
    rintro (network | network | network) <;> rw [network] <;> rfl
  case other =>
    intro tag network
    rw [queryFields, documentFields, network]
    exact written_of_unknown rfl _ _

theorem distinct_queryFields (stream : Json) : (queryFields stream).Distinct :=
  distinct_writeQuery ParamSet.distinct_empty _ _

/-- **The two serializers agree.**  What a query says of the transport is told by the document, for
all stream settings; so settings with one network and the same document fields have the same query
fields, and the same text of them. -/
theorem serializers_agree :
    (∀ stream : Json,
      SameFields (Network.ofStream stream) (documentFields stream) (queryFields stream)) ∧
    ∀ stream stream' : Json, Network.ofStream stream = Network.ofStream stream' →
      (∀ key, (documentFields stream).get? key = (documentFields stream').get? key) →
      (∀ key, (queryFields stream).get? key = (queryFields stream').get? key) ∧
        (queryFields stream).query = (queryFields stream').query := by
  refine ⟨sameFields, fun stream stream' network same => ?_⟩
  have fields (key : String) : (queryFields stream).get? key = (queryFields stream').get? key := by
    rw [(sameFields stream).field, (sameFields stream').field, network, funext same]
  have listed := (distinct_queryFields stream).sorted_eq (distinct_queryFields stream') fields
  exact ⟨fields, by rw [ParamSet.query, ParamSet.query, listed]⟩

/-- Settings of tcp that disguise it as HTTP. -/
def disguised : Json :=
  .obj [("network", .str "tcp"), ("tcpSettings", .obj [("header", .obj [("type", .str "http"),
    ("request", .obj [("path", .arr [.str "/a", .str "/b"]),
      ("headers", .obj [("Host", .arr [.str "cdn.example.com"])])])])])]

/-- The same disguise, where the network is not named and the header has no list. -/
def disguisedAgain : Json :=
  .obj [("tcpSettings", .obj [("header", .obj [("type", .str "http"),
    ("request", .obj [("path", .arr [.str "/a", .null]),
      ("headers", .obj [("host", .str "cdn.example.com")])])])])]

theorem serializers_agree_disguised :
    (∀ key, (documentFields disguised).get? key = (documentFields disguisedAgain).get? key) ∧
    (queryFields disguisedAgain).query = (queryFields disguised).query ∧
    (queryFields disguised).query = "headerType=http&host=cdn.example.com&path=%2Fa" := by
  have same : documentFields disguised = documentFields disguisedAgain := by decide +kernel
  have same (key : String) : (documentFields disguised).get? key =
      (documentFields disguisedAgain).get? key := by rw [same]
  have agree := serializers_agree.2 disguised disguisedAgain (by decide +kernel) same
  exact ⟨same, agree.2.symm, by decide +kernel⟩

end Transport
end ProxyFeed
