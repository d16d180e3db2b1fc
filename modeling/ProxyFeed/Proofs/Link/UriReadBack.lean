import ProxyFeed.Link.Reader
import ProxyFeed.Proofs.Link.ParamOrder
import ProxyFeed.Proofs.Link.Shown
import Mathlib.Data.List.Forall2
import Mathlib.Data.List.Infix

/-!
# Links in URI form read back

A link in URI form is put together from four encodings, each of which has to keep clear of the
delimiters around it.  They do: every delimiter stands exactly once in a link, so a reader that cuts
there finds the parts, and decoding them gives back what the link was made from.

The one part that is not encoded is the address, so it has to keep clear of the delimiters by
itself.

## What is here

* `Cut.first?_append` and `Cut.last?_append` — cutting undoes joining.
* `Uri.IsPlain` — an address without a delimiter.
* `Uri.pieces?_text` and `Uri.read?_text` — the parts of one link, as they stand and decoded.
* `ParamSet.Lists` — a list of pairs holds the entries of a set, in increasing order of the keys.
* `Link.Shows` — what a credential says of the client.
* `Link.ReadsBack` — what a reader finds in a link.
* `Link.uri_lines_read_back` — all links of a client.
-/

set_option autoImplicit false
namespace ProxyFeed

/-! ## Cutting -/

namespace Cut

theorem ne_of_not_mem {sep : Char} {cs : List Char} (h : sep ∉ cs) :
    ∀ c ∈ cs, decide (c ≠ sep) = true := by
  intro c hc
  have ne : c ≠ sep := fun same => h (same ▸ hc)
  simpa using ne

theorem first?_append {sep : Char} {before : List Char} (h : sep ∉ before) (after : List Char) :
    first? sep (before ++ sep :: after) = some (before, after) := by
  rw [first?, List.dropWhile_append_of_pos (ne_of_not_mem h),
    List.takeWhile_append_of_pos (ne_of_not_mem h)]
  simp

theorem first?_of_not_mem {sep : Char} {cs : List Char} (h : sep ∉ cs) : first? sep cs = none := by
  rw [first?, List.dropWhile_eq_nil_iff.2 (ne_of_not_mem h)]

theorem last?_append {sep : Char} {after : List Char} (h : sep ∉ after) (before : List Char) :
    last? sep (before ++ sep :: after) = some (before, after) := by
  have reversed : (before ++ sep :: after).reverse = after.reverse ++ sep :: before.reverse := by
    simp
  rw [last?, reversed, first?_append (by simpa using h)]
  simp

theorem last?_of_not_mem {sep : Char} {cs : List Char} (h : sep ∉ cs) : last? sep cs = none := by
  rw [last?, first?_of_not_mem (by simpa using h), Option.map_none]

/-- A text with a separator can be cut at the last one. -/
theorem exists_append_of_mem {sep : Char} {cs : List Char} (h : sep ∈ cs) :
    ∃ before after, cs = before ++ sep :: after ∧ sep ∉ after := by
  obtain ⟨after, before, shape, fresh⟩ := List.eq_append_cons_of_mem (List.mem_reverse.2 h)
  refine ⟨before.reverse, after.reverse, ?_, by simpa using fresh⟩
  simpa using congrArg List.reverse shape

end Cut

theorem textOfUtf8?_utf8 (s : String) : textOfUtf8? (utf8 s) = some s := by
  rw [textOfUtf8?, utf8, Utf8.decode?_encode, Option.map_some, String.ofList_toList]

/-- An integer is written with digits, and a sign if it is negative. -/
theorem not_mem_toString_int {c : Char} (digit : NumberText.isDigit c = false) (sign : c ≠ '-')
    (n : Int) : c ∉ (toString n).toList := by
  have digits : c ∉ Nat.toDigits 10 n.natAbs := by
    intro h
    cases digit.symm.trans (NumberText.isDigit_of_mem_toDigits h)
  have written := Json.Number.text_int n
  rw [Json.Number.text] at written
  rw [written]
  split
  · simpa [sign] using digits
  · exact digits

/-! ## Parameters -/

/-- A list of pairs holds the entries of a set, by strictly increasing keys. -/
structure ParamSet.Lists (s : ParamSet) (pairs : List (String × String)) : Prop where
  entries : pairs.Perm (s.entries.map fun e => (e.1, e.2.queryText))
  increasing : pairs.Pairwise fun p q => utf8 p.1 < utf8 q.1

/-- The pairs in the query of a set. -/
def ParamSet.pairs (s : ParamSet) : List (String × String) :=
  s.sorted.map fun e => (e.1, e.2.queryText)

theorem ParamSet.Distinct.lists {s : ParamSet} (h : s.Distinct) : s.Lists s.pairs :=
  ⟨s.sorted_perm.map _, List.pairwise_map.2 h.increasing⟩

theorem ParamSet.Distinct.nodup_pairs {s : ParamSet} (h : s.Distinct) :
    (s.pairs.map (·.1)).Nodup := by
  rw [pairs, List.map_map]
  exact (s.sorted_perm.map _).nodup_iff.2 h

/-- A pair is listed exactly if its key has its value. -/
theorem ParamSet.Distinct.mem_pairs_iff {s : ParamSet} (h : s.Distinct) {key value : String} :
    (key, value) ∈ s.pairs ↔ (s.get? key).map ParamValue.queryText = some value := by
  rw [pairs, List.mem_map, Option.map_eq_some_iff]
  constructor
  · rintro ⟨e, listed, same⟩
    obtain ⟨rfl, rfl⟩ := Prod.mk.inj same
    exact ⟨e.2, (h.mem_sorted_iff e.1 e.2).1 listed, rfl⟩
  · rintro ⟨v, there, rfl⟩
    exact ⟨(key, v), (h.mem_sorted_iff key v).2 there, rfl⟩

namespace Uri

/-- The pairs of a query can be read back. -/
theorem mapM_param?_query (s : ParamSet) :
    (Form.decode s.query.toList).mapM param? = some s.pairs := by
  have one : ∀ p : String × String, param? (utf8 p.1, utf8 p.2) = some p := by
    intro p
    simp [param?, textOfUtf8?_utf8]
  rw [ParamSet.query, String.toList_ofList, Form.decode_encode, ← ParamSet.pairs]
  induction s.pairs with
  | nil => rfl
  | cons p ps ih => simp [List.mapM_cons, one, ih]

/-! ## One link -/

/-- The delimiters of a link, and the line break between links. -/
def delimiters : List Char := ['/', '?', '#', '@', '[', ']', '\n']

/-- An address without a delimiter. -/
def IsPlain (address : String) : Prop := ∀ c ∈ delimiters, c ∉ address.toList

instance (address : String) : Decidable (IsPlain address) :=
  inferInstanceAs (Decidable (∀ c ∈ delimiters, c ∉ address.toList))

/-- A plain address is put in brackets exactly if it has a colon. -/
theorem host_of_isPlain {address : String} (plain : IsPlain address) :
    host address = if ':' ∈ address.toList then "[" ++ address ++ "]" else address := by
  have bracket : address.toList.head? ≠ some '[' := by
    intro h
    exact plain '[' (by decide) (List.mem_of_mem_head? h)
  simp [host, bracket]

/-- A delimiter other than a bracket does not occur in the host of a plain address. -/
theorem not_mem_host {address : String} (plain : IsPlain address) {c : Char} (hc : c ∈ delimiters)
    (bracket : c ∉ ['[', ']']) : c ∉ (host address).toList := by
  have absent := plain c hc
  simp only [List.mem_cons, List.not_mem_nil, or_false, not_or] at bracket
  rw [host_of_isPlain plain]
  split
  · simp [bracket, absent]
  · exact absent

variable {u : Uri}

/-- The text of a link, part by part. -/
theorem toList_text (u : Uri) : u.text.toList =
    u.scheme.toList ++ ':' :: '/' :: '/' :: (Percent.userinfo u.credential ++ '@' ::
      ((host u.address).toList ++ ':' :: ((toString u.port.toInt).toList ++ '?' ::
        (u.params.query.toList ++ '#' :: Percent.fragment u.remark)))) := by
  have mark : "://".toList = [':', '/', '/'] := rfl
  have at_ : "@".toList = ['@'] := rfl
  have colon : ":".toList = [':'] := rfl
  have question : "?".toList = ['?'] := rfl
  have hash : "#".toList = ['#'] := rfl
  simp only [text, String.toList_append, String.toList_ofList, mark, at_, colon, question, hash,
    List.append_assoc, List.cons_append, List.nil_append]

/-- The text of a link before its query. -/
def beforeQuery (u : Uri) : List Char :=
  u.scheme.toList ++ ':' :: '/' :: '/' :: (Percent.userinfo u.credential ++ '@' ::
    ((host u.address).toList ++ ':' :: (toString u.port.toInt).toList))

/-- The name of a link is found from its end, whatever its address, … -/
theorem last?_hash_text (u : Uri) : Cut.last? '#' u.text.toList =
    some (u.beforeQuery ++ '?' :: u.params.query.toList, Percent.fragment u.remark) := by
  have hash_free : '#' ∉ Percent.fragment u.remark :=
    Percent.not_mem_encode (by decide) (by decide) _
  have shape : u.text.toList = (u.beforeQuery ++ '?' :: u.params.query.toList) ++
      '#' :: Percent.fragment u.remark := by
    rw [toList_text, beforeQuery]
    simp
  rw [shape, Cut.last?_append hash_free]

/-- … and so is its query. -/
theorem last?_question_text (u : Uri) : Cut.last? '?' (u.beforeQuery ++ '?' ::
    u.params.query.toList) = some (u.beforeQuery, u.params.query.toList) :=
  Cut.last?_append (Link.not_mem_query (by decide) (by decide) (by decide) _) _

/-- A scheme is made of letters. -/
def IsScheme (scheme : String) : Prop := ∀ c ∈ scheme.toList, Percent.isAlphanumeric c = true

theorem not_mem_scheme {scheme : String} (letters : IsScheme scheme) {c : Char}
    (h : Percent.isAlphanumeric c = false) : c ∉ scheme.toList := by
  intro hc
  cases h.symm.trans (letters c hc)

/-- **The parts of a link are found by cutting at the delimiters.** -/
theorem pieces?_text (letters : IsScheme u.scheme) (plain : IsPlain u.address) :
    pieces? u.text.toList = some ⟨u.scheme.toList, Percent.userinfo u.credential,
      (host u.address).toList, (toString u.port.toInt).toList, u.params.query.toList,
      Percent.fragment u.remark⟩ := by
  have scheme_colon : ':' ∉ u.scheme.toList := not_mem_scheme letters (by decide)
  have at_free : '@' ∉ u.scheme.toList ++ ':' :: '/' :: '/' :: Percent.userinfo u.credential := by
    have scheme_at : '@' ∉ u.scheme.toList := not_mem_scheme letters (by decide)
    have info := Link.not_mem_userinfo (c := '@') (by decide) (by decide) u.credential
    simp [scheme_at, info]
  have question_free : '?' ∉ (host u.address).toList ++ ':' :: (toString u.port.toInt).toList := by
    have host_free := not_mem_host plain (c := '?') (by decide) (by decide)
    have port_free := not_mem_toString_int (c := '?') (by decide) (by decide) u.port.toInt
    rw [List.mem_append, List.mem_cons, not_or, not_or]
    exact ⟨host_free, by decide, port_free⟩
  have hash_free := Link.not_mem_query (c := '#') (by decide) (by decide) (by decide) u.params
  have colon_free := not_mem_toString_int (c := ':') (by decide) (by decide) u.port.toInt
  have shape : u.text.toList =
      (u.scheme.toList ++ ':' :: '/' :: '/' :: Percent.userinfo u.credential) ++ '@' ::
        (((host u.address).toList ++ ':' :: (toString u.port.toInt).toList) ++ '?' ::
          (u.params.query.toList ++ '#' :: Percent.fragment u.remark)) := by
    rw [toList_text]
    simp
  rw [pieces?, shape, Cut.first?_append at_free]
  simp only [Option.bind_eq_bind, Option.bind_some, Cut.first?_append question_free,
    Cut.first?_append hash_free, Cut.last?_append colon_free, Cut.first?_append scheme_colon]
  rfl

/-- **A link says what it was made from.** -/
theorem read?_text (letters : IsScheme u.scheme) (plain : IsPlain u.address) :
    read? u.text.toList = some ⟨u.scheme, u.credential, host u.address, toString u.port.toInt,
      u.params.pairs, u.remark⟩ := by
  simp [read?, pieces?_text letters plain, Percent.decode_userinfo, Percent.decode_fragment,
    textOfUtf8?_utf8, mapM_param?_query]

/-- The characters that a link is cut at, and the line break. -/
def cuts : List Char := ['@', '?', '#', '\n']

/-- No encoding keeps a character that a link is cut at. -/
theorem cuts_encoded : ∀ c ∈ cuts, Percent.isAlphanumeric c = false ∧
    Percent.inUserinfo c = false ∧ Percent.inFragment c = false ∧ Form.isKept c = false ∧
    Percent.isEscapeChar c = false ∧ c ∉ ['+', '&', '='] := by
  decide

/-- Nor is it part of a number, a bracket, or one of the other marks between the parts. -/
theorem cuts_marks : ∀ c ∈ cuts, NumberText.isDigit c = false ∧ c ≠ '-' ∧ c ∈ delimiters ∧
    c ∉ ['[', ']'] ∧ c ≠ ':' ∧ c ≠ '/' := by
  decide

/-- **A link is cut at one place for each delimiter**, and has no line break. -/
theorem count_text (letters : IsScheme u.scheme) (plain : IsPlain u.address) {c : Char}
    (hc : c ∈ cuts) : u.text.toList.count c = ['@', '?', '#'].count c := by
  obtain ⟨letter, inUserinfo, inFragment, inForm, escape, separator⟩ := cuts_encoded c hc
  obtain ⟨digit, sign, delimiter, bracket, colon, slash⟩ := cuts_marks c hc
  have scheme : c ∉ u.scheme.toList := not_mem_scheme letters letter
  have info : c ∉ Percent.userinfo u.credential := Link.not_mem_userinfo inUserinfo escape _
  have address : c ∉ (host u.address).toList := not_mem_host plain delimiter bracket
  have port : c ∉ (toString u.port.toInt).toList := not_mem_toString_int digit sign _
  have query : c ∉ u.params.query.toList := Link.not_mem_query inForm escape separator _
  have fragment : c ∉ Percent.fragment u.remark := Percent.not_mem_encode inFragment escape _
  rw [toList_text]
  simp only [List.count_append, List.count_cons, List.count_nil,
    List.count_eq_zero.2 scheme, List.count_eq_zero.2 info, List.count_eq_zero.2 address,
    List.count_eq_zero.2 port, List.count_eq_zero.2 query, List.count_eq_zero.2 fragment,
    beq_eq_false_iff_ne.2 colon.symm, beq_eq_false_iff_ne.2 slash.symm]
  simp only [Bool.false_eq_true, if_false]
  omega

/-- An address without a line break is all it takes for a link without one. -/
theorem unbroken_text (letters : IsScheme u.scheme) (address : '\n' ∉ u.address.toList) :
    '\n' ∉ u.text.toList := by
  have scheme : '\n' ∉ u.scheme.toList := not_mem_scheme letters (by decide)
  have info : '\n' ∉ Percent.userinfo u.credential :=
    Link.not_mem_userinfo (by decide) (by decide) _
  have host_free : '\n' ∉ (host u.address).toList := by
    rw [host]
    split
    · simp [address]
    · exact address
  have port : '\n' ∉ (toString u.port.toInt).toList :=
    not_mem_toString_int (by decide) (by decide) _
  have query : '\n' ∉ u.params.query.toList :=
    Link.not_mem_query (by decide) (by decide) (by decide) _
  have fragment : '\n' ∉ Percent.fragment u.remark :=
    Percent.not_mem_encode (by decide) (by decide) _
  rw [toList_text]
  simp only [List.mem_append, List.mem_cons, not_or]
  exact ⟨scheme, by decide, by decide, by decide, info, by decide, host_free, by decide, port,
    by decide, query, by decide, fragment⟩

theorem newline_not_mem_text (letters : IsScheme u.scheme) (plain : IsPlain u.address) :
    '\n' ∉ u.text.toList :=
  unbroken_text letters (plain '\n' (by decide))

end Uri

/-! ## The links of a client -/

namespace Link

theorem occursIn_iff (pattern cs : List Char) : occursIn pattern cs = true ↔ pattern <:+: cs := by
  induction cs with
  | nil => simp [occursIn]
  | cons c cs ih => simp [occursIn, List.infix_cons_iff, ih]

/-- The scheme of a protocol whose links have URI form. -/
def uriScheme? : Protocol → Option String
  | .vmess => none
  | .vless => some "vless"
  | .trojan => some "trojan"
  | .shadowsocks => some "ss"

theorem isScheme_uriScheme {protocol : Protocol} {scheme : String}
    (h : uriScheme? protocol = some scheme) : Uri.IsScheme scheme := by
  rw [Uri.IsScheme]
  cases protocol with
  | vmess => cases h
  | vless => cases h; decide
  | trojan => cases h; decide
  | shadowsocks => cases h; decide

/-- The parameters of a link in URI form. -/
def params (protocol : Protocol) (stream : Json) (client : Client) (spx : String) (e : Endpoint) :
    ParamSet :=
  match protocol with
  | .shadowsocks =>
    let security := Security.ofStream stream .tlsOnly spx
    shadowsocksParams (uriBase stream security) security e
  | _ =>
    let security := clientSecurity stream client spx
    uriParams (uriBase stream security) security e

theorem distinct_params (protocol : Protocol) (stream : Json) (client : Client) (spx : String)
    (e : Endpoint) : (params protocol stream client spx e).Distinct := by
  cases protocol with
  | shadowsocks => exact distinct_shadowsocksParams _ _ _
  | vmess | vless | trojan => exact distinct_uriParams _ _ _

/-- What a credential says of the client: its id, its password, or the method and the secret of
shadowsocks, which stand in base64. -/
def Shows (inbound : Inbound) (client : Client) (credential : String) : Protocol → Prop
  | .vmess => False
  | .vless => credential = client.id
  | .trojan => credential = client.password
  | .shadowsocks => ∃ method password,
      shadowsocksServer? inbound.settings = some (method, password) ∧
      (Base64.decode? credential.toList).bind textOfUtf8? = some (method ++ ":" ++
        if "2022".toList <:+: method.toList ∨ client.password = "" then password
        else client.password)

theorem shows_shadowsocksCredential {inbound : Inbound} {client : Client} {credential : String}
    (h : shadowsocksCredential? inbound client = some credential) :
    Shows inbound client credential .shadowsocks := by
  rw [shadowsocksCredential?_eq, Option.map_eq_some_iff] at h
  obtain ⟨⟨method, password⟩, server, rfl⟩ := h
  refine ⟨method, password, server, ?_⟩
  simp only [base64, String.toList_ofList, Base64.decode?_encode, Option.bind_some,
    textOfUtf8?_utf8, shadowsocksSecret, occursIn_iff]

/-- The links in URI form are made from a scheme, a credential, and the parameters. -/
theorem lines_eq_uris {inbound : Inbound} {protocol : Protocol} {client : Client} {scheme : String}
    (uri : uriScheme? protocol = some scheme)
    (server : protocol = .shadowsocks → (shadowsocksServer? inbound.settings).isSome)
    (ctx : LinkContext) (stream : Json) (spx : String) :
    ∃ credential, Shows inbound client credential protocol ∧
      lines ctx inbound protocol stream client spx =
        (Endpoint.all ctx inbound stream).map fun e => Uri.text ⟨scheme, credential, e.address,
          e.port, params protocol stream client spx e, remark ctx inbound client e⟩ := by
  cases protocol with
  | vmess => cases uri
  | vless =>
    cases uri
    exact ⟨client.id, rfl, uri_eq_map ctx inbound stream client spx _ _⟩
  | trojan =>
    cases uri
    exact ⟨client.password, rfl, uri_eq_map ctx inbound stream client spx _ _⟩
  | shadowsocks =>
    cases uri
    obtain ⟨server, found⟩ := Option.isSome_iff_exists.1 (server rfl)
    have credential := shadowsocksCredential?_eq inbound client
    rw [found, Option.map_some] at credential
    refine ⟨_, shows_shadowsocksCredential credential, ?_⟩
    rw [lines, shadowsocks_eq_map]
    simp only [credential]
    rfl

/-- What a reader finds in a link in URI form. -/
structure ReadsBack (scheme credential : String) (e : Endpoint) (params : ParamSet)
    (remark : String) (line : List Char) : Prop where
  one_cut : ∀ c ∈ ['@', '?', '#'], line.count c = 1
  reading : ∃ pairs, params.Lists pairs ∧ Uri.read? line = some ⟨scheme, credential,
    if ':' ∈ e.address.toList then "[" ++ e.address ++ "]" else e.address,
    toString e.port.toInt, pairs, remark⟩

theorem readsBack_text {scheme : String} (letters : Uri.IsScheme scheme) (credential : String)
    {e : Endpoint} (plain : Uri.IsPlain e.address) {params : ParamSet} (distinct : params.Distinct)
    (remark : String) : ReadsBack scheme credential e params remark
      (Uri.text ⟨scheme, credential, e.address, e.port, params, remark⟩).toList where
  one_cut c hc := by
    have cut : c ∈ Uri.cuts := List.mem_append_left ['\n'] hc
    rw [Uri.count_text letters plain cut]
    exact (by decide : ∀ c ∈ ['@', '?', '#'], ['@', '?', '#'].count c = 1) c hc
  reading := by
    refine ⟨params.pairs, distinct.lists, ?_⟩
    rw [Uri.read?_text letters plain, Uri.host_of_isPlain plain]

/-- **Every link in URI form says what it was made from**: scheme, credential, host, port,
parameters and name can be read off the line of each endpoint, whatever texts they are, as long as
the addresses keep clear of the delimiters. -/
theorem uri_lines_read_back {ρ : Type} [SpiderSource ρ] {ctx : LinkContext} {inbound : Inbound}
    {email : String} {clients : List Client} (source : ρ) {protocol : Protocol} {stream : Json}
    {client : Client} {scheme : String} (spoken : inbound.protocol? = some protocol)
    (uri : uriScheme? protocol = some scheme)
    (parsed : Json.parse? inbound.streamSettings = some stream)
    (found : clients.find? (·.email = email) = some client)
    (server : protocol = .shadowsocks → (shadowsocksServer? inbound.settings).isSome)
    (plain : ∀ e ∈ Endpoint.all ctx inbound stream, Uri.IsPlain e.address) :
    ∃ credential, Shows inbound client credential protocol ∧
      List.Forall₂ (fun line e => ReadsBack scheme credential e
          (params protocol stream client (drawSpider stream (scope protocol) source).1 e)
          (remark ctx inbound client e) line)
        (Form.splitAt '\n' (generate ctx inbound email clients source).1.toList)
        (Endpoint.all ctx inbound stream) := by
  obtain ⟨credential, shows_client, lines_eq⟩ := lines_eq_uris uri server ctx stream
    (drawSpider stream (scope protocol) source).1
  refine ⟨credential, shows_client, ?_⟩
  have letters := isScheme_uriScheme uri
  have text : (generate ctx inbound email clients source).1 = "\n".intercalate
      (lines ctx inbound protocol stream client (drawSpider stream (scope protocol) source).1) := by
    simp only [generate, spoken, parsed, found]
  rw [text, lines_eq, splitAt_joined fun e he => Uri.newline_not_mem_text letters (plain e he),
    List.forall₂_map_left_iff, List.forall₂_same]
  exact fun e he => readsBack_text letters credential (plain e he) (distinct_params _ _ _ _ e) _

/-- A shadowsocks inbound with a relay. -/
def relayed : Inbound where
  remark := "Edge"
  enable := true
  port := 8388
  protocol := "shadowsocks"
  settings := "\x7b\"method\":\"2022-blake3-aes-128-gcm\",\"password\":\"top\"\x7d"
  streamSettings := "\x7b\"externalProxy\":[\x7b\"dest\":\"2001:db8::1\",\"port\":443," ++
    "\"remark\":\"café #1\"\x7d]\x7d"

/-- The place of the relay. -/
def relay : Endpoint := ⟨"2001:db8::1", 443, none, "café #1"⟩

/-- A client of that inbound with a password of its own. -/
def relayedClient : Client := { email := "kim@home", password := "own" }

/-- A request for the link of that client. -/
def relayedContext : LinkContext := ⟨"h.example", none, "-ieo", false⟩

/-- The link of that client. -/
def relayedLine : List Char :=
  (generate relayedContext relayed "kim@home" [relayedClient] (CyclicWords.ofList [])).1.toList

/-- The link of a client behind a relay with an IPv6 address, whose name holds a delimiter, says
where the relay is, how it is called, and that the secret is the server's. -/
theorem relayedLine_read_back : ∃ credential pairs,
    (Base64.decode? credential.toList).bind textOfUtf8? = some "2022-blake3-aes-128-gcm:top" ∧
    Uri.read? relayedLine =
      some ⟨"ss", credential, "[2001:db8::1]", "443", pairs, "Edge-kim@home-café #1"⟩ := by
  obtain ⟨stream, parsed, endpoints⟩ : ∃ stream,
      Json.parse? relayed.streamSettings = some stream ∧
      Endpoint.all relayedContext relayed stream = [relay] :=
    ⟨_, rfl, by decide +kernel⟩
  have server : shadowsocksServer? relayed.settings = some ("2022-blake3-aes-128-gcm", "top") := by
    decide +kernel
  have found : [relayedClient].find? (·.email = "kim@home") = some relayedClient := by decide
  have plain : ∀ e ∈ Endpoint.all relayedContext relayed stream, Uri.IsPlain e.address := by
    rw [endpoints, List.forall_mem_singleton]
    decide
  have one_line : Form.splitAt '\n' relayedLine = [relayedLine] := by decide +kernel
  have name : remark relayedContext relayed relayedClient relay = "Edge-kim@home-café #1" := by
    decide +kernel
  have spoken : relayed.protocol? = some .shadowsocks := by decide
  obtain ⟨credential, ⟨method, password, settings, secret⟩, lines⟩ :=
    uri_lines_read_back (CyclicWords.ofList []) spoken rfl parsed found
      (fun _ => by rw [server]; rfl) plain
  rw [server] at settings
  cases settings
  rw [← relayedLine, one_line, endpoints, List.forall₂_cons] at lines
  obtain ⟨pairs, -, reading⟩ := lines.1.reading
  rw [name] at reading
  exact ⟨credential, pairs, secret.trans (by decide), reading⟩

end Link
end ProxyFeed
