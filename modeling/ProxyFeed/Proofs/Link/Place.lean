import ProxyFeed.Proofs.Link.Endpoint

/-!
# Where a link points

Every link points to its endpoint.  A link in URI form does not encode the address, which comes from
a request or from stream settings and may hold any character; still nothing else in the link can be
taken for a part of it.

## What is here

* `Uri.place?_text` — host and port are found in a link in URI form, whatever the address.
* `Link.opening` — what the links of a protocol begin with.
* `Link.PointsTo` — a link points to an address and a port.
* `Link.opening_draftAt`, `Link.pointsTo_draftAt` and `Link.unbroken_draftAt` — the link for an
  endpoint begins as it should, points there, and has no line break of its own.
-/

set_option autoImplicit false
namespace ProxyFeed

/-- **Host and port are found in a link**, whatever its address. -/
theorem Uri.place?_text {u : Uri} (letters : IsScheme u.scheme) :
    place? u.text.toList = some (host u.address, toString u.port.toInt) := by
  have at_free : '@' ∉ u.scheme.toList ++ ':' :: '/' :: '/' :: Percent.userinfo u.credential := by
    have scheme : '@' ∉ u.scheme.toList := not_mem_scheme letters (by decide)
    have info := Link.not_mem_userinfo (c := '@') (by decide) (by decide) u.credential
    simp [scheme, info]
  have colon_free := not_mem_toString_int (c := ':') (by decide) (by decide) u.port.toInt
  have shape : u.beforeQuery =
      (u.scheme.toList ++ ':' :: '/' :: '/' :: Percent.userinfo u.credential) ++ '@' ::
        ((host u.address).toList ++ ':' :: (toString u.port.toInt).toList) := by
    simp [beforeQuery]
  simp only [place?, last?_hash_text, last?_question_text, Option.bind_eq_bind, Option.bind_some]
  simp only [shape, Cut.first?_append at_free, Cut.last?_append colon_free, Option.bind_some,
    Option.pure_def, String.ofList_toList]

namespace Link

/-- What the links of a protocol begin with. -/
def opening : Protocol → String
  | .vmess => "vmess://"
  | .vless => "vless://"
  | .trojan => "trojan://"
  | .shadowsocks => "ss://"

/-- A link points to an address and a port.  A document names both; in a URI an address with a colon
stands in brackets. -/
def PointsTo (protocol : Protocol) (link : List Char) (address : String) (port : Int) : Prop :=
  match protocol with
  | .vmess => ∃ ms : Members, Vmess.read? link = some (.obj ms) ∧
      ms.get? "add" = some (.str address) ∧ ms.get? "port" = some (.ofInt port)
  | _ => Uri.place? link = some (Uri.host address, toString port)

section Uri

variable {protocol : Protocol} {scheme : String} (uri : uriScheme? protocol = some scheme)

include uri

theorem opening_eq : opening protocol = scheme ++ "://" := by
  cases protocol with
  | vmess => cases uri
  | vless | trojan | shadowsocks =>
    obtain rfl := Option.some.inj uri
    rfl

theorem pointsTo_iff {link : List Char} {address : String} {port : Int} :
    PointsTo protocol link address port ↔
      Uri.place? link = some (Uri.host address, toString port) := by
  cases protocol with
  | vmess => cases uri
  | vless | trojan | shadowsocks => exact Iff.rfl

end Uri

variable (ctx : LinkContext) (inbound : Inbound) (protocol : Protocol) (stream : Json)
  (client : Client) (spx : String) (e : Endpoint)

/-- **Every link begins with the scheme of its protocol.** -/
theorem opening_draftAt : (opening protocol).toList <+:
    (draftAt ctx inbound protocol stream client spx e).text.toList := by
  rcases eq_or_ne protocol .vmess with rfl | other
  · rw [draftAt, Draft.text, vmessText, String.toList_append]
    exact List.prefix_append ..
  · obtain ⟨scheme, uri⟩ := exists_uriScheme other
    rw [draftAt_eq_uri uri, opening_eq uri, Draft.text, Uri.text]
    simp only [String.append_assoc, String.toList_append]
    exact ⟨_, List.append_assoc ..⟩

/-- **Every link points to its endpoint.** -/
theorem pointsTo_draftAt : PointsTo protocol
    (draftAt ctx inbound protocol stream client spx e).text.toList e.address e.port.toInt := by
  rcases eq_or_ne protocol .vmess with rfl | other
  · refine ⟨_, read?_vmessParams stream client spx e (remark ctx inbound client e), ?_, ?_⟩
    · rw [ParamSet.get?_members, vmessParams, get?_add_vmessDocument]
      rfl
    · rw [ParamSet.get?_members, vmessParams, get?_port_vmessDocument]
      rfl
  · obtain ⟨scheme, uri⟩ := exists_uriScheme other
    rw [pointsTo_iff uri, draftAt_eq_uri uri]
    exact Uri.place?_text (isScheme_uriScheme uri)

/-- **A link has no line break**, unless its address has one. -/
theorem unbroken_draftAt (address : '\n' ∉ e.address.toList) :
    '\n' ∉ (draftAt ctx inbound protocol stream client spx e).text.toList := by
  rcases eq_or_ne protocol .vmess with rfl | other
  · exact newline_not_mem_vmessText _
  · obtain ⟨scheme, uri⟩ := exists_uriScheme other
    rw [draftAt_eq_uri uri]
    exact Uri.unbroken_text (isScheme_uriScheme uri) address

end Link
end ProxyFeed
