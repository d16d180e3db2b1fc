import ProxyFeed.Clash.Basic
import ProxyFeed.Proofs.Json.Parsed
import ProxyFeed.Proofs.Link.Endpoint

/-!
# Stream settings with the same links

Panels rewrite stream settings: they reorder the members, indent the text, and keep blocks for
networks that are not in use.  A client that has a link should not get another one because of that,
and a converted document should not be made anew.

Two inbounds whose stream settings agree on the members that a link is read from have the same
links.  The texts may differ in everything else.

## What is here

* `Json.agreeOn_of_perm` — settings in another order, with further members, agree on the old keys.
* `Link.generate_congr` — the links of settings that agree on the relevant members.
* `Link.generate_rearranged` — the links of rearranged settings.
* `Link.relevant_keys_decide` — links, sources and converted links depend on nothing else.
-/

set_option autoImplicit false
namespace ProxyFeed

/-! ## Members in another order -/

/-- **Neither their order nor further members matter** for members under other keys. -/
theorem Json.agreeOn_of_perm {ms ms' extra : Members} {keys : List String}
    (apart : ms'.keys.Nodup) (same : ms'.Perm (ms ++ extra))
    (unrelated : ∀ key ∈ extra.keys, key ∉ keys) :
    (Json.obj ms').AgreeOn keys (.obj ms) := by
  intro key relevant
  have apart' : (Members.keys (ms ++ extra)).Nodup := (same.map Prod.fst).nodup_iff.1 apart
  rw [Json.get?, Json.get?, Members.get?_of_perm apart' same]
  exact Members.get?_append_of_not_mem fun there => unrelated key there relevant

namespace Link

/-! ## Links of settings that agree -/

section Generate

variable {inbound : Inbound} {text : String} {stream other : Json}

variable (parsed : Json.parse? inbound.streamSettings = some stream)
  (parsed_other : Json.parse? text = some other)

include parsed parsed_other

/-- **Inbounds whose stream settings agree on the relevant members have the same links.** -/
theorem generate_congr (same : ∀ protocol, inbound.protocol? = some protocol →
      other.AgreeOn (relevantKeys (scope protocol) stream) stream)
    {ρ : Type} [SpiderSource ρ] (ctx : LinkContext) (email : String) (clients : List Client)
    (source : ρ) :
    generate ctx { inbound with streamSettings := text } email clients source =
      generate ctx inbound email clients source := by
  refine generate_of_sameLayers ctx parsed parsed_other (fun protocol spoken => ?_) email clients
    source
  have agree := same protocol spoken
  refine ⟨sameLayers_of_agreeOn fun key there => agree key (List.mem_cons_of_mem _ there), ?_⟩
  rw [ExternalProxy.listOfStream, ExternalProxy.listOfStream, agree _ List.mem_cons_self]

end Generate

/-- **Rearranging stream settings leaves the links alone.**  The members may come in another order,
in a text with other spaces, and with further members that no link of theirs is read from. -/
theorem generate_rearranged {inbound : Inbound} {text : String} {ms ms' extra : Members}
    (parsed : Json.parse? inbound.streamSettings = some (.obj ms))
    (parsed_other : Json.parse? text = some (.obj ms')) (same : ms'.Perm (ms ++ extra))
    (unrelated : ∀ protocol, inbound.protocol? = some protocol →
      ∀ key ∈ extra.keys, key ∉ relevantKeys (scope protocol) (.obj ms))
    {ρ : Type} [SpiderSource ρ] (ctx : LinkContext) (email : String) (clients : List Client)
    (source : ρ) :
    generate ctx { inbound with streamSettings := text } email clients source =
      generate ctx inbound email clients source :=
  generate_congr parsed parsed_other (fun protocol spoken =>
    Json.agreeOn_of_perm (Json.distinct_of_parse? parsed_other).1 same (unrelated protocol spoken))
    ctx email clients source

/-- **Rendering depends on the relevant members alone.**  If an inbound gets other stream settings,
which agree with the old ones on the external proxies, the names of network and security layer, and
the one block of each, every text made of it stays the same, and so does what is left of the source
of spider paths.  The link that is sent to the converter stays the same, too, with its fingerprint.
-/
theorem relevant_keys_decide {inbound : Inbound} {text : String} {stream other : Json}
    (parsed : Json.parse? inbound.streamSettings = some stream)
    (parsed_other : Json.parse? text = some other)
    (same : ∀ protocol, inbound.protocol? = some protocol →
      other.AgreeOn (relevantKeys (scope protocol) stream) stream) :
    (∀ {ρ : Type} [SpiderSource ρ] (ctx : LinkContext) (email : String) (clients : List Client)
        (source : ρ), generate ctx { inbound with streamSettings := text } email clients source =
          generate ctx inbound email clients source) ∧
      ∀ (options : ClashOptions) (email host : String),
        Clash.renderLink options { inbound with streamSettings := text } email host =
            Clash.renderLink options inbound email host ∧
          Clash.fingerprint
              (Clash.renderLink options { inbound with streamSettings := text } email host) =
            Clash.fingerprint (Clash.renderLink options inbound email host) := by
  have links {ρ : Type} [SpiderSource ρ] (ctx : LinkContext) (email : String)
      (clients : List Client) (source : ρ) :=
    generate_congr parsed parsed_other same ctx email clients source
  refine ⟨links, fun options email host => ?_⟩
  have converted : Clash.renderLink options { inbound with streamSettings := text } email host =
      Clash.renderLink options inbound email host := by
    have read : { inbound with streamSettings := text }.clients? = inbound.clients? := rfl
    rw [Clash.renderLink, Clash.renderLink, read]
    cases inbound.clients? with
    | none => rfl
    | some clients =>
      dsimp only
      rw [links]
  exact ⟨converted, by rw [converted]⟩

/-! ## Rearranged settings -/

/-- Stream settings with TLS over WebSocket. -/
def websocketMembers : Members :=
  [("network", .str "ws"), ("wsSettings", .obj [("path", .str "/feed")]),
    ("security", .str "tls"), ("tlsSettings", .obj [("serverName", .str "a.example")])]

/-- Blocks of a layer and of a network that are not in use. -/
def idleMembers : Members :=
  [("realitySettings", .obj [("serverNames", .arr [.str "b.example"])]),
    ("tcpSettings", .obj [("header", .obj [("type", .str "http")])])]

/-- All of them, the first ones in reverse. -/
def rearrangedMembers : Members := idleMembers ++ websocketMembers.reverse

/-- An inbound without the idle blocks. -/
def websocketInbound : Inbound :=
  { id := 1, remark := "Edge", enable := true, port := 443, protocol := "trojan"
    streamSettings := (Json.obj websocketMembers).compact }

/-- The indented text of the rearranged members gives the same link. -/
theorem relevant_keys_decide_rearranged :
    let link (inbound : Inbound) :=
      (generate relayedContext inbound "kim@home" [relayedClient] (CyclicWords.ofList [0])).1
    link websocketInbound =
        "trojan://own@h.example:443?path=%2Ffeed&security=tls&sni=a.example&type=ws" ++
          "#Edge-kim%40home" ∧
      link { websocketInbound with streamSettings := (Json.obj rearrangedMembers).pretty } =
        link websocketInbound := by
  intro link
  have parsed : Json.parse? websocketInbound.streamSettings = some (.obj websocketMembers) :=
    Json.ReadsBack.parse?_compact (by decide)
  have parsed_other : Json.parse? (Json.obj rearrangedMembers).pretty =
      some (.obj rearrangedMembers) :=
    Json.ReadsBack.parse?_pretty (by decide)
  have spoken : websocketInbound.protocol? = some .trojan := by decide
  have found : [relayedClient].find? (·.email = "kim@home") = some relayedClient := by decide
  have same : (Json.obj rearrangedMembers).AgreeOn
      (relevantKeys (scope .trojan) (.obj websocketMembers)) (.obj websocketMembers) := by
    have order : rearrangedMembers.Perm (websocketMembers ++ idleMembers) :=
      List.perm_append_comm.trans ((List.reverse_perm _).append_right _)
    exact Json.agreeOn_of_perm (by decide) order (by decide)
  obtain ⟨links, -⟩ := relevant_keys_decide parsed parsed_other fun protocol trojan =>
    Option.some.inj (spoken.symm.trans trojan) ▸ same
  refine ⟨?_, congrArg Prod.fst (links _ _ _ _)⟩
  show (generate relayedContext websocketInbound "kim@home" [relayedClient]
    (CyclicWords.ofList [0])).1 = _
  rw [generate_eq_rendered, rendered_of_found relayedContext spoken parsed found]
  decide +kernel

end Link
end ProxyFeed
