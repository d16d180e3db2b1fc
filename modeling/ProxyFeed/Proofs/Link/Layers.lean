import ProxyFeed.Proofs.Link.Branches

/-!
# What a link is read from

Most of what stream settings may hold is of no use to a client.  A link takes the names of network
and security layer, one block for each of them, and the external proxies.  Fields deep inside a
block are searched for, first match first, so the order inside a block does matter; the order of the
blocks does not, as no search leaves its block.

## What is here

* `Network.ofStream_congr`, `Transport.ofStream_congr`, `Security.modeOf_congr` and
  `Security.ofStream_congr` — the members of stream settings that each of them is read from.
* `Link.layerKeys` and `Link.relevantKeys` — the members that a link is read from, without and with
  the external proxies.  Which they are depends on two of them.
* `Json.AgreeOn` — settings that agree on some members.
* `Link.SameLayers` — settings that read alike; `Link.sameLayers_of_agreeOn` finds them by their
  members, and `Link.drawSpider_congr`, `Link.uriBase_congr` and `Link.vmessBase_congr` say what is
  the same for them.
-/

set_option autoImplicit false
namespace ProxyFeed

/-! ## The members that a layer is read from -/

/-- The block of the stream settings that holds the fields of a security layer. -/
def SecurityMode.settingsKey? : SecurityMode → Option String
  | .none => Option.none
  | .tls => some "tlsSettings"
  | .reality => some "realitySettings"

section Congr

variable {v w : Json}

theorem Network.ofStream_congr (same : v.get? "network" = w.get? "network") :
    ofStream v = ofStream w := by
  rw [ofStream, ofStream, Json.text?, Json.text?, same]

theorem Transport.ofStream_congr (network : Network)
    (same : ∀ key, network.settingsKey? = some key → v.get? key = w.get? key) :
    ofStream v network = ofStream w network := by
  have blocks : (network.settingsKey?.bind fun key => v.get? key) =
      network.settingsKey?.bind fun key => w.get? key :=
    Option.bind_congr same
  rw [ofStream, ofStream, blocks]

theorem Security.modeOf_congr (same : v.get? "security" = w.get? "security")
    (scope : SecurityScope) : modeOf v scope = modeOf w scope := by
  rw [modeOf, modeOf, Json.text?, Json.text?, same]

theorem Security.ofStream_congr {scope : SecurityScope}
    (mode : modeOf v scope = modeOf w scope)
    (same : ∀ key, (modeOf w scope).settingsKey? = some key → v.get? key = w.get? key)
    (spx : String) : ofStream v scope spx = ofStream w scope spx := by
  rw [ofStream, ofStream, mode]
  cases layer : modeOf w scope with
  | none => rfl
  | tls | reality =>
    rw [layer] at same
    simp only [same _ rfl]

end Congr

/-- Values that have the same under some keys, or both nothing. -/
def Json.AgreeOn (keys : List String) (v w : Json) : Prop := ∀ key ∈ keys, v.get? key = w.get? key

namespace Link

/-- The members that the layers of a link are read from: their names, and the block of each. -/
def layerKeys (scope : SecurityScope) (stream : Json) : List String :=
  ["network", "security"] ++ (Network.ofStream stream).settingsKey?.toList ++
    (Security.modeOf stream scope).settingsKey?.toList

/-- The members that a link is read from. -/
def relevantKeys (scope : SecurityScope) (stream : Json) : List String :=
  "externalProxy" :: layerKeys scope stream

section Keys

variable (scope : SecurityScope) (stream : Json)

theorem network_mem_layerKeys : "network" ∈ layerKeys scope stream := by
  simp [layerKeys]

theorem security_mem_layerKeys : "security" ∈ layerKeys scope stream := by
  simp [layerKeys]

theorem externalProxy_not_mem_layerKeys : "externalProxy" ∉ layerKeys scope stream := by
  rw [layerKeys]
  cases Network.ofStream stream <;> cases Security.modeOf stream scope <;>
    simp [Network.settingsKey?, SecurityMode.settingsKey?]

variable {scope stream} {key : String}

theorem mem_layerKeys_of_network (block : (Network.ofStream stream).settingsKey? = some key) :
    key ∈ layerKeys scope stream := by
  simp [layerKeys, block]

theorem mem_layerKeys_of_mode (block : (Security.modeOf stream scope).settingsKey? = some key) :
    key ∈ layerKeys scope stream := by
  simp [layerKeys, block]

end Keys

/-! ## Settings that read alike -/

/-- Stream settings with the same layers, for protocols of a scope. -/
structure SameLayers (scope : SecurityScope) (v w : Json) : Prop where
  network : Network.ofStream v = Network.ofStream w
  transport : Transport.ofStream v (Network.ofStream w) = Transport.ofStream w (Network.ofStream w)
  mode : Security.modeOf v scope = Security.modeOf w scope
  security : ∀ spx, Security.ofStream v scope spx = Security.ofStream w scope spx

/-- **Settings that agree on the members of the layers read alike.** -/
theorem sameLayers_of_agreeOn {scope : SecurityScope} {v w : Json}
    (same : v.AgreeOn (layerKeys scope w) w) : SameLayers scope v w := by
  have mode : Security.modeOf v scope = Security.modeOf w scope :=
    Security.modeOf_congr (same _ (security_mem_layerKeys scope w)) scope
  refine ⟨?_, ?_, mode, Security.ofStream_congr mode fun key block => ?_⟩
  · exact Network.ofStream_congr (same _ (network_mem_layerKeys scope w))
  · exact Transport.ofStream_congr _ fun key block => same key (mem_layerKeys_of_network block)
  · exact same key (mem_layerKeys_of_mode block)

/-! ## Links of settings that read alike -/

section Congr

variable {scope : SecurityScope} {v w : Json}

theorem drawSpider_congr {ρ : Type} [SpiderSource ρ] (same : SameLayers scope v w) (source : ρ) :
    drawSpider v scope source = drawSpider w scope source := by
  rw [drawSpider, drawSpider, Security.drawsSpider, Security.drawsSpider, same.mode]

theorem uriBase_congr (same : SameLayers scope v w) (security : Security) :
    uriBase v security = uriBase w security := by
  rw [uriBase, uriBase, same.network, same.transport]

theorem vmessBase_congr (same : SameLayers scope v w) (client : Client) (security : Security) :
    vmessBase v client security = vmessBase w client security := by
  rw [vmessBase, vmessBase, fillDocument, fillDocument, same.network, same.transport]

end Congr

end Link
end ProxyFeed
