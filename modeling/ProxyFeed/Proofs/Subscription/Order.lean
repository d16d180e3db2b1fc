import ProxyFeed.Proofs.Link.Spider
import ProxyFeed.Proofs.Subscription.Summary
import ProxyFeed.Proofs.Subscription.Unreadable
import Mathlib.Data.List.Find
import Mathlib.Data.List.Forall2
import Mathlib.Data.List.Pairwise

/-!
# The order of inbounds

What an inbound contributes to a subscription depends on the others only through its master, and the
traffic of the clients is summed up.  So if no two inbounds claim to be the master of one fallback,
another order of the inbounds gives the same blocks of links in the other order, and the same
traffic.

## What is here

* `MemoryInbounds.MastersApart` — no two inbounds declare a fallback with the same destination.
* `Subscription.counted` — the records that a subscription counts, one for each enabled client.
* `Subscription.sameButSpider_blocks` — an inbound's links do not depend on the other inbounds.
* `Subscription.fetch_perm` — the answers for two orders of the inbounds.
-/

set_option autoImplicit false
namespace ProxyFeed

/-! ## Lookups -/

namespace MemoryInbounds

/-- Does an inbound declare a fallback with a destination? -/
def declares (dest : String) (i : Inbound) : Bool :=
  (fallbacks i.settings).any fun f => f.text? "dest" = some dest

/-- No two inbounds declare a fallback with the same destination. -/
def MastersApart (inbounds : List Inbound) : Prop :=
  inbounds.Pairwise fun i j => ∀ dest, ¬ (declares dest i ∧ declares dest j)

variable {inbounds inbounds' : List Inbound}

/-- A master is found whatever the order. -/
theorem fallbackMaster_perm (apart : MastersApart inbounds) (perm : inbounds'.Perm inbounds)
    (dest : String) : fallbackMaster inbounds' dest = fallbackMaster inbounds dest := by
  have one : {i ∈ inbounds | declares dest i}.Subsingleton := by
    rintro i ⟨hi, declares_i⟩ j ⟨hj, declares_j⟩
    by_contra ne
    have symmetric : Std.Symm fun i j => ∀ dest, ¬ (declares dest i ∧ declares dest j) :=
      ⟨fun i j h dest both => h dest both.symm⟩
    exact apart.forall hi hj ne dest ⟨declares_i, declares_j⟩
  exact (List.find?_eq_find?_of_perm perm.symm one).symm

theorem bySubId_perm (perm : inbounds'.Perm inbounds) (subId : String) :
    (bySubId inbounds' subId).Perm (bySubId inbounds subId) :=
  (perm.filter _).filter _

end MemoryInbounds

namespace Subscription

/-! ## Traffic -/

/-- The records of the enabled clients of a subscription on an inbound: one for each, the empty one
if there is none. -/
def records (subId : String) (i : Inbound) : List Traffic :=
  (members subId (i.clients?.getD [])).map (trafficOf i)

/-- The records that a subscription counts: those of all enabled clients that carry its identifier
on an inbound that links can be made for, whether they have a link or not. -/
def counted (subId : String) (inbounds : List Inbound) : List Traffic :=
  (inbounds.filter Inbound.isLinkable).flatMap (records subId)

section Blocks

variable {ρ σ : Type} [SpiderSource ρ] [SpiderSource σ]

theorem traffic_block (store : InboundStore) (ctx : LinkContext) (subId : String) (i : Inbound)
    (source : ρ) : (block store ctx subId i source).traffic = records subId i := by
  rw [block, records]
  cases i.clients? with
  | none => rfl
  | some clients =>
    exact List.map_congr_left fun c _ => trafficOf_resolve store i c

theorem traffic_blocks (store : InboundStore) (ctx : LinkContext) (subId : String)
    (sources : Nat → ρ) (n : Nat) (inbounds : List Inbound) :
    (blocks store ctx subId sources n inbounds).flatMap (·.traffic) =
      inbounds.flatMap (records subId) := by
  induction inbounds generalizing n with
  | nil => rfl
  | cons i rest ih => rw [blocks, List.flatMap_cons, List.flatMap_cons, traffic_block, ih]

theorem flatMap_filter_of_nil {α β : Type} {p : α → Bool} {f : α → List β}
    (h : ∀ a, p a = false → f a = []) (l : List α) : (l.filter p).flatMap f = l.flatMap f := by
  induction l with
  | nil => rfl
  | cons a l ih =>
    rw [List.filter_cons, List.flatMap_cons]
    cases passes : p a with
    | true => rw [if_pos rfl, List.flatMap_cons, ih]
    | false => rw [if_neg Bool.false_ne_true, ih, h a passes, List.nil_append]

/-- An inbound that the lookup leaves out has no client to count. -/
theorem flatMap_records_bySubId (inbounds : List Inbound) (subId : String) :
    (MemoryInbounds.bySubId inbounds subId).flatMap (records subId) = counted subId inbounds := by
  refine flatMap_filter_of_nil (fun i left_out => ?_) _
  rw [records, members, List.map_eq_nil_iff, List.filter_eq_nil_iff]
  cases read : i.clients? with
  | none => exact fun _ h => absurd h List.not_mem_nil
  | some clients =>
    rw [read] at left_out
    intro c hc both
    have mine : c.subId = subId := of_decide_eq_true (Bool.and_eq_true_iff.1 both).2
    exact List.any_eq_false.1 left_out c hc (decide_eq_true mine)

theorem counts_counted {subId : String} {inbounds : List Inbound}
    (counts : ∀ i ∈ inbounds, ∀ t ∈ i.clientStats, t.Counts) :
    ∀ t ∈ counted subId inbounds, t.Counts := by
  intro t ht
  obtain ⟨i, hi, counted_i⟩ := List.mem_flatMap.1 ht
  obtain ⟨c, -, rfl⟩ := List.mem_map.1 counted_i
  rw [trafficOf, Inbound.trafficFor]
  cases found : i.clientStats.find? (·.email = c.email) with
  | none => exact Traffic.counts_default
  | some t => exact counts i (List.mem_of_mem_filter hi) t (List.mem_of_find?_eq_some found)

theorem counted_perm {inbounds inbounds' : List Inbound} (perm : inbounds'.Perm inbounds)
    (subId : String) : (counted subId inbounds').Perm (counted subId inbounds) :=
  (perm.filter _).flatMap_right _

/-! ## Links -/

/-- An inbound's links depend on the store through its master only, and on the source through their
spider paths only. -/
theorem sameButSpider_block {store store' : InboundStore} {i : Inbound}
    (master : i.isFallbackListener → store.fallbackMaster i.listen = store'.fallbackMaster i.listen)
    (ctx : LinkContext) (subId : String) (source : ρ) (source' : σ) :
    List.Forall₂ Link.SameButSpider (block store ctx subId i source).links
      (block store' ctx subId i source').links := by
  rw [block, block, Fallback.resolve_congr master]
  cases i.clients? with
  | none => exact .nil
  | some clients => exact Link.sameButSpider_generateAll _ _ _ _ _ _

/-- **The links of a list of inbounds are those of each**, up to their spider paths. -/
theorem sameButSpider_blocks {store store' : InboundStore} {inbounds : List Inbound}
    (masters : ∀ i ∈ inbounds, i.isFallbackListener →
      store.fallbackMaster i.listen = store'.fallbackMaster i.listen)
    (options : SubscriptionOptions) (subId host path : String) (sources : Nat → ρ) (n : Nat) :
    List.Forall₂ Link.SameButSpider
      ((blocks store (context options host) subId sources n inbounds).flatMap (·.links))
      (linksWith options subId host path store' inbounds) := by
  induction inbounds generalizing n with
  | nil => exact .nil
  | cons i rest ih =>
    obtain ⟨first, later⟩ := List.forall_mem_cons.1 masters
    rw [blocks, linksWith, List.flatMap_cons, List.flatMap_cons]
    exact List.rel_append (sameButSpider_block first _ subId _ _) (ih later (n + 1))

end Blocks

theorem fetch_memory {ρ : Type} [SpiderSource ρ] (inbounds : List Inbound)
    (options : SubscriptionOptions) (sources : Nat → ρ) (subId host : String) :
    fetch (MemoryInbounds.store inbounds) options sources subId host =
      if MemoryInbounds.bySubId inbounds subId = [] then
        .error (.notFound ("subscription " ++ subId))
      else
        .ok ((blocks (MemoryInbounds.store inbounds) (context options host) subId sources 0
            (MemoryInbounds.bySubId inbounds subId)).flatMap (·.links),
          (TrafficSummary.ofList (counted subId inbounds)).header) := by
  have found : (MemoryInbounds.store inbounds).bySubId subId =
      .ok (MemoryInbounds.bySubId inbounds subId) := rfl
  rw [fetch, found, ← flatMap_records_bySubId]
  cases MemoryInbounds.bySubId inbounds subId with
  | nil => rfl
  | cons i rest =>
    rw [if_neg (List.cons_ne_nil i rest)]
    dsimp only
    rw [traffic_blocks]

/-- **A subscription does not depend on the order of the inbounds** in memory, if no two of them
declare the same fallback and no counter is negative: both orders are answered or neither is found;
each answer consists of the links of each inbound, in its own order and up to spider paths; and the
traffic is the same, of every enabled client once. -/
theorem fetch_perm {ρ : Type} [SpiderSource ρ] {inbounds inbounds' : List Inbound}
    (perm : inbounds'.Perm inbounds) (apart : MemoryInbounds.MastersApart inbounds)
    (counts : ∀ i ∈ inbounds, ∀ t ∈ i.clientStats, t.Counts) (options : SubscriptionOptions)
    (sources sources' : Nat → ρ) (subId host : String) :
    let store := MemoryInbounds.store inbounds
    let found := MemoryInbounds.bySubId inbounds subId
    let found' := MemoryInbounds.bySubId inbounds' subId
    let answer := fetch store options sources subId host
    let answer' := fetch (MemoryInbounds.store inbounds') options sources' subId host
    let header := (TrafficSummary.combined (counted subId inbounds)).header
    found'.Perm found ∧
      (found = [] → answer = .error (.notFound ("subscription " ++ subId)) ∧
        answer' = .error (.notFound ("subscription " ++ subId))) ∧
      (found ≠ [] → ∃ links links', answer = .ok (links, header) ∧ answer' = .ok (links', header) ∧
        ∀ path, List.Forall₂ Link.SameButSpider links
            (linksWith options subId host path store found) ∧
          List.Forall₂ Link.SameButSpider links'
            (linksWith options subId host path store found')) := by
  intro store found found' answer answer' header
  have found_perm : found'.Perm found := MemoryInbounds.bySubId_perm perm subId
  have counts_all : ∀ t ∈ counted subId inbounds, t.Counts := counts_counted counts
  have header_eq : (TrafficSummary.ofList (counted subId inbounds)).header = header :=
    congrArg TrafficSummary.header (TrafficSummary.ofList_eq_combined counts_all)
  have header_eq' : (TrafficSummary.ofList (counted subId inbounds')).header = header := by
    have counted_perm := counted_perm perm subId
    have counts_all' : ∀ t ∈ counted subId inbounds', t.Counts :=
      fun t ht => counts_all t (counted_perm.mem_iff.1 ht)
    rw [TrafficSummary.ofList_eq_combined counts_all', TrafficSummary.combined_perm counted_perm]
  refine ⟨found_perm, fun none => ?_, fun some => ?_⟩
  · have none' : found' = [] := List.perm_nil.1 (none ▸ found_perm)
    exact ⟨(fetch_memory inbounds options sources subId host).trans (if_pos none),
      (fetch_memory inbounds' options sources' subId host).trans (if_pos none')⟩
  · have some' : found' ≠ [] := fun none' => some (List.perm_nil.1 (none' ▸ found_perm.symm))
    have answered := (fetch_memory inbounds options sources subId host).trans (if_neg some)
    have answered' := (fetch_memory inbounds' options sources' subId host).trans (if_neg some')
    rw [header_eq] at answered
    rw [header_eq'] at answered'
    have masters : ∀ i ∈ found', i.isFallbackListener →
        (MemoryInbounds.store inbounds').fallbackMaster i.listen = store.fallbackMaster i.listen :=
      fun i _ _ => congrArg Except.ok (MemoryInbounds.fallbackMaster_perm apart perm i.listen)
    exact ⟨_, _, answered, answered', fun path =>
      ⟨sameButSpider_blocks (fun _ _ _ => rfl) options subId host path sources 0,
        sameButSpider_blocks masters options subId host path sources' 0⟩⟩

/-- An inbound with a Reality layer that forwards to an abstract socket. -/
def gateway : Inbound where
  id := 1
  remark := "Gate"
  enable := true
  port := 443
  protocol := "vless"
  settings := "\x7b\"clients\":[\x7b\"id\":\"key\",\"email\":\"kim\",\"enable\":true," ++
    "\"subId\":\"home\"\x7d],\"fallbacks\":[\x7b\"dest\":\"@inner\"\x7d]\x7d"
  streamSettings := "\x7b\"security\":\"reality\"\x7d"
  clientStats := [{ email := "kim", up := 10, total := 100, expiryTime := 5000 }]

/-- The inbound on that socket, with a client that has no traffic record. -/
def inner : Inbound where
  id := 2
  remark := "Inner"
  enable := true
  listen := "@inner"
  protocol := "trojan"
  settings := "\x7b\"clients\":[\x7b\"password\":\"own\",\"email\":\"lee\",\"enable\":true," ++
    "\"subId\":\"home\"\x7d]\x7d"
  streamSettings := "\x7b\x7d"

/-- The inner inbound is seen through the gateway in either order, and its client counts, which is
why the subscription has no common allowance. -/
theorem fetch_perm_gateway :
    let options : SubscriptionOptions := ⟨"-ieo", false⟩
    let store := MemoryInbounds.store [gateway, inner]
    ∃ links links',
      fetch store options (fun _ => CyclicWords.ofList []) "home" "h.example" =
        .ok (links, "upload=10; download=0; total=0; expire=0") ∧
      fetch (MemoryInbounds.store [inner, gateway]) options (fun _ => CyclicWords.ofList [67108864])
          "home" "h.example" =
        .ok (links', "upload=10; download=0; total=0; expire=0") ∧
      List.Forall₂ Link.SameButSpider links
        ["vless://key@h.example:443?security=reality&spx=%2F&type=tcp#Gate-kim",
          "trojan://own@h.example:443?security=reality&spx=%2F&type=tcp#Inner-lee"] ∧
      List.Forall₂ Link.SameButSpider links'
        ["trojan://own@h.example:443?security=reality&spx=%2F&type=tcp#Inner-lee",
          "vless://key@h.example:443?security=reality&spx=%2F&type=tcp#Gate-kim"] := by
  intro options store
  have apart : MemoryInbounds.MastersApart [gateway, inner] := by
    have none : MemoryInbounds.fallbacks inner.settings = [] :=
      List.isEmpty_iff.1 (by decide +kernel)
    refine List.pairwise_pair.2 fun dest both => ?_
    rw [MemoryInbounds.declares, MemoryInbounds.declares, none] at both
    cases both.2
  have counts : ∀ i ∈ [gateway, inner], ∀ t ∈ i.clientStats, t.Counts := by
    have record : Traffic.Counts { email := "kim", up := 10, total := 100, expiryTime := 5000 } :=
      ⟨by decide, by decide, by decide⟩
    simpa [gateway, inner] using record
  have found : MemoryInbounds.bySubId [gateway, inner] "home" = [gateway, inner] := by
    decide +kernel
  have found' : MemoryInbounds.bySubId [inner, gateway] "home" = [inner, gateway] := by
    decide +kernel
  obtain ⟨-, -, answers⟩ := fetch_perm (.swap gateway inner []) apart counts options
    (fun _ => CyclicWords.ofList []) (fun _ => CyclicWords.ofList [67108864]) "home" "h.example"
  obtain ⟨links, links', answered, answered', blocks_eq⟩ := answers (by rw [found]; simp)
  have header : (TrafficSummary.combined (counted "home" [gateway, inner])).header =
      "upload=10; download=0; total=0; expire=0" := by
    decide +kernel
  have blocks_slash := blocks_eq "/"
  rw [found, found'] at blocks_slash
  rw [header] at answered answered'
  have first : linksWith options "home" "h.example" "/" store [gateway, inner] =
      ["vless://key@h.example:443?security=reality&spx=%2F&type=tcp#Gate-kim",
        "trojan://own@h.example:443?security=reality&spx=%2F&type=tcp#Inner-lee"] := by
    decide +kernel
  have second : linksWith options "home" "h.example" "/" store [inner, gateway] =
      ["trojan://own@h.example:443?security=reality&spx=%2F&type=tcp#Inner-lee",
        "vless://key@h.example:443?security=reality&spx=%2F&type=tcp#Gate-kim"] := by
    decide +kernel
  exact ⟨links, links', answered, answered', first ▸ blocks_slash.1, second ▸ blocks_slash.2⟩

end Subscription
end ProxyFeed
