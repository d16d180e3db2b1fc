import ProxyFeed.Fallback
import ProxyFeed.Proofs.Json.Value
import ProxyFeed.Store.Memory

/-!
# Seeing a fallback through its master

Two things can go wrong when a fallback is resolved: the store may fail to find the master, and the
two stream texts may not be mergeable.  Either way the fallback is shown as it stands, with its own
socket, port and settings.  A record in between, with the master's port and the fallback's security
layer or the other way round, would make links that look right and lead nowhere.

So there is one condition, and the whole record follows it.  The condition is lopsided: the text of
the fallback has to be an object, and the text of the master may be any JSON at all, since members
are only looked up in it.

## What is here

* `Fallback.merge_eq_ok_iff` — when two texts are merged, and to what.
* `Fallback.Reached` — the condition on a fallback and its master.
* `Fallback.resolve?_eq_some_iff` and `Fallback.resolve_cases` — the two ways to resolve an inbound.
* `Fallback.resolve_all_or_nothing` — a record is resolved entirely, or left alone entirely.
-/

set_option autoImplicit false
namespace ProxyFeed
namespace Fallback

/-! ## When texts are merged -/

theorem merge_eq_ok_iff {stream masterStream text : String} :
    merge stream masterStream = .ok text ↔
      ∃ ms master, Json.parse? stream = some (.obj ms) ∧ Json.parse? masterStream = some master ∧
        text = (Json.obj (inherit ms master)).compact := by
  constructor
  · intro merged
    rw [merge] at merged
    split at merged
    · cases merged
    · cases merged
    · next ms master own read => exact ⟨ms, master, own, read, (Except.ok.inj merged).symm⟩
    · cases merged
  · rintro ⟨ms, master, own, read, rfl⟩
    rw [merge, own, read]

/-- **Merging takes an object and a JSON text**, and nothing else. -/
theorem exists_merge_eq_ok_iff {stream masterStream : String} :
    (∃ text, merge stream masterStream = .ok text) ↔
      (∃ ms, Json.parse? stream = some (.obj ms)) ∧
        ∃ master, Json.parse? masterStream = some master := by
  constructor
  · rintro ⟨text, merged⟩
    obtain ⟨ms, master, own, read, -⟩ := merge_eq_ok_iff.1 merged
    exact ⟨⟨ms, own⟩, master, read⟩
  · rintro ⟨⟨ms, own⟩, master, read⟩
    exact ⟨_, merge_eq_ok_iff.2 ⟨ms, master, own, read, rfl⟩⟩

/-! ## When an inbound is resolved -/

section Resolve

variable (store : InboundStore) (i : Inbound)

/-- An inbound that can be reached through a master: it listens on an abstract socket, the store
finds the master of that socket, and the two stream texts can be merged. -/
structure Reached (master : Inbound) : Prop where
  abstract_socket : ∃ name, i.listen.toList = '@' :: name
  found : store.fallbackMaster i.listen = .ok (some master)
  object : ∃ ms, Json.parse? i.streamSettings = some (.obj ms)
  json : ∃ m, Json.parse? master.streamSettings = some m

theorem isFallbackListener_iff :
    i.isFallbackListener = true ↔ ∃ name, i.listen.toList = '@' :: name := by
  rw [Inbound.isFallbackListener, decide_eq_true_iff, List.head?_eq_some_iff]

variable {store i}

/-- An inbound is reached through one master at most. -/
theorem Reached.master_unique {master other : Inbound} (h : Reached store i master)
    (h' : Reached store i other) : master = other :=
  Option.some.inj (Except.ok.inj (h.found.symm.trans h'.found))

/-- **An inbound is resolved to its record with the address of its master and the merged settings.**
-/
theorem resolve?_eq_some_iff {j : Inbound} :
    resolve? store i = some j ↔ ∃ master text, Reached store i master ∧
      merge i.streamSettings master.streamSettings = .ok text ∧ j = through master i text := by
  constructor
  · intro resolved
    rw [resolve?] at resolved
    split at resolved
    · next fallback =>
      split at resolved
      · next master found =>
        split at resolved
        · next text merged =>
          obtain ⟨object, json⟩ := exists_merge_eq_ok_iff.1 ⟨text, merged⟩
          exact ⟨master, text, ⟨(isFallbackListener_iff i).1 fallback, found, object, json⟩, merged,
            (Option.some.inj resolved).symm⟩
        · cases resolved
      · cases resolved
    · cases resolved
  · rintro ⟨master, text, reached, merged, rfl⟩
    rw [resolve?, if_pos ((isFallbackListener_iff i).2 reached.abstract_socket), reached.found]
    simp only [merged]

theorem Reached.exists_merge {master : Inbound} (h : Reached store i master) :
    ∃ text, merge i.streamSettings master.streamSettings = .ok text :=
  exists_merge_eq_ok_iff.2 ⟨h.object, h.json⟩

theorem isSome_resolve?_iff :
    (resolve? store i).isSome ↔ ∃ master, Reached store i master := by
  rw [Option.isSome_iff_exists]
  constructor
  · rintro ⟨j, resolved⟩
    obtain ⟨master, -, reached, -⟩ := resolve?_eq_some_iff.1 resolved
    exact ⟨master, reached⟩
  · rintro ⟨master, reached⟩
    obtain ⟨text, merged⟩ := reached.exists_merge
    exact ⟨_, resolve?_eq_some_iff.2 ⟨master, text, reached, merged, rfl⟩⟩

variable (store i)

/-- The two ways to resolve an inbound. -/
theorem resolve_cases :
    (∃ master text, Reached store i master ∧
      merge i.streamSettings master.streamSettings = .ok text ∧
        resolve store i = through master i text) ∨
      (¬∃ master, Reached store i master) ∧ resolve store i = i := by
  cases resolved : resolve? store i with
  | some j =>
    obtain ⟨master, text, reached, merged, rfl⟩ := resolve?_eq_some_iff.1 resolved
    exact .inl ⟨master, text, reached, merged, by rw [resolve, resolved, Option.getD_some]⟩
  | none =>
    refine .inr ⟨fun reached => ?_, by rw [resolve, resolved, Option.getD_none]⟩
    have is_some := isSome_resolve?_iff.2 reached
    rw [resolved] at is_some
    cases is_some

/-- What a record has apart from its address and its stream settings is the same afterwards. -/
theorem resolve_eq_self_apart :
    ∃ listen port streamSettings, resolve store i = { i with listen, port, streamSettings } := by
  rcases resolve_cases store i with ⟨master, text, -, -, through⟩ | ⟨-, same⟩
  · exact ⟨master.listen, master.port, text, through⟩
  · exact ⟨i.listen, i.port, i.streamSettings, same⟩

/-- **A fallback is resolved entirely or not at all.**  It is resolved exactly if it listens on an
abstract socket whose master the store finds, its own stream text is an object, and the master's is
JSON.  The record then has the master's address and port with the merged stream text, and is
otherwise as it was; in every other case all of it is as it was. -/
theorem resolve_all_or_nothing :
    ((resolve? store i).isSome ↔ ∃ master, Reached store i master) ∧
      (∀ master, Reached store i master →
        ∃ text, merge i.streamSettings master.streamSettings = .ok text ∧
          resolve store i =
            { i with listen := master.listen, port := master.port, streamSettings := text }) ∧
      ((¬∃ master, Reached store i master) → resolve store i = i) := by
  refine ⟨isSome_resolve?_iff, fun master reached => ?_, fun out_of_reach => ?_⟩
  · rcases resolve_cases store i with ⟨other, text, reached', merged, through⟩ | ⟨none, -⟩
    · obtain rfl := reached.master_unique reached'
      exact ⟨text, merged, through⟩
    · exact absurd ⟨master, reached⟩ none
  · rcases resolve_cases store i with ⟨master, -, reached, -⟩ | ⟨-, same⟩
    · exact absurd ⟨master, reached⟩ out_of_reach
    · exact same

end Resolve

/-! ## A master whose settings are a list -/

/-- Settings that forward to one socket. -/
def forwarding : Json := .obj [("fallbacks", .arr [.obj [("dest", .str "@m")]])]

/-- A master that has a list where its stream settings should be. -/
def listMaster : Inbound :=
  { id := 1, listen := "0.0.0.0", port := 443, settings := forwarding.compact
    streamSettings := (Json.arr []).compact }

/-- A fallback behind it. -/
def listFallback : Inbound :=
  { id := 2, listen := "@m", streamSettings := (Json.obj [("security", .str "tls")]).compact }

/-- **The settings of a master need not be an object.**  A list has no members, so the fallback gets
the master's address and loses its own security layer. -/
theorem resolve_through_list :
    Json.parse? listMaster.streamSettings = some (.arr []) ∧
      (resolve? (MemoryInbounds.store [listMaster]) listFallback).isSome ∧
      resolve (MemoryInbounds.store [listMaster]) listFallback =
        { listFallback with
          listen := "0.0.0.0", port := 443, streamSettings := (Json.obj []).compact } ∧
      resolve (MemoryInbounds.store [listMaster]) listFallback ≠ listFallback := by
  have list : Json.parse? listMaster.streamSettings = some (.arr []) :=
    Json.ReadsBack.parse?_compact (by decide)
  have own : Json.parse? listFallback.streamSettings = some (.obj [("security", .str "tls")]) :=
    Json.ReadsBack.parse?_compact (by decide)
  have declared : MemoryInbounds.fallbacks listMaster.settings = [.obj [("dest", .str "@m")]] := by
    have read : Json.parse? listMaster.settings = some forwarding :=
      Json.ReadsBack.parse?_compact (by decide)
    rw [MemoryInbounds.fallbacks, read]
    rfl
  have found : (MemoryInbounds.store [listMaster]).fallbackMaster listFallback.listen =
      .ok (some listMaster) := by
    refine congrArg Except.ok (List.find?_cons_of_pos ?_)
    rw [declared]
    rfl
  have resolved : resolve? (MemoryInbounds.store [listMaster]) listFallback =
      some (through listMaster listFallback (Json.obj []).compact) :=
    resolve?_eq_some_iff.2 ⟨listMaster, _, ⟨⟨_, rfl⟩, found, ⟨_, own⟩, _, list⟩,
      merge_eq_ok_iff.2 ⟨_, _, own, list, rfl⟩, rfl⟩
  have seen : resolve (MemoryInbounds.store [listMaster]) listFallback =
      through listMaster listFallback (Json.obj []).compact := by
    rw [resolve, resolved, Option.getD_some]
  refine ⟨list, ?_, seen, fun same => ?_⟩
  · rw [resolved, Option.isSome_some]
  · have moved := congrArg Inbound.listen (seen.symm.trans same)
    exact absurd moved (by decide)

end Fallback
end ProxyFeed
