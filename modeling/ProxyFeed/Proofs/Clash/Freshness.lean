import ProxyFeed.Proofs.Clash.Serve
import ProxyFeed.Proofs.Json.ReadBack
import ProxyFeed.Proofs.Text.Replace
import Mathlib.Data.List.Induction

/-!
# When a document is up to date

A document is kept under the fingerprint of a link that carries the placeholder port, while the
document itself shows the real one.  A change of the port alone does therefore not show in the
fingerprint, and the old document is served again.

## What is here

* `Clash.restorePort_eq_iff` — when two ports make a difference to a document.
* `Clash.Visit` — a request, and the inbounds it meets; they may be others at every visit.
* `Clash.ConvertedIn` — a visit among others had a link converted.
* `Clash.Explained` — every kept document was made for a visit; a run keeps it so.
* `Clash.answer_eq_restorePort_iff` — an answer is up to date exactly if the visit that it was
  converted for met the same port, or the converter did not use the placeholder.
-/

set_option autoImplicit false
namespace ProxyFeed
namespace Clash

/-! ## Ports in documents -/

/-- Does the placeholder port occur in a text? -/
def showsPlaceholder (options : ClashOptions) (text : String) : Bool :=
  Link.occursIn (toString options.hiddenPort.toNat).toList text.toList

/-- **Documents for different ports differ exactly if the placeholder occurs in the text.** -/
theorem restorePort_eq_iff (options : ClashOptions) (port port' : Int64) (text : String) :
    restorePort options port text = restorePort options port' text ↔
      port = port' ∨ showsPlaceholder options text = false := by
  have digits : (toString options.hiddenPort.toNat).toList ≠ [] := by
    obtain ⟨d, ds, e, -⟩ := NumberText.exists_toDigits_eq_cons options.hiddenPort.toNat
    simp [e]
  rw [restorePort, restorePort, replaceAll, replaceAll, String.ofList_inj,
    Replace.all_eq_iff digits, String.toList_inj, showsPlaceholder]
  refine or_congr_left ⟨Json.toString_toInt_injective, ?_⟩
  rintro rfl
  rfl

/-! ## Runs

A run is a list of visits, one after the other.  The inbounds that a visit meets have nothing to do
with those of the visits before. -/

/-- A request, and the world it meets: the inbounds, and the time. -/
structure Visit where
  email : String
  host : String
  store : InboundStore
  now : Int64

section Runs

variable {κ : Type} (cache : CacheStore κ) (convert : String → Except Fault String)
  (options : ClashOptions)

/-- What a visit has to be served with: the link, and the port of the inbound. -/
def Visit.prepared (v : Visit) : Except Failure Prepared := prepare v.store options v.email v.host

/-- Serves a visit. -/
def Visit.outcome (v : Visit) (state : κ) : Outcome κ :=
  serve v.store cache convert options v.now state v.email v.host

/-- The cache after a run. -/
def after (start : κ) (vs : List Visit) : κ :=
  vs.foldl (fun state v => (v.outcome cache convert options state).cache) start

/-- One of the visits of a run, for an e-mail, met `p`, had its link converted, and was answered
with a document. -/
def ConvertedIn (start : κ) (vs : List Visit) (email document : String) (p : Prepared) : Prop :=
  ∃ before v later, vs = before ++ v :: later ∧ v.email = email ∧ v.prepared options = .ok p ∧
    (v.outcome cache convert options (after cache convert options start before)).sent =
      some p.link ∧
    (v.outcome cache convert options (after cache convert options start before)).answer =
      .ok document

/-- Every kept document is the answer of a visit that had a link converted, under the fingerprint of
that link. -/
def Explained (entries : κ → List CacheEntry) (start : κ) (vs : List Visit) : Prop :=
  ∀ e ∈ entries (after cache convert options start vs),
    ∃ p, ConvertedIn cache convert options start vs e.email e.yamlContent p ∧
      e.urlFingerprint = fingerprint p.link

/-- The links of the visits can be told apart by their fingerprints. -/
def TellsApart (vs : List Visit) : Prop :=
  ∀ v ∈ vs, ∀ w ∈ vs, ∀ p q, v.prepared options = .ok p → w.prepared options = .ok q →
    fingerprint p.link = fingerprint q.link → p.link = q.link

variable {cache convert options} {start : κ} {vs : List Visit} {v : Visit}

theorem ConvertedIn.snoc {email document : String} {p : Prepared}
    (h : ConvertedIn cache convert options start vs email document p) (v : Visit) :
    ConvertedIn cache convert options start (vs ++ [v]) email document p := by
  obtain ⟨before, u, later, rfl, facts⟩ := h
  exact ⟨before, u, later ++ [v], by simp, facts⟩

/-- The visit that made a document met a port, and the document shows it. -/
theorem ConvertedIn.document_eq {email document : String} {p : Prepared}
    (h : ConvertedIn cache convert options start vs email document p) :
    (∃ u ∈ vs, u.prepared options = .ok p) ∧
      ∃ text, convert p.link = .ok text ∧ document = restorePort options p.port text := by
  obtain ⟨before, u, later, rfl, -, prepared, sent, answered⟩ := h
  refine ⟨⟨u, by simp, prepared⟩, ?_⟩
  obtain ⟨q, prepared', cases_⟩ := serve_cases answered
  obtain rfl := Except.ok.inj (prepared.symm.trans prepared')
  rcases cases_ with ⟨e, -, -, -, outcome⟩ | ⟨cached, text, -, converted, document, -⟩
  · rw [Visit.outcome, outcome] at sent
    cases sent
  · exact ⟨text, converted, document⟩

/-- One more visit keeps every document explained. -/
theorem Explained.snoc {entries : κ → List CacheEntry} (keeps : cache.Keeps entries)
    (h : Explained cache convert options entries start vs) (v : Visit) :
    Explained cache convert options entries start (vs ++ [v]) := by
  intro e he
  have old : e ∈ entries (after cache convert options start vs) →
      ∃ p, ConvertedIn cache convert options start (vs ++ [v]) e.email e.yamlContent p ∧
        e.urlFingerprint = fingerprint p.link := by
    intro he
    obtain ⟨p, made, same⟩ := h e he
    exact ⟨p, made.snoc v, same⟩
  rw [after, List.foldl_concat, ← after] at he
  cases answered : (v.outcome cache convert options (after cache convert options start vs)).answer
    with
  | error failure =>
    rw [Visit.outcome, serve_cache_of_error answered] at he
    exact old he
  | ok answer =>
    obtain ⟨p, prepared, cases_⟩ := serve_cases answered
    rcases cases_ with ⟨-, -, -, -, outcome⟩ | ⟨cached, text, found, -, -, outcome⟩
    · rw [Visit.outcome, outcome] at he
      exact old he
    · have sent : (v.outcome cache convert options (after cache convert options start vs)).sent =
          some p.link := by rw [Visit.outcome, outcome]
      rw [Visit.outcome, outcome] at he
      have named_ : ∀ e, cached = some e → e.email = v.email := by
        rintro e rfl
        exact (keeps.mem_of_find? found).2
      rcases mem_record keeps named_ e he with before | ⟨named, print, document⟩
      · exact old before
      · refine ⟨p, ⟨vs, v, [], rfl, named.symm, prepared, sent, ?_⟩, print⟩
        rw [answered, document]

/-- **A run from an empty cache keeps every document explained.** -/
theorem explained {entries : κ → List CacheEntry} (keeps : cache.Keeps entries)
    (empty : entries start = []) (vs : List Visit) :
    Explained cache convert options entries start vs := by
  induction vs using List.reverseRecOn with
  | nil =>
    intro e he
    rw [after, List.foldl_nil, empty] at he
    exact absurd he List.not_mem_nil
  | append_singleton vs v ih => exact ih.snoc keeps v

/-- Every answer is the document of a visit, this one or an earlier one, that had the same link
converted. -/
theorem convertedIn_of_answer {entries : κ → List CacheEntry} (keeps : cache.Keeps entries)
    (empty : entries start = []) (apart : TellsApart options (vs ++ [v])) {answer : String}
    (h : (v.outcome cache convert options (after cache convert options start vs)).answer =
      .ok answer) :
    ∃ p q, v.prepared options = .ok p ∧ q.link = p.link ∧
      ConvertedIn cache convert options start (vs ++ [v]) v.email answer q := by
  obtain ⟨p, prepared, cases_⟩ := serve_cases h
  rcases cases_ with ⟨e, found, print, rfl, -⟩ | ⟨cached, text, -, -, -, outcome⟩
  · obtain ⟨held, named⟩ := keeps.mem_of_find? found
    obtain ⟨q, made, print'⟩ := explained keeps empty vs e held
    obtain ⟨⟨u, hu, prepared'⟩, -⟩ := made.document_eq
    have link := apart u (by simp [hu]) v (by simp) q p prepared' prepared (print'.symm.trans print)
    exact ⟨p, q, prepared, link, named ▸ made.snoc v⟩
  · refine ⟨p, p, prepared, rfl, vs, v, [], rfl, rfl, prepared, ?_, h⟩
    rw [Visit.outcome, outcome]

end Runs

/-- **An answer is up to date exactly if the visit that it was converted for met the port of now, or
the converter's text does not use the placeholder.**  The visit is this one or an earlier one, and
it met the same link. -/
theorem answer_eq_restorePort_iff {convert : String → Except Fault String}
    {options : ClashOptions} {start : Backend} {vs : List Visit} {v : Visit} {answer : String}
    (empty : start.entries = []) (apart : TellsApart options (vs ++ [v]))
    (answered : (v.outcome Backend.cacheStore convert options
      (after Backend.cacheStore convert options start vs)).answer = .ok answer) :
    ∃ p q text, v.prepared options = .ok p ∧ convert p.link = .ok text ∧ q.link = p.link ∧
      ConvertedIn Backend.cacheStore convert options start (vs ++ [v]) v.email answer q ∧
      (answer = restorePort options p.port text ↔
        q.port = p.port ∨ showsPlaceholder options text = false) := by
  obtain ⟨p, q, prepared, link, made⟩ := convertedIn_of_answer Backend.keeps empty apart answered
  obtain ⟨-, text, converted, rfl⟩ := made.document_eq
  exact ⟨p, q, text, prepared, link ▸ converted, link, made, restorePort_eq_iff options _ _ text⟩

/-! ## A listener that moves -/

/-- A visit to the inbound that `kim` has on a port. -/
def visitAt (port : Int64) : Visit := ⟨"kim", "h.example", MemoryInbounds.store [edgeAt port], 0⟩

/-- The link of such a visit. -/
def linkAt : String := "vless://key@h.example:45556?security=none&type=tcp#Edge-kim"

/-- The answer to a visit after the listener has moved from port 443 to port 8443. -/
def answerMoved : Except Failure String :=
  ((visitAt 8443).outcome Backend.cacheStore portConverter plainOptions
    (after Backend.cacheStore portConverter plainOptions (.memory [] {}) [visitAt 443])).answer

theorem prepared_visitAt_443 : (visitAt 443).prepared plainOptions = .ok ⟨linkAt, 443⟩ := by
  decide +kernel

theorem prepared_visitAt_8443 : (visitAt 8443).prepared plainOptions = .ok ⟨linkAt, 8443⟩ := by
  decide +kernel

theorem answerMoved_eq : answerMoved = .ok "port: 443" := by decide +kernel

/-- **The document for the former port is served**, though the inbound of now listens on another. -/
theorem answerMoved_shows_former_port :
    answerMoved = .ok "port: 443" ∧
      (visitAt 8443).prepared plainOptions = .ok ⟨linkAt, 8443⟩ ∧
      (portConverter linkAt).map (restorePort plainOptions 8443) = .ok "port: 8443" :=
  ⟨answerMoved_eq, prepared_visitAt_8443, by decide +kernel⟩

/-- That document was converted for a visit that met another port. -/
theorem answerMoved_converted_for_former_port :
    ∃ q, ConvertedIn Backend.cacheStore portConverter plainOptions (.memory [] {})
      [visitAt 443, visitAt 8443] "kim" "port: 443" q ∧ q.port ≠ 8443 := by
  have links : ∀ v ∈ [visitAt 443] ++ [visitAt 8443], ∀ p, v.prepared plainOptions = .ok p →
      p.link = linkAt := by
    intro v hv p hp
    rcases List.mem_pair.1 hv with rfl | rfl
    · obtain rfl := Except.ok.inj (hp.symm.trans prepared_visitAt_443)
      rfl
    · obtain rfl := Except.ok.inj (hp.symm.trans prepared_visitAt_8443)
      rfl
  have apart : TellsApart plainOptions ([visitAt 443] ++ [visitAt 8443]) :=
    fun v hv w hw p q hp hq _ => (links v hv p hp).trans (links w hw q hq).symm
  obtain ⟨p, q, text, prepared, converted, -, made, iff⟩ :=
    answer_eq_restorePort_iff rfl apart answerMoved_eq
  refine ⟨q, made, fun same => ?_⟩
  obtain rfl := Except.ok.inj (prepared.symm.trans prepared_visitAt_8443)
  have current := iff.2 (.inl same)
  obtain rfl := Except.ok.inj converted
  have other : "port: 443" ≠ restorePort plainOptions 8443 "port: 45556" := by decide +kernel
  exact other current

end Clash
end ProxyFeed
