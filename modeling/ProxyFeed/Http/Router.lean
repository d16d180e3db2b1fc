import ProxyFeed.Clash.Basic
import ProxyFeed.Http.Host
import ProxyFeed.Http.Pattern
import ProxyFeed.Http.Target
import ProxyFeed.Subscription.Basic

/-!
# The HTTP service

Three routes: a health check, the subscriptions under a configured path, and the Clash documents.

## What is here

* `Route` — what a path asks for; `Route.ofPath?` finds it by the patterns of the routes.
* `Service` — the stores, the converter and the settings that answers depend on.
* `Service.handle` — the answer to a request, what was sent to the converter, and the cache
  afterwards; `none` if HTTP does not allow the request.

A route answers `GET`, and `HEAD` by leaving out the body.
-/

set_option autoImplicit false
namespace ProxyFeed

/-- What a path asks for. -/
inductive Route where
  | health
  | subscription
  | clash
deriving DecidableEq, Repr

namespace Route

/-- The routes and their patterns; subscriptions stand under a configured path. -/
def patterns (subPath : String) : List (Route × Pattern) :=
  [(.health, .ofText "/health"),
    (.clash, .ofText "/clash/subscription/\x7bemail\x7d"),
    (.subscription, .ofText (subPath ++ "\x7bsub_id\x7d"))]

/-- The route a path belongs to among those whose pattern it has, with its parameters. -/
def ofPath? (subPath : String) (path : List Char) : Option (Route × PathArguments) :=
  let found := (patterns subPath).filterMap fun r =>
    (r.2.match? path).map fun arguments => (r.1, r.2, arguments)
  match found with
  | [] => none
  | first :: others =>
    let best := others.foldl (fun best r => if r.2.1.precedes best.2.1 then r else best) first
    some (best.1, best.2.2)

end Route

/-- The settings that answers depend on. -/
structure ServiceOptions where
  subPath : String
  remarkModel : String
  showInfo : Bool
  /-- Is the body of a subscription in base64? -/
  encrypt : Bool
  /-- Hours between updates, told to the subscriber. -/
  updateInterval : UInt32
  title : String
  hiddenPort : UInt16
deriving DecidableEq, Repr

/-- Everything a request is answered from: settings, stores, converter and clock. -/
structure Service (κ : Type) where
  options : ServiceOptions
  inbounds : InboundStore
  cache : CacheStore κ
  convert : String → Except Fault String
  now : Int64

/-- An answer, the link sent to the converter for it, and the cache afterwards. -/
structure Handled (κ : Type) where
  response : Response
  sent : Option String
  cache : κ

namespace Service

/-- The type of plain bodies. -/
def plainText : String × String := ("content-type", "text/plain; charset=utf-8")

/-- The answer to a failed request. -/
def failed (f : Failure) : Response := ⟨f.status, [("content-type", "application/json")], f.body⟩

/-- The answer when a parameter of a path is not UTF-8. -/
def invalidArgument (name : String) : Response :=
  ⟨400, [plainText], "Invalid URL: Invalid UTF-8 in \x60" ++ name ++ "\x60"⟩

/-- The answer when a path has other than one parameter. -/
def wrongArgumentCount (count : Nat) : Response :=
  ⟨500, [plainText],
    "Wrong number of path arguments for \x60Path\x60. Expected 1 but got " ++ toString count ++
      ". Note that multiple parameters must be extracted with a tuple \x60Path<(_, _)>\x60" ++
      " or a struct \x60Path<YourParams>\x60"⟩

/-- The text of a parameter. -/
def argumentText? (value : List Char) : Option String :=
  (Utf8.decode? (Percent.decode value)).map String.ofList

/-- The text of the only parameter.  Every parameter has to be UTF-8, before they are counted. -/
def soleArgument (arguments : PathArguments) : Except Response String := do
  let texts ← arguments.mapM fun a =>
    match argumentText? a.2 with
    | some text => .ok text
    | none => .error (invalidArgument a.1)
  match texts with
  | [text] => return text
  | _ => throw (wrongArgumentCount texts.length)

/-- How subscriptions are named. -/
def subscriptionOptions (o : ServiceOptions) : SubscriptionOptions := ⟨o.remarkModel, o.showInfo⟩

/-- How links for Clash documents are rendered. -/
def clashOptions (o : ServiceOptions) : ClashOptions := ⟨o.remarkModel, o.hiddenPort⟩

/-- The answer with the links of a subscription. -/
def subscriptionResponse (o : ServiceOptions) (links : List String) (userinfo : String) :
    Response :=
  let text := "\n".intercalate links
  let title :=
    if o.title = "" then [] else [("profile-title", "base64:" ++ base64 (utf8 o.title))]
  ⟨200,
    plainText :: ("subscription-userinfo", userinfo) ::
      ("profile-update-interval", toString o.updateInterval.toNat) :: title,
    if o.encrypt then base64 (utf8 text) else text⟩

/-- The answer with a Clash document. -/
def clashResponse (document : String) : Response :=
  ⟨200,
    [("content-type", "application/x-yaml; charset=utf-8"),
      ("content-disposition", "attachment; filename=clash-config.yaml"),
      ("cache-control", "public, max-age=300")],
    document⟩

/-- Answers a request for a subscription. -/
def answerSubscription {κ ρ : Type} [SpiderSource ρ] (s : Service κ) (sources : Nat → ρ)
    (headers : Headers) (subId : String) : Response :=
  match Subscription.fetch s.inbounds (subscriptionOptions s.options) sources subId
      (Host.ofHeaders headers) with
  | .ok (links, userinfo) => subscriptionResponse s.options links userinfo
  | .error f => failed f

/-- Answers a request for a Clash document; white space around the e-mail does not count. -/
def answerClash {κ : Type} (s : Service κ) (cache : κ) (headers : Headers) (segment : String) :
    Handled κ :=
  let email := trimmed segment
  if email = "" then ⟨failed (.badRequest "email is required"), none, cache⟩
  else
    let outcome := Clash.serve s.inbounds s.cache s.convert (clashOptions s.options) s.now cache
      email (Host.ofHeaders headers)
    match outcome.answer with
    | .ok document => ⟨clashResponse document, outcome.sent, outcome.cache⟩
    | .error f => ⟨failed f, outcome.sent, outcome.cache⟩

/-- Answers a request on a route. -/
def answerRoute {κ ρ : Type} [SpiderSource ρ] (s : Service κ) (sources : Nat → ρ) (cache : κ)
    (headers : Headers) (arguments : PathArguments) : Route → Handled κ
  | .health => ⟨⟨200, [plainText], "OK"⟩, none, cache⟩
  | .subscription =>
    match soleArgument arguments with
    | .error response => ⟨response, none, cache⟩
    | .ok subId => ⟨s.answerSubscription sources headers subId, none, cache⟩
  | .clash =>
    match soleArgument arguments with
    | .error response => ⟨response, none, cache⟩
    | .ok email => s.answerClash cache headers email

/-- An answer without its body. -/
def withoutBody {κ : Type} (h : Handled κ) : Handled κ :=
  { h with response := { h.response with body := "" } }

/-- May HTTP carry the request's method and headers? -/
def isAllowed (r : Request) : Bool :=
  Headers.isToken r.method && r.headers.all fun h => Headers.isToken h.1 && Headers.isValue h.2

/-- Answers a request. -/
def handle {κ ρ : Type} [SpiderSource ρ] (s : Service κ) (sources : Nat → ρ) (cache : κ)
    (r : Request) : Option (Handled κ) :=
  match Target.path? r.target with
  | none => none
  | some path =>
    if !isAllowed r then none
    else
      match Route.ofPath? s.options.subPath path with
      | none => some ⟨⟨404, [], ""⟩, none, cache⟩
      | some (route, arguments) =>
        if r.method = "GET" then some (s.answerRoute sources cache r.headers arguments route)
        else if r.method = "HEAD" then
          some (withoutBody (s.answerRoute sources cache r.headers arguments route))
        else some ⟨⟨405, [("allow", "GET,HEAD")], ""⟩, none, cache⟩

end Service
end ProxyFeed
