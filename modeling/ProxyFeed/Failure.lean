import ProxyFeed.Json.Writer

/-!
# Failures

What can go wrong while a request is answered.

## What is here

* `Fault` — an explanation and the explanations behind it, from the outside in.
* `Failure` — the four ways a request fails, with the message and the HTTP status of each.
-/

set_option autoImplicit false
namespace ProxyFeed

/-- Results can be compared with each other, failed ones included. -/
instance instDecidableEqResult {ε α : Type} [DecidableEq ε] [DecidableEq α] :
    DecidableEq (Except ε α)
  | .ok a, .ok b => decidable_of_iff (a = b) ⟨congrArg _, Except.ok.inj⟩
  | .error e, .error f => decidable_of_iff (e = f) ⟨congrArg _, Except.error.inj⟩
  | .ok _, .error _ => isFalse nofun
  | .error _, .ok _ => isFalse nofun

/-- An explanation of what went wrong, and what lies behind it, from the outside in. -/
structure Fault where
  message : String
  causes : List String := []
deriving DecidableEq, Repr

namespace Fault

/-- All explanations, from the outside in. -/
def chain (f : Fault) : String := ": ".intercalate (f.message :: f.causes)

end Fault

/-- A failed request. -/
inductive Failure where
  | badRequest (text : String)
  | notFound (text : String)
  /-- The stored configuration could not be read. -/
  | store (fault : Fault)
  /-- The converter gave no document. -/
  | conversion (fault : Fault)
deriving DecidableEq, Repr

namespace Failure

/-- The message shown to the client. -/
def message : Failure → String
  | .badRequest text => "Bad request: " ++ text
  | .notFound text => "Not found: " ++ text
  | .store fault => "Store error: " ++ fault.chain
  | .conversion fault => "Conversion failed: " ++ fault.chain

/-- The HTTP status. -/
def status : Failure → Nat
  | .badRequest _ => 400
  | .notFound _ => 404
  | .store _ => 500
  | .conversion _ => 500

/-- The body of the HTTP answer. -/
def body (f : Failure) : String :=
  (Json.obj [("success", .bool false), ("message", .str f.message)]).compact

end Failure
end ProxyFeed
