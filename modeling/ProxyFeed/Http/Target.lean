import ProxyFeed.Text.Percent

/-!
# Request targets

The target of an HTTP request is a path, an absolute URI, an authority or an asterisk.

## What is here

* `Target.path?` — the path in a target, not yet decoded; `none` if HTTP does not allow the target.

Paths and queries may hold any character beyond ASCII.  An authority is checked for its alphabet,
its brackets, its `@` and its colons.
-/

set_option autoImplicit false
namespace ProxyFeed
namespace Target

/-- A character allowed in a path. -/
def isPathChar (c : Char) : Bool :=
  let n := c.toNat
  n = 0x21 || n = 0x22 || (0x24 ≤ n && n ≤ 0x3B) || n = 0x3D || (0x40 ≤ n && n ≤ 0x5F) ||
    (0x61 ≤ n && n ≠ 0x7F)

/-- A character allowed in a query. -/
def isQueryChar (c : Char) : Bool :=
  let n := c.toNat
  n = 0x21 || (0x24 ≤ n && n ≤ 0x3B) || n = 0x3D || (0x3F ≤ n && n ≠ 0x7F)

/-- The path of a path with an optional query and an optional fragment, which is not looked at. -/
def pathAndQuery? (cs : List Char) : Option (List Char) :=
  let path := cs.takeWhile fun c => c ≠ '?' && c ≠ '#'
  let query :=
    match cs.dropWhile fun c => c ≠ '?' && c ≠ '#' with
    | '?' :: rest => rest.takeWhile (· ≠ '#')
    | _ => []
  if path.all isPathChar && query.all isQueryChar then some path else none

/-- A character allowed in an authority. -/
def isAuthorityChar (c : Char) : Bool :=
  Percent.isAlphanumeric c || "-._~!$&'()*+,;=:@[]%".toList.contains c

/-- Where an authority stands while it is read: colons since the last `@`, brackets, and whether an
escape may still be part of a userinfo. -/
structure AuthorityState where
  colons : Nat := 0
  opened : Bool := false
  closed : Bool := false
  percent : Bool := false
  afterAt : Option Nat := none
deriving Repr

/-- The most colons in a row of an authority: those of an IPv6 address and one before a port. -/
def maxColons : Nat := 8

/-- Reads one character of an authority. -/
def feedAuthority (s : AuthorityState) (c : Char) : Option AuthorityState :=
  let s := { s with afterAt := s.afterAt.map (· + 1) }
  if !isAuthorityChar c then none
  else if c = ':' then
    if maxColons ≤ s.colons then none else some { s with colons := s.colons + 1 }
  else if c = '[' then
    if s.percent || s.opened then none else some { s with opened := true }
  else if c = ']' then
    if !s.opened || s.closed then none
    else some { s with closed := true, colons := 0, percent := false }
  else if c = '@' then some { s with afterAt := some 0, colons := 0, percent := false }
  else if c = '%' then some { s with percent := true }
  else some s

/-- Is the text an authority? -/
def isAuthority (cs : List Char) : Bool :=
  match cs.foldlM feedAuthority {} with
  | none => false
  | some s => s.opened == s.closed && s.colons ≤ 1 && s.afterAt ≠ some 0 && !s.percent

/-- A character allowed in a scheme. -/
def isSchemeChar (c : Char) : Bool := Percent.isAlphanumeric c || "+-.~".toList.contains c

/-- A text cut at its first `://`, if nothing but a scheme precedes it. -/
def splitScheme? (cs : List Char) : Option (List Char × List Char) :=
  match cs.dropWhile isSchemeChar with
  | ':' :: '/' :: '/' :: rest => some (cs.takeWhile isSchemeChar, rest)
  | _ => none

/-- The greatest length of a scheme. -/
def maxSchemeLength : Nat := 64

/-- The end of an authority. -/
def endsAuthority (c : Char) : Bool := c = '/' || c = '?' || c = '#'

/-- The greatest length of a target in bytes. -/
def maxLength : Nat := 65534

/-- The path in a target, not yet decoded. -/
def path? (target : String) : Option (List Char) :=
  let cs := target.toList
  if maxLength < (utf8 target).length then none
  else
    match cs with
    | [] => none
    | ['*'] => some ['*']
    | '/' :: _ => pathAndQuery? cs
    | _ =>
      match splitScheme? cs with
      | none => if isAuthority cs then some [] else none
      | some (scheme, rest) =>
        let authority := rest.takeWhile fun c => !endsAuthority c
        if scheme.length ≤ maxSchemeLength ∧ authority ≠ [] ∧ isAuthority authority then
          (pathAndQuery? (rest.dropWhile fun c => !endsAuthority c)).map fun path =>
            if path = [] then ['/'] else path
        else none

end Target
end ProxyFeed
