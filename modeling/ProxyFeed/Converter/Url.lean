import ProxyFeed.Converter.Host
import ProxyFeed.Text.Blank

/-!
# URLs

Absolute URLs, as far as they are needed to send a request with further parameters.

## What is here

* `Url` — the parts of a URL; `Url.parse?` reads one and `Url.text` writes it.
* `Url.addParams` — a URL with pairs appended to its query.

White space and control characters around a text do not count, nor do tabs and line breaks in it.
The web schemes need a host, may use backslashes for slashes, and leave out their usual port.
-/

set_option autoImplicit false
namespace ProxyFeed

/-- A URL without its fragment. -/
structure Url where
  scheme : List Char
  /-- What stands between the scheme and the path: nothing for a URL without an authority. -/
  authority : Option (List Char)
  path : List Char
  query : Option (List Char)
deriving DecidableEq, Repr

namespace Url

/-! ## Alphabets -/

/-- Is the character visible ASCII, and none of a list? -/
def isPlainBut (escaped : String) (c : Char) : Bool :=
  0x20 < c.toNat && c.toNat < 0x7F && !escaped.toList.contains c

/-- A text with everything outside an alphabet escaped; escapes already there are kept. -/
def escapeBut (escaped : String) (cs : List Char) : List Char :=
  Percent.encode (isPlainBut escaped) (Utf8.encode cs)

/-- A path as it stands in a URL. -/
def pathText (cs : List Char) : List Char := escapeBut "\"#<>?\x60\x7b\x7d^" cs

/-- A query as it stands in a URL. -/
def queryText (special : Bool) (cs : List Char) : List Char :=
  escapeBut (if special then "\"#<>'" else "\"#<>") cs

/-- A userinfo as it stands in a URL. -/
def userinfoText (cs : List Char) : List Char :=
  escapeBut "\"#<>?\x60\x7b\x7d/:;=@[\\]^|" cs

/-! ## Parts -/

/-- The usual port for a web scheme. -/
def defaultPort? (scheme : List Char) : Option Nat :=
  if scheme = "http".toList ∨ scheme = "ws".toList then some 80
  else if scheme = "https".toList ∨ scheme = "wss".toList then some 443
  else if scheme = "ftp".toList then some 21
  else none

/-- A character of a scheme after its first. -/
def isSchemeChar (c : Char) : Bool := Percent.isAlphanumeric c || c = '+' || c = '-' || c = '.'

/-- The scheme in lower case, and what follows its colon. -/
def splitScheme? (cs : List Char) : Option (List Char × List Char) :=
  let scheme := cs.takeWhile isSchemeChar
  match cs.drop scheme.length with
  | ':' :: rest =>
    if scheme.head?.any Char.isAlpha then some (scheme.map Char.toLower, rest) else none
  | _ => none

/-- The text without white space and control characters around it, and without tabs and line breaks
in it. -/
def clean (s : String) : List Char :=
  (Blank.trimBy (fun c => c.toNat ≤ 0x20) s.toList).filter fun c => c ≠ '\t' && c ≠ '\n' && c ≠ '\r'

/-- A port: decimal digits up to 65535, or nothing. -/
def port? (cs : List Char) : Option (Option Nat) :=
  if cs = [] then some none
  else if cs.all fun c => '0' ≤ c && c ≤ '9' then
    let n := cs.foldl (fun n d => n * 10 + (d.toNat - '0'.toNat)) 0
    if n ≤ 65535 then some (some n) else none
  else none

/-- A host text, and what follows the colon of its port if there is one; colons in brackets do not
count. -/
def splitPort : Bool → List Char → List Char × Option (List Char)
  | _, [] => ([], none)
  | inside, c :: cs =>
    if c = ':' ∧ !inside then ([], some cs)
    else
      let (host, port) := splitPort (if c = '[' then true else if c = ']' then false else inside) cs
      (c :: host, port)

/-- The text of a host; a web scheme needs one. -/
def host? (special : Bool) (cs : List Char) : Option (List Char) :=
  if special then if cs = [] then none else UrlHost.parse? cs
  else
    match cs with
    | '[' :: rest => UrlHost.bracketed? rest
    | _ => if UrlHost.isVerbatim cs then some (escapeBut "" cs) else none

/-- A userinfo as it stands in a URL, with the `@` after it unless it is empty. -/
def credentials (userinfo : List Char) : List Char :=
  let user := userinfo.takeWhile (· ≠ ':')
  let password := (userinfo.dropWhile (· ≠ ':')).drop 1
  if user = [] ∧ password = [] then []
  else userinfoText user ++ (if password = [] then [] else ':' :: userinfoText password) ++ ['@']

/-- The authority of a URL as it stands in it, and what is left of its text after a backslash that
ends a port.  An empty userinfo needs a host, unless nothing `follows` at all. -/
def authority? (scheme cs : List Char) (follows : Bool) : Option (List Char × List Char) := do
  let hostPort := (cs.reverse.takeWhile (· ≠ '@')).reverse
  let userinfo := cs.take (cs.length - hostPort.length - 1)
  let (hostText, portText) := splitPort false hostPort
  let host ← host? (defaultPort? scheme).isSome hostText
  let digits := (portText.getD []).takeWhile (· ≠ '\\')
  let port ← port? digits
  let bare := userinfo = [] ∧ hostPort.length < cs.length
  if hostText = [] ∧
      (portText.isSome ∨ credentials userinfo ≠ [] ∨ (bare ∧ hostPort = [] ∧ follows)) then none
  else
    let portPart :=
      match port with
      | none => []
      | some n => if defaultPort? scheme = some n then [] else ':' :: Nat.toDigits 10 n
    some (credentials userinfo ++ host ++ portPart, (portText.getD []).drop digits.length)

/-- Is the segment a single dot? -/
def isDot (s : List Char) : Bool := s.map Char.toLower ∈ [".".toList, "%2e".toList]

/-- Is the segment a double dot? -/
def isDoubleDot (s : List Char) : Bool :=
  s.map Char.toLower ∈ ["..".toList, ".%2e".toList, "%2e.".toList, "%2e%2e".toList]

/-- Segments of a path with the dots resolved; `done` holds the finished ones in reverse.  Dots at
the end leave an empty last segment. -/
def resolveDots (done : List (List Char)) : List (List Char) → List (List Char)
  | [] => done.reverse
  | s :: rest =>
    if isDoubleDot s then
      if rest = [] then ([] :: done.drop 1).reverse else resolveDots (done.drop 1) rest
    else if isDot s then
      if rest = [] then ([] :: done).reverse else resolveDots done rest
    else resolveDots (s :: done) rest

/-- A path after its first slash, with the dots resolved. -/
def pathOf (special : Bool) (cs : List Char) : List Char :=
  let cs := if special then cs.map fun c => if c = '\\' then '/' else c else cs
  '/' :: pathText (['/'].intercalate (resolveDots [] (Form.splitAt '/' (cs.drop 1))))

/-- Is the character a slash, or a backslash where that is as good? -/
def isSlash (special : Bool) (c : Char) : Bool := c = '/' || (special && c = '\\')

/-- The authority and the path of a URL after the slashes before its authority. -/
def authorityAndPath? (scheme cs : List Char) (follows : Bool) :
    Option (List Char × List Char) := do
  let special := (defaultPort? scheme).isSome
  let text := cs.takeWhile fun c => !isSlash special c
  let path := cs.drop text.length
  let (authority, rest) ← authority? scheme text (follows || path ≠ [])
  let path := if rest = [] then path else '/' :: (rest ++ path)
  some (authority, if path = [] ∧ !special then [] else pathOf special path)

/-- Is the text a letter and a colon, or a bar for it, which names a drive? -/
def isDrive (cs : List Char) : Bool :=
  match cs with
  | [c, d] => c.isAlpha && (d = ':' || d = '|')
  | _ => false

/-- The host and the path of a file URL after its scheme.  A host stands between two slashes and the
next one; this machine and a drive are no hosts. -/
def hostAndPath? (cs : List Char) : Option (List Char × List Char) :=
  match cs with
  | a :: b :: rest =>
    if isSlash true a && isSlash true b then
      let text := rest.takeWhile fun c => !isSlash true c
      if text = [] ∨ isDrive text then some ([], pathOf true ('/' :: rest))
      else
        (UrlHost.parse? text).map fun host =>
          (if host = "localhost".toList then [] else host, pathOf true (rest.drop text.length))
    else some ([], pathOf true (if isSlash true a then cs else '/' :: cs))
  | _ => some ([], pathOf true (if cs.head?.any (isSlash true) then cs else '/' :: cs))

/-- Reads a URL. -/
def parse? (s : String) : Option Url := do
  let (scheme, whole) ← splitScheme? (clean s)
  let special := (defaultPort? scheme).isSome
  let rest := whole.takeWhile (· ≠ '#')
  let query :=
    match rest.dropWhile (· ≠ '?') with
    | _ :: q => some (queryText (special || scheme = "file".toList) q)
    | [] => none
  let hier := rest.takeWhile (· ≠ '?')
  let follows := hier.length < whole.length
  if special then do
    let (authority, path) ← authorityAndPath? scheme (hier.dropWhile (isSlash true)) follows
    some ⟨scheme, some authority, path, query⟩
  else if scheme = "file".toList then do
    let (host, path) ← hostAndPath? hier
    some ⟨scheme, some host, path, query⟩
  else
    match hier with
    | '/' :: '/' :: more => do
      let (authority, path) ← authorityAndPath? scheme more follows
      some ⟨scheme, some authority, path, query⟩
    | '/' :: _ => some ⟨scheme, none, pathOf false hier, query⟩
    | _ => some ⟨scheme, none, escapeBut "" hier, query⟩

/-- The text of a URL. -/
def text (u : Url) : String :=
  let authority :=
    match u.authority with
    | some a => '/' :: '/' :: a
    | none => []
  let query :=
    match u.query with
    | some q => '?' :: q
    | none => []
  String.ofList (u.scheme ++ ':' :: (authority ++ u.path ++ query))

/-- The URL with pairs appended to its query. -/
def addParams (u : Url) (pairs : List (String × String)) : Url :=
  let before :=
    match u.query with
    | some [] => []
    | some q => q ++ ['&']
    | none => []
  { u with query := some (before ++ Form.encode pairs) }

end Url
end ProxyFeed
