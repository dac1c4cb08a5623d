import AuditFeed.Url.Host

/-!
# URLs

The parts of an absolute URL, each in the form in which it is written. Nothing is left to encode: a
`Url` is made by reading a text, and its parts hold only what the standard lets stand in them.
-/

namespace AuditFeed

/-- The host of a URL, who to be there, and the port if it is not the scheme's own. -/
structure Url.Authority where
  /-- The user. -/
  user : List Char
  /-- The password. -/
  password : List Char
  /-- The host. -/
  host : Url.Host
  /-- The port. -/
  port : Option Nat
deriving DecidableEq

/-- The path of a URL. -/
inductive Url.Path where
  /-- A text without structure. -/
  | bare (text : List Char)
  /-- Segments, each behind a slash. -/
  | segments (names : List (List Char))
deriving DecidableEq

/-- An absolute URL. -/
structure Url where
  /-- The scheme, in lower case. -/
  scheme : List Char
  /-- The authority, if there is one. -/
  authority : Option Url.Authority
  /-- The path. -/
  path : Url.Path
  /-- What follows the question mark, if there is one. -/
  query : Option (List Char)
  /-- What follows the number sign, if there is one. -/
  fragment : Option (List Char)
deriving DecidableEq

namespace Url

/-! ### Writing -/

/-- The text of an authority. -/
def Authority.text (a : Authority) : List Char :=
  let credentials :=
    if a.user.isEmpty && a.password.isEmpty then []
    else a.user ++ (if a.password.isEmpty then [] else ':' :: a.password) ++ ['@']
  let port :=
    match a.port with
    | some n => ':' :: Decimal.digits n
    | none => []
  credentials ++ a.host.text ++ port

/-- The text of a path. -/
def Path.text : Path → List Char
  | bare text => text
  | segments names => names.flatMap ('/' :: ·)

/-- The text of a URL's path. -/
def pathText (u : Url) : String :=
  String.ofList u.path.text

/-- What stands between the scheme and the path. A path that would read as an authority is kept
apart by a dot. -/
def authorityText (u : Url) : List Char :=
  match u.authority, u.path with
  | some a, _ => '/' :: '/' :: a.text
  | none, .segments ([] :: _ :: _) => ['/', '.']
  | none, _ => []

/-- A part with a sign in front of it, if it is there. -/
def marked (sign : Char) : Option (List Char) → List Char
  | some s => sign :: s
  | none => []

/-- The text of a URL. -/
def text (u : Url) : String :=
  String.ofList <|
    u.scheme ++ ':' :: u.authorityText ++ u.path.text ++ marked '?' u.query ++ marked '#' u.fragment

/-! ### Query pairs -/

/-- A URL with pairs after those of its query. -/
def addPairs (u : Url) (pairs : List (String × String)) : Url :=
  let before :=
    match u.query with
    | some (c :: q) => c :: q ++ ['&']
    | _ => []
  { u with query := some (before ++ Text.Form.encode pairs) }

end Url

end AuditFeed
