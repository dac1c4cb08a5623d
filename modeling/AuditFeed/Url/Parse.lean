import AuditFeed.Text.Percent
import AuditFeed.Url.Basic

/-!
# Reading URLs

An absolute URL as browsers read it: blanks around it and line breaks inside it do not count, the
schemes of the web take any number of slashes and either kind, segments that mean "here" or "up" are
resolved, and characters that cannot stand in a part are encoded rather than refused. What is
refused is a missing scheme, a host that cannot be one, and a port that is no number below 65536.
-/

namespace AuditFeed.Url

/-- The schemes of the web and their ports. -/
def webPorts : List (String × Nat) :=
  [("http", 80), ("https", 443), ("ws", 80), ("wss", 443), ("ftp", 21)]

/-- The port of a scheme. -/
def defaultPort? (scheme : List Char) : Option Nat :=
  webPorts.lookup (String.ofList scheme)

/-- The three manners of reading what follows a scheme. -/
inductive Manner where
  /-- A scheme of the web. -/
  | web
  /-- Files. -/
  | file
  /-- Any other scheme. -/
  | plain
deriving DecidableEq

/-- The manner of a scheme. -/
def Manner.ofScheme (scheme : List Char) : Manner :=
  if (defaultPort? scheme).isSome then .web
  else if scheme = "file".toList then .file
  else .plain

/-- Does this character separate segments? -/
def Manner.isSlash (m : Manner) (c : Char) : Bool :=
  c == '/' || (m != .plain && c == '\\')

/-- Does this character end an authority? -/
def Manner.endsAuthority (m : Manner) (c : Char) : Bool :=
  m.isSlash c || c == '?' || c == '#'

/-! ### Encoding -/

/-- Encodes control characters, characters beyond ASCII and some others. -/
def encodeAll (others : List Char) (s : List Char) : List Char :=
  Text.percentEncode (fun c ↦ 0x20 ≤ c.toNat && c.toNat < 0x7F && !others.contains c) s

/-- What is encoded in a fragment. -/
def fragmentOthers : List Char := " \"<>\x60".toList

/-- What is encoded in a path. -/
def pathOthers : List Char := fragmentOthers ++ "#?\x7b\x7d".toList

/-- What is encoded in the credentials. -/
def credentialOthers : List Char := pathOthers ++ "/:;=@[\\]^|".toList

/-- What is encoded in a query. -/
def queryOthers (m : Manner) : List Char :=
  " \"#<>".toList ++ if m = .plain then [] else ['\'']

/-! ### Parts -/

/-- The text before and after the first character of a kind. -/
def cut (stop : Char → Bool) (s : List Char) : List Char × Option (List Char) :=
  let before := s.takeWhile (!stop ·)
  (before, (s.drop before.length).tail?)

/-- The text after its last `@`, and the credentials before it. -/
def splitCredentials (s : List Char) : Option (List Char) × List Char :=
  if s.contains '@' then
    let host := (s.reverse.takeWhile (· != '@')).reverse
    (some (s.take (s.length - host.length - 1)), host)
  else (none, s)

/-- The text before the colon that starts a port; a colon between brackets starts none. -/
def hostPart : Bool → List Char → List Char
  | _, [] => []
  | bracketed, c :: s =>
    if c = ':' ∧ bracketed = false then []
    else c :: hostPart (c == '[' || (bracketed && c != ']')) s

/-- The port that digits write, unless it is the scheme's own. -/
def readPort (scheme : List Char) (s : List Char) : Except Error (Option Nat) :=
  if s.isEmpty then .ok none
  else
    match (Text.number? s).filter (· < 65536) with
    | some n => .ok (if defaultPort? scheme = some n then none else some n)
    | none => .error .invalidPort

/-- The authority that a text writes, and the text behind its port. Credentials are those in front
of the last `@`; they need a host unless nothing is left of them. A sign directly behind an `@` that
has nothing in front of it is an error, which `closed` tells. -/
def readAuthority (scheme : List Char) (m : Manner) (closed : Bool) (s : List Char) :
    Except Error (Authority × List Char) := do
  let (credentials, rest) := splitCredentials s
  if credentials = some [] ∧ rest.isEmpty ∧ closed then throw .emptyHost
  let (user, password) := cut (· == ':') (credentials.getD [])
  let user := encodeAll credentialOthers user
  let password := encodeAll credentialOthers (password.getD [])
  let hostText := hostPart false rest
  let (portText, behind) := match rest.drop hostText.length with
    | _ :: port => (some (port.takeWhile (· != '\\')), port.dropWhile (· != '\\'))
    | [] => (none, [])
  if hostText.isEmpty ∧ (m = .web ∨ portText.isSome ∨ user ≠ [] ∨ password ≠ []) then
    throw .emptyHost
  let host ← if m = .plain then Host.parsePlain hostText else Host.parse hostText
  let port ← readPort scheme (portText.getD [])
  return (⟨user, password, host, port⟩, behind)

/-- The authority of a file: a host, which may be missing, and nothing else. -/
def readFileAuthority (s : List Char) : Except Error Authority := do
  let host ← if s.isEmpty then pure (Host.domain []) else Host.parse s
  return ⟨[], [], if host = .domain "localhost".toList then .domain [] else host, none⟩

/-! ### Paths -/

/-- The writings of the segment that means "here". -/
def hereNames : List String := [".", "%2e"]

/-- The writings of the segment that means "up". -/
def upNames : List String := ["..", ".%2e", "%2e.", "%2e%2e"]

/-- Is this a letter that names a drive? -/
def isDrive : List Char → Bool
  | [c, d] => c.isAlpha && (d == ':' || d == '|')
  | _ => false

/-- Is this a segment that nothing goes up from: a drive, up to a sign that ends a segment for some
schemes? -/
def isTop (segment : List Char) : Bool :=
  isDrive (segment.take 2) && ((segment.drop 2).head?.all (· == '\\'))

/-- The segments after going up from the last of them, which comes first. -/
def goUp : List (List Char) → List (List Char)
  | [] => []
  | s :: before => if isTop s then s :: before else before

/-- The usual writing of a drive at the start of a file's path. -/
def drive (segment : List Char) : List Char :=
  if isDrive segment then segment.take 1 ++ [':'] else segment

/-- Resolves segments onto those before them, which are held in reverse. -/
def resolve (m : Manner) : List (List Char) → List (List Char) → List (List Char)
  | before, [] => before.reverse
  | before, s :: rest =>
    let name := String.ofList (s.map Char.toLower)
    let stays := fun before ↦
      if rest.isEmpty then ([] :: before).reverse else resolve m before rest
    if upNames.contains name then stays (goUp before)
    else if hereNames.contains name then stays before
    else
      let s := encodeAll pathOthers s
      resolve m ((if m = .file ∧ before.isEmpty then drive s else s) :: before) rest

/-- The segments of a path, without the slash in front of the first. -/
def readSegments (m : Manner) (s : List Char) : List (List Char) :=
  resolve m [] (s.splitOnP m.isSlash)

/-- The segments of a path behind an authority. -/
def segmentsBehind (m : Manner) (s : List Char) : List (List Char) :=
  match s with
  | [] => if m = .plain then [] else [[]]
  | c :: rest => readSegments m (if m.isSlash c then rest else c :: rest)

/-- Segments without the empty ones in front; the last segment stays. -/
def dropEmpty : List (List Char) → List (List Char)
  | [] :: s :: rest => dropEmpty (s :: rest)
  | segments => segments

/-- The authority and the path of a file. A path that starts with a drive has no host. -/
def filePlace (a : Authority) (segments : List (List Char)) : Option Authority × Path :=
  let a := if (segments.head?.map isDrive).getD false then { a with host := .domain [] } else a
  (some a, .segments (dropEmpty segments))

/-! ### The whole -/

/-- Is this a control character or a space? -/
def isEdge (c : Char) : Bool := c.toNat ≤ 0x20

/-- The text without what does not count. -/
def cleaned (s : List Char) : List Char :=
  (((s.dropWhile isEdge).reverse.dropWhile isEdge).reverse).filter fun c ↦
    c != '\t' && c != '\n' && c != '\r'

/-- The scheme and what follows its colon. -/
def splitScheme (s : List Char) : Except Error (List Char × List Char) :=
  match cut (· == ':') s with
  | (c :: scheme, some rest) =>
    if c.isAlpha ∧ scheme.all fun d ↦ d.isAlphanum || d == '+' || d == '-' || d == '.' then
      .ok ((c :: scheme).map Char.toLower, rest)
    else .error .noScheme
  | _ => .error .noScheme

/-- The authority and the path of what follows a scheme; `closed` tells whether a query or a
fragment follows. -/
def readHierarchy (scheme : List Char) (m : Manner) (closed : Bool) (s : List Char) :
    Except Error (Option Authority × Path) := do
  let behindSlashes := fun (s : List Char) ↦ do
    let rest := s.dropWhile (!m.endsAuthority ·)
    let (a, extra) ← readAuthority scheme m (closed || !rest.isEmpty)
      (s.takeWhile (!m.endsAuthority ·))
    return (some a, Path.segments (segmentsBehind m (extra ++ rest)))
  match m with
  | .web => behindSlashes (s.dropWhile m.isSlash)
  | .file =>
    match s with
    | a :: b :: rest =>
      if m.isSlash a && m.isSlash b then
        let host := rest.takeWhile (!m.endsAuthority ·)
        if isDrive host then return filePlace (← readFileAuthority []) (readSegments m rest)
        else
          return filePlace (← readFileAuthority host) (segmentsBehind m (rest.drop host.length))
      else return filePlace (← readFileAuthority []) (segmentsBehind m s)
    | _ => return filePlace (← readFileAuthority []) (segmentsBehind m s)
  | .plain =>
    match s with
    | '/' :: '/' :: rest => behindSlashes rest
    | '/' :: rest => return (none, .segments (readSegments m rest))
    | s => return (none, .bare (encodeAll [] s))

/-- The URL that a text writes. -/
def parse (s : String) : Except Error Url := do
  let (scheme, rest) ← splitScheme (cleaned s.toList)
  let m := Manner.ofScheme scheme
  let (rest, fragment) := cut (· == '#') rest
  let (rest, query) := cut (· == '?') rest
  let (authority, path) ← readHierarchy scheme m (query.isSome || fragment.isSome) rest
  return {
    scheme, authority, path
    query := query.map (encodeAll (queryOthers m))
    fragment := fragment.map (encodeAll fragmentOthers) }

end AuditFeed.Url
