import ApiBundle.Uri.Basic

/-!
# Reading URLs

Reads a text as a URL, alone or relative to a base. Blanks and control characters at the ends and
line breaks anywhere are ignored. Dot segments are resolved, everything that may not stand as it is
gets escaped, default ports are dropped. Files follow the rules for drive letters; a backslash is a
slash in the well-known schemes, and at the start of every relative text.
-/

namespace ApiBundle.Uri

/-! ## Schemes -/

/-- How the texts of a scheme are read. -/
inductive SchemeClass where
  /-- Local files. -/
  | file
  /-- The other well-known schemes. -/
  | web
  /-- All other schemes. -/
  | other
  deriving DecidableEq, Repr

/-- The class of a scheme. -/
def schemeClass (scheme : String) : SchemeClass :=
  if scheme = "file" then .file
  else if ["http", "https", "ws", "wss", "ftp"].contains scheme then .web
  else .other

/-- Whether a scheme is well known. -/
def SchemeClass.isSpecial (c : SchemeClass) : Bool := c ≠ .other

/-- The port that a scheme has by itself. -/
def defaultPort? (scheme : String) : Option Nat :=
  if scheme = "http" || scheme = "ws" then some 80
  else if scheme = "https" || scheme = "wss" then some 443
  else if scheme = "ftp" then some 21
  else none

/-- An ASCII letter. -/
def isLetter (c : Char) : Bool := c.isAlpha

/-- A character that may follow the first letter of a scheme. -/
def isSchemeChar (c : Char) : Bool := c.isAlphanum || c = '+' || c = '-' || c = '.'

/-- The scheme of a text, in lower case, and what follows its colon. -/
def readScheme? (cs : List Char) : Option (String × List Char) :=
  match cs with
  | c :: _ =>
    if isLetter c then
      match cs.dropWhile isSchemeChar with
      | ':' :: rest =>
        some (String.ofList ((cs.takeWhile isSchemeChar).map Text.lowerAscii), rest)
      | _ => none
    else none
  | [] => none

/-! ## What is escaped -/

/-- What a fragment escapes. -/
def escapedInFragment (c : Char) : Bool := Percent.isControl c || " \"<>`".toList.contains c

/-- What a path escapes. -/
def escapedInPath (c : Char) : Bool := escapedInFragment c || "#?\x7b\x7d".toList.contains c

/-- What a user or password escapes. -/
def escapedInUser (c : Char) : Bool := escapedInPath c || "/:;=@[\\]^|".toList.contains c

/-- What a query escapes; a well-known scheme escapes the apostrophe too. -/
def escapedInQuery (special : Bool) (c : Char) : Bool :=
  Percent.isControl c || " \"#<>".toList.contains c || (special && c.toNat = 39)

/-! ## Paths -/

/-- A drive letter as it may be written. -/
def isDriveLetter (cs : List Char) : Bool :=
  match cs with
  | [a, b] => isLetter a && (b = ':' || b = '|')
  | _ => false

/-- A drive letter as it is kept. -/
def isNormalDriveLetter (cs : List Char) : Bool :=
  match cs with
  | [a, ':'] => isLetter a
  | _ => false

/-- Whether a text starts with a drive letter that a delimiter or nothing follows. -/
def startsWithDriveLetter (cs : List Char) : Bool :=
  match cs with
  | a :: b :: rest =>
    isDriveLetter [a, b] &&
      (match rest with
        | [] => true
        | c :: _ => c = '/' || c = '\\' || c = '?' || c = '#')
  | _ => false

/-- A path up to and with its last slash. -/
def throughLastSlash (path : List Char) : List Char := (path.reverse.dropWhile (· ≠ '/')).reverse

/-- What stands after the last slash of a path. -/
def afterLastSlash (path : List Char) : List Char := (path.reverse.takeWhile (· ≠ '/')).reverse

/-- Takes the last segment off a path; a drive letter stays. -/
def popPath (kind : SchemeClass) (path : List Char) : List Char :=
  if kind = .file && isNormalDriveLetter (afterLastSlash path) then path else throughLastSlash path

/-- Whether the final slash of a path may go: it is neither the root's nor a drive letter's. -/
def lastSlashIsFree (path : List Char) : Bool :=
  let before := path.dropLast
  before.contains '/' && !startsWithDriveLetter (afterLastSlash before ++ ['/'])

/-- The escaped and plain spellings of one dot. -/
def isDot (segment : List Char) : Bool := [".", "%2e", "%2E"].contains (String.ofList segment)

/-- The escaped and plain spellings of two dots. -/
def isDotDot (segment : List Char) : Bool :=
  ["..", "%2e%2e", "%2e%2E", "%2E%2e", "%2E%2E", "%2e.", "%2E.", ".%2e", ".%2E"].contains
    (String.ofList segment)

/-- Whether a text ends with a slash. -/
def endsWithSlash (cs : List Char) : Bool := cs.getLast? = some '/'

/-- A text with a slash at its end. -/
def withSlash (cs : List Char) : List Char := if endsWithSlash cs then cs else cs ++ ['/']

/-- A path under construction, and whether its URL still has a host. -/
structure PathSoFar where
  /-- The path. -/
  path : List Char
  /-- Whether there is a host. -/
  hasHost : Bool

/-- Adds a segment to a path; `followed` tells whether a slash comes after it. -/
def addSegment (kind : SchemeClass) (sofar : PathSoFar) (raw : List Char) (followed : Bool) :
    PathSoFar :=
  let path := sofar.path
  let path :=
    if kind = .file && !raw.isEmpty && isNormalDriveLetter (path.drop 1) then path ++ ['/']
    else path
  let segment := Percent.encode escapedInPath raw
  let slash := if followed then ['/'] else []
  if isDotDot segment then
    let path := if endsWithSlash path && lastSlashIsFree path then path.dropLast else path
    let path :=
      if path.isEmpty || (kind = .file && isNormalDriveLetter path) then path
      else popPath kind path
    ⟨if followed then withSlash path else path, sofar.hasHost⟩
  else if isDot segment then ⟨withSlash path, sofar.hasHost⟩
  else if kind = .file && path.length = 1 && isDriveLetter segment then
    ⟨path ++ segment.take 1 ++ [':'] ++ slash, false⟩
  else ⟨path ++ segment ++ slash, sofar.hasHost⟩

/-- Adds segments in turn; all but the last are followed by a slash. -/
def addSegments (kind : SchemeClass) (sofar : PathSoFar) : List (List Char) → PathSoFar
  | [] => sofar
  | [last] => addSegment kind sofar last false
  | raw :: rest => addSegments kind (addSegment kind sofar raw true) rest

/-- Continues a path by a text that ends before any query and fragment. -/
def continuePath (kind : SchemeClass) (sofar : PathSoFar) (cs : List Char) : PathSoFar :=
  let cs := if kind.isSpecial then cs.map fun c => if c = '\\' then '/' else c else cs
  let done := addSegments kind sofar (Text.splitAt '/' cs)
  if kind = .file then { done with path := '/' :: done.path.dropWhile (· = '/') } else done

/-- The path of a text that follows an authority. -/
def pathAfterAuthority (kind : SchemeClass) (hasHost : Bool) (cs : List Char) : PathSoFar :=
  if kind.isSpecial then
    match cs with
    | '/' :: rest | '\\' :: rest => continuePath kind ⟨['/'], hasHost⟩ rest
    | cs => continuePath kind ⟨['/'], hasHost⟩ cs
  else
    match cs with
    | [] => ⟨[], hasHost⟩
    | '/' :: _ => continuePath kind ⟨[], hasHost⟩ cs
    | cs => continuePath kind ⟨['/'], hasHost⟩ cs

/-! ## The parts of a text -/

/-- A text without its query and fragment, and these. -/
structure Parts where
  /-- What comes before. -/
  body : List Char
  /-- What follows the question mark. -/
  query : Option (List Char)
  /-- What follows the number sign. -/
  fragment : Option (List Char)

/-- Cuts a text into its parts. -/
def parts (cs : List Char) : Parts :=
  let (front, fragment) := Text.cut '#' cs
  let (body, query) := Text.cut '?' front
  ⟨body, query, fragment⟩

/-- The query as it is kept. -/
def Parts.queryText (p : Parts) (kind : SchemeClass) : Option String :=
  p.query.map fun q => String.ofList (Percent.encode (escapedInQuery kind.isSpecial) q)

/-- The fragment as it is kept. -/
def Parts.fragmentText (p : Parts) : Option String :=
  p.fragment.map fun f => String.ofList (Percent.encode escapedInFragment f)

/-- A URL with the query and fragment of a text. -/
def assemble (p : Parts) (scheme : String) (authority : Option Authority) (path : List Char) :
    Uri :=
  ⟨scheme, authority, String.ofList path, p.queryText (schemeClass scheme), p.fragmentText⟩

/-! ## Authorities -/

/-- Cuts a text at its first slash, or backslash where that is one. -/
def cutAuthority (kind : SchemeClass) (cs : List Char) : List Char × List Char :=
  let stops (c : Char) : Bool := c = '/' || (kind.isSpecial && c = '\\')
  (cs.takeWhile (!stops ·), cs.dropWhile (!stops ·))

/-- What stands before and after the last `@`, if there is one. -/
def cutLogin (cs : List Char) : Option (List Char) × List Char :=
  if cs.contains '@' then
    let reversed := cs.reverse
    (some (reversed.dropWhile (· ≠ '@')).tail.reverse, (reversed.takeWhile (· ≠ '@')).reverse)
  else (none, cs)

/-- Reads a user and a password; an empty password is none. -/
def readLogin (cs : List Char) : String × Option String :=
  let (user, password) := Text.cut ':' cs
  let escape (part : List Char) : String := String.ofList (Percent.encode escapedInUser part)
  let password := match password with
    | some [] | none => none
    | some p => some (escape p)
  (escape user, password)

/-- Cuts a host off what follows its colon; colons in brackets do not count. -/
def cutPort (inBrackets : Bool) : List Char → List Char × Option (List Char)
  | [] => ([], none)
  | c :: rest =>
    if c = ':' && !inBrackets then ([], some rest)
    else
      let inside := if c = '[' then true else if c = ']' then false else inBrackets
      let (before, after) := cutPort inside rest
      (c :: before, after)

/-- Reads a port; a missing one and the scheme's own are none. -/
def readPort (scheme : String) (cs : List Char) : Except UriError (Option Nat) :=
  let n := cs.foldl (fun n c => min (n * 10 + (c.toNat - 48)) 65536) 0
  if !cs.all Char.isDigit || n = 65536 then .error .badPort
  else .ok (if cs.isEmpty || some n = defaultPort? scheme then none else some n)

/-- What a text says about an authority, before hosts and ports are read. -/
structure RawAuthority where
  /-- The user and password, if there is an `@`. -/
  login : Option (List Char)
  /-- The host. -/
  host : List Char
  /-- The port, if there is a colon. -/
  port : Option (List Char)
  /-- What follows the authority. -/
  rest : List Char

/--
Cuts an authority off a text. Outside the well-known schemes a backslash after the digits of a port
starts the path.
-/
def rawAuthority (kind : SchemeClass) (cs : List Char) : RawAuthority :=
  let (authority, rest) := cutAuthority kind cs
  let (login, hostAndPort) := cutLogin authority
  match cutPort false hostAndPort with
  | (host, none) => ⟨login, host, none, rest⟩
  | (host, some port) =>
    let tail := port.dropWhile Char.isDigit
    if kind = .other && tail.head? = some '\\' then
      ⟨login, host, some (port.takeWhile Char.isDigit), tail ++ rest⟩
    else ⟨login, host, some port, rest⟩

/-- Reads the host of an authority. -/
def readHost (kind : SchemeClass) (cs : List Char) : Except UriError (Option Host) :=
  if kind = .other then
    (Host.parseOpaque cs).map fun host => if host = .name "" then none else some host
  else if cs.isEmpty then .error .emptyHost
  else (Host.parse cs).map some

/-- Reads an authority and the path after it, for schemes other than `file`. -/
def readAuthority (scheme : String) (p : Parts) (cs : List Char) : Except UriError Uri := do
  let kind := schemeClass scheme
  let raw := rawAuthority kind cs
  let ends := raw.rest.isEmpty && p.query.isNone && p.fragment.isNone
  if raw.login = some [] && raw.host.isEmpty && raw.port.isNone && !ends then
    throw UriError.emptyHost
  let host ← readHost kind raw.host
  if host.isNone && raw.port.isSome then throw UriError.emptyHost
  let port ← readPort scheme (raw.port.getD [])
  let (user, password) := readLogin (raw.login.getD [])
  if host.isNone && (!user.isEmpty || password.isSome) then throw UriError.emptyHost
  let path := pathAfterAuthority kind host.isSome raw.rest
  return assemble p scheme (some ⟨user, password, host, port⟩) path.path

/-- Reads a host and a path after `file://`. -/
def readFileAuthority (p : Parts) (cs : List Char) : Except UriError Uri := do
  let (hostText, rest) := cutAuthority .file cs
  let (hostText, rest) := if isDriveLetter hostText then ([], cs) else (hostText, rest)
  let host ← if hostText.isEmpty then pure none else do
    let host ← Host.parse hostText
    pure (if host = .name "localhost" then none else some host)
  let path := match host with
    | some _ => pathAfterAuthority .file true rest
    | none => continuePath .file ⟨['/'], false⟩ rest
  return assemble p "file" (some (.ofHost (if path.hasHost then host else none))) path.path

/-! ## Whole texts -/

/-- A base with the fragment of a text. -/
def onlyFragment (base : Uri) (p : Parts) : Uri := { base with fragment := p.fragmentText }

/-- A base with the query and fragment of a text. -/
def fromQuery (base : Uri) (p : Parts) : Uri :=
  { base with query := p.queryText (schemeClass base.scheme), fragment := p.fragmentText }

/-- Reads what follows `file:`, or a text relative to a file. -/
def readFile (base : Option Uri) (p : Parts) : Except UriError Uri :=
  match p.body with
  | '/' :: '/' :: rest | '/' :: '\\' :: rest | '\\' :: '/' :: rest | '\\' :: '\\' :: rest =>
    readFileAuthority p rest
  | '/' :: rest | '\\' :: rest =>
    let (host, start) : Option Host × List Char :=
      if startsWithDriveLetter (rest ++ (if p.query.isSome then ['?'] else
        if p.fragment.isSome then ['#'] else [])) then (none, [])
      else
        match base with
        | none => (none, [])
        | some base =>
          let first := ((base.segments?).getD []).head?.getD []
          if isNormalDriveLetter first then (none, '/' :: first)
          else (base.authority.bind Authority.host, [])
    .ok (assemble p "file" (some (.ofHost host)) (continuePath .file ⟨start, false⟩ p.body).path)
  | body =>
    match base with
    | none =>
      .ok (assemble p "file" (some (.ofHost none)) (continuePath .file ⟨['/'], false⟩ body).path)
    | some base =>
      if body.isEmpty then
        .ok (match p.query with
          | some _ => fromQuery base p
          | none => onlyFragment base p)
      else if startsWithDriveLetter (body ++ (if p.query.isSome then ['?'] else
        if p.fragment.isSome then ['#'] else [])) then
        .ok (assemble p "file" (some (.ofHost none)) (continuePath .file ⟨['/'], false⟩ body).path)
      else
        let start := base.path.toList
        let start :=
          if start.isEmpty || isNormalDriveLetter start then start else popPath .file start
        .ok (assemble p "file" base.authority (continuePath .file ⟨start, true⟩ body).path)

/-- Reads a text relative to a URL of the same scheme. -/
def readRelative (base : Uri) (p : Parts) : Except UriError Uri :=
  let kind := schemeClass base.scheme
  match p.body with
  | [] =>
    .ok (match p.query with
      | some _ => fromQuery base p
      | none => onlyFragment base p)
  | '/' :: '/' :: rest => readAuthority base.scheme p rest
  | '/' :: '\\' :: rest | '\\' :: '/' :: rest | '\\' :: '\\' :: rest =>
    readAuthority base.scheme p (rest.dropWhile fun c => c = '/' || c = '\\')
  | '/' :: rest | '\\' :: rest =>
    .ok (assemble p base.scheme base.authority (continuePath kind ⟨['/'], true⟩ rest).path)
  | body =>
    let start := base.path.toList
    let start := if start.isEmpty then ['/'] else popPath kind start
    .ok (assemble p base.scheme base.authority (continuePath kind ⟨start, true⟩ body).path)

/-- Reads what follows a scheme of no class. -/
def readOther (scheme : String) (p : Parts) : Except UriError Uri :=
  match p.body with
  | '/' :: '/' :: rest => readAuthority scheme p rest
  | '/' :: rest =>
    .ok (assemble p scheme none (continuePath .other ⟨['/'], false⟩ rest).path)
  | body => .ok (assemble p scheme none (Percent.encode Percent.isControl body))

/-- Whether two texts have the same scheme. -/
def sharesScheme (scheme : String) (base : Uri) : Bool := base.scheme = scheme

/-- Reads what follows a scheme and its colon. -/
def readWithScheme (base : Option Uri) (scheme : String) (p : Parts) : Except UriError Uri :=
  match schemeClass scheme with
  | .file => readFile (base.filter (sharesScheme scheme)) p
  | .web =>
    let isSlash (c : Char) : Bool := c = '/' || c = '\\'
    let slashes := (p.body.takeWhile isSlash).length
    match base.filter (sharesScheme scheme) with
    | some base =>
      if slashes < 2 then readRelative base p
      else readAuthority scheme p (p.body.dropWhile isSlash)
    | none => readAuthority scheme p (p.body.dropWhile isSlash)
  | .other => readOther scheme p

/-- What counts of a text: no control characters or blanks at its ends, no line breaks or tabs. -/
def relevant (cs : List Char) : List Char :=
  let outer (c : Char) : Bool := c.toNat ≤ 32
  let trimmed := ((cs.dropWhile outer).reverse.dropWhile outer).reverse
  trimmed.filter fun c => c ≠ '\t' && c ≠ '\n' && c ≠ '\r'

/-- Reads a text, relative to a base if there is one. -/
def read (base : Option Uri) (text : String) : Except UriError Uri :=
  let cs := relevant text.toList
  match readScheme? cs with
  | some (scheme, rest) => readWithScheme base scheme (parts rest)
  | none =>
    match base with
    | none => .error .relativeWithoutBase
    | some base =>
      let p := parts cs
      if p.body.isEmpty && p.query.isNone && p.fragment.isSome then .ok (onlyFragment base p)
      else if base.isOpaque then .error .relativeToOpaque
      else if schemeClass base.scheme = .file then readFile (some base) p
      else readRelative base p

/-- Reads an absolute URL. -/
def parse (text : String) : Except UriError Uri := read none text

/-- Reads a URL relative to a base. -/
def join (base : Uri) (text : String) : Except UriError Uri := read (some base) text

end ApiBundle.Uri
