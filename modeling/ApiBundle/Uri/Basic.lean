import ApiBundle.Uri.Host

/-!
# Absolute URLs

A parsed URL and its text. A path is kept as its text: it is empty, starts with a slash, or is
opaque.
-/

namespace ApiBundle

/-- What stands between `//` and the path. -/
structure Authority where
  /-- The user, escaped. -/
  user : String
  /-- The password, escaped, if one is given. -/
  password : Option String
  /-- The host; `none` if it is empty. -/
  host : Option Host
  /-- The port, if it is not the scheme's own. -/
  port : Option Nat
  deriving DecidableEq, Repr

/-- An absolute URL. -/
structure Uri where
  /-- The scheme in lower case. -/
  scheme : String
  /-- The authority; `none` if there is no `//`. -/
  authority : Option Authority
  /-- The path, escaped. -/
  path : String
  /-- The query, escaped. -/
  query : Option String
  /-- The fragment, escaped. -/
  fragment : Option String
  deriving DecidableEq, Repr

/-- An authority with a host only. -/
def Authority.ofHost (host : Option Host) : Authority := ⟨"", none, host, none⟩

/-- The text of an authority. -/
def Authority.text (a : Authority) : String :=
  let password := match a.password with
    | some p => ":" ++ p
    | none => ""
  let login := a.user ++ password
  let port := match a.port with
    | some n => ":" ++ toString n
    | none => ""
  (if login.isEmpty then "" else login ++ "@") ++ ((a.host.map Host.text).getD "") ++ port

namespace Uri

/-- Whether the path says nothing about relative texts. -/
def isOpaque (u : Uri) : Bool := u.authority.isNone && u.path.toList.head? ≠ some '/'

/-- The text of a URL. Without an authority, a path that starts with two slashes is marked. -/
def text (u : Uri) : String :=
  let authority := match u.authority with
    | some a => "//" ++ a.text
    | none => if ['/', '/'].isPrefixOf u.path.toList then "/." else ""
  let query := match u.query with
    | some q => "?" ++ q
    | none => ""
  let fragment := match u.fragment with
    | some f => "#" ++ f
    | none => ""
  u.scheme ++ ":" ++ authority ++ u.path ++ query ++ fragment

/-- Takes blanks off the end. -/
def dropTrailingBlanks (cs : List Char) : List Char := (cs.reverse.dropWhile (· = ' ')).reverse

/-- The URL of the whole document. An opaque path that comes to stand last loses final blanks. -/
def withoutFragment (u : Uri) : Uri :=
  let path :=
    if u.isOpaque && u.query.isNone then String.ofList (dropTrailingBlanks u.path.toList)
    else u.path
  { u with fragment := none, path := path }

/-- The segments of a path that starts with a slash. -/
def segments? (u : Uri) : Option (List (List Char)) :=
  match u.path.toList with
  | '/' :: rest => some (Text.splitAt '/' rest)
  | _ => none

/-- The last segment of the path up to its first dot, unless that is empty. -/
def fileStem? (u : Uri) : Option String := do
  let last ← (← u.segments?).getLast?
  let stem := last.takeWhile (· ≠ '.')
  if stem.isEmpty then none else some (String.ofList stem)

end Uri

end ApiBundle
