import ApiBundle.Uri.Basic

/-!
# URLs of local files

The path of the file that a URL names, as octets, and the URL of an absolute path.
-/

namespace ApiBundle.Uri

/-- The octets of the path that a URL names; `none` if it names no file of this system. -/
def filePath? (u : Uri) : Option (List Nat) := do
  let segments ← u.segments?
  match u.authority.bind Authority.host with
  | some (.name "localhost") | none =>
    let octets := segments.flatMap fun s => 47 :: Percent.decodeOctets (Utf8.encode s)
    let isLetter (b : Nat) : Bool := (65 ≤ b && b ≤ 90) || (97 ≤ b && b ≤ 122)
    match octets.reverse with
    | last :: letter :: _ :: _ =>
      if isLetter letter && (last = 58 || last = 124) then some (octets ++ [47]) else some octets
    | _ => some octets
  | some _ => none

/-- What a file's URL escapes in the names of its path. -/
def escapedInFileName (c : Char) : Bool :=
  Percent.isControl c || " \"<>`#?\x7b\x7d/%\\".toList.contains c

/-- The URL of an absolute path. -/
def ofFilePath (path : String) : Uri :=
  let names := (Text.splitAt '/' path.toList).filter (!·.isEmpty)
  let text := names.flatMap fun name => '/' :: Percent.encode escapedInFileName name
  ⟨"file", some (.ofHost none), if text.isEmpty then "/" else String.ofList text, none, none⟩

end ApiBundle.Uri
