import ApiBundle.FileTree.Basic
import ApiBundle.Source
import ApiBundle.Uri.FilePath

/-!
# Documents in files

The source that answers the URLs of files from a file tree, and the source of a program that cannot
reach the web.
-/

namespace ApiBundle

/-- A path in words: octets that are no text are replaced. -/
def displayPath (path : Octets) : String := String.ofList (Utf8.decode path)

namespace Source

/-- Answers the URLs of files from a file tree. -/
def ofFiles (t : FileTree) : Source := fun url =>
  if url.scheme ≠ "file" then
    .error ("Unsupported URL scheme '" ++ url.scheme ++ "' for " ++ url.text)
  else
    match url.filePath? with
    | none => .error ("Not a local file path: " ++ url.text)
    | some path => (t.readText path).mapError fun e => displayPath path ++ ": " ++ e.message

/-- Whether a URL is one of the web. -/
def isWeb (url : Uri) : Bool := url.scheme = "http" || url.scheme = "https"

/-- What is said of a URL of the web. -/
def webDisabled (url : Uri) : String :=
  "HTTP support is disabled (build with the `client` feature): " ++ url.text

/-- Answers the URLs of files only, and says so for those of the web. -/
def withoutWeb (t : FileTree) : Source := fun url =>
  if isWeb url then .error (webDisabled url) else ofFiles t url

end Source

end ApiBundle
