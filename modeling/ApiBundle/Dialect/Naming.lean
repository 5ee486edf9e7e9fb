import ApiBundle.Dialect.Basic
import ApiBundle.Uri.Basic

/-!
# Names for hoisted content

The name that content would like to have in its container, from the place and the file it comes
from.
-/

namespace ApiBundle

/-- A character that a name may hold. -/
def isNameChar (c : Char) : Bool := c.isAlphanum || c = '.' || c = '_' || c = '-'

/-- Replaces every character that a name may not hold by an underscore. -/
def fixName (text : String) : String :=
  String.ofList (text.toList.map fun c => if isNameChar c then c else '_')

namespace Component

/-- Whether a place is a direct member of a container. -/
def isMemberOf (place : Pointer) (container : String) : Bool :=
  match Pointer.parse container with
  | .ok top => place.startsWith top && place.tokens.length = top.tokens.length + 1
  | .error _ => false

/-- The name after the file that content comes from. -/
def fileName (c : Component) (location : Option Uri) : String :=
  match location.bind Uri.fileStem? with
  | some stem => fixName stem ++ "_" ++ c.name
  | none => c.name

/-- The name that content from a place in a document would like to have. -/
def preferredName (c : Component) (place : Pointer) (location : Option Uri) : String :=
  match c.info.naming with
  | .none => c.name
  | .pathKey => place.last?.getD ""
  | .container containers =>
    match (containers.find? (isMemberOf place)).bind fun _ => place.last? with
    | some key => fixName key
    | none => c.fileName location

end Component

end ApiBundle
