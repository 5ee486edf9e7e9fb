import ApiBundle.Error
import ApiBundle.Pattern.Size
import ApiBundle.Text.Split

/-!
# Edge labels

The labels of a machine's edges. `*` stands for any property name, `#` for any array index, a text
that starts with `re:` for the names that its pattern matches as a whole, and every other text for
that one name.
-/

namespace ApiBundle

/-- What moves an edge allows. -/
inductive Label where
  /-- One property name. -/
  | exact (name : String)
  /-- The property names that a pattern matches. -/
  | pattern (p : Pattern)
  /-- Any property name. -/
  | anyName
  /-- Any array index. -/
  | anyIndex
  deriving DecidableEq, Repr

namespace Label

/-- The text of a pattern made to match whole names. -/
def anchored (pattern : List Char) : String :=
  "^(?:" ++ String.ofList (Text.trimStart pattern) ++ ")$"

/-- Reads the text of a label. -/
def parse (text : String) : Except BundleError Label :=
  if text = "*" then .ok .anyName
  else if text = "#" then .ok .anyIndex
  else
    match Text.afterPrefix? ['r', 'e', ':'] text.toList with
    | some rest =>
      match Pattern.parse (anchored rest) with
      | .ok p => .ok (.pattern p)
      | .error e => .error (.invalidLabel text e.message)
    | none => .ok (.exact text)

/-- Whether a move by a property name is allowed. -/
def allows (label : Label) (name : String) : Bool :=
  match label with
  | exact own => own = name
  | pattern p => p.occursIn name.toList
  | anyName => true
  | anyIndex => false

end Label

end ApiBundle
