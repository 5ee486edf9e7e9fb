import ApiBundle.Options
import ApiBundle.Uri.Parser

/-!
# References

A reference is the text of a reference node, resolved against the URL of the document it stands in.
Its identity is the absolute URL of the document that it names together with its fragment, so texts
that spell one place in different ways are one reference.

Nothing about a reference stops a run. The first thing that goes wrong with one is recorded on it,
and from then on it is treated as an error: its node keeps its text.
-/

namespace ApiBundle

/-- Why a reference leads nowhere. -/
inductive ReferenceError where
  /-- The part before the fragment is no URL. -/
  | malformedUrl (detail : String)
  /-- The fragment is no pointer. -/
  | badPointer (detail : String)
  /-- The document cannot be retrieved. -/
  | fetch (detail : String)
  /-- The document cannot be read. -/
  | parse (detail : String)
  /-- Nothing is at the place. -/
  | missingTarget
  /-- The reference would have to be put into itself. -/
  | cycle (detail : String)
  deriving DecidableEq, Repr

namespace ReferenceError

/-- The name of a failure's kind, as it stands in adornments. -/
def kind : ReferenceError → String
  | .malformedUrl _ => "MalformedUrl"
  | .badPointer _ => "BadPointer"
  | .fetch _ => "Fetch"
  | .parse _ => "Parse"
  | .missingTarget => "MissingTarget"
  | .cycle _ => "Cycle"

/-- What is particular about a failure. -/
def detail : ReferenceError → String
  | .malformedUrl d | .badPointer d | .fetch d | .parse d | .cycle d => d
  | .missingTarget => ""

/-- The failure of a kind with a detail. -/
def ofParts? (kind detail : String) : Option ReferenceError :=
  match kind with
  | "MalformedUrl" => some (.malformedUrl detail)
  | "BadPointer" => some (.badPointer detail)
  | "Fetch" => some (.fetch detail)
  | "Parse" => some (.parse detail)
  | "MissingTarget" => some .missingTarget
  | "Cycle" => some (.cycle detail)
  | _ => none

/-- The wording of a failure. -/
def message : ReferenceError → String
  | .malformedUrl d => "Malformed URL: " ++ d
  | .badPointer d => "Invalid JSON Pointer: " ++ d
  | .fetch d => "Failed to retrieve document: " ++ d
  | .parse d => "Document could not be parsed: " ++ d
  | .missingTarget => "No JSON value at specified pointer location in retrieved document"
  | .cycle d => "Reference cycle detected: " ++ d

/-- A failure as it stands in an adornment. -/
def toJson (e : ReferenceError) : Json :=
  .object [("kind", .string e.kind), ("detail", .string e.detail)]

end ReferenceError

/-- What is done with a reference. -/
inductive Treatment where
  /-- Its text stays in place. -/
  | error
  /-- The target takes its place while documents are loaded. -/
  | inlineNonconforming
  /-- The target's members are merged with those beside it. -/
  | merge
  /-- The target takes its place when the components are known. -/
  | inlineConforming
  /-- The target is hoisted into its container, and pointed at there. -/
  | localize
  /-- It stays as it is written. -/
  | retain
  deriving DecidableEq, Repr

/-- The identity of a reference: the text of the document's URL, and the fragment. -/
structure RefId where
  /-- The URL of the document, or what stood in its place if it is malformed. -/
  url : String
  /-- The fragment; `none` for a whole document. -/
  fragment : Option String
  deriving DecidableEq, Repr

/-- The text of an identity. -/
def RefId.text (i : RefId) : String :=
  match i.fragment with
  | some f => i.url ++ "#" ++ f
  | none => i.url

/-- A resolved reference. -/
structure Reference where
  /-- The text as written. -/
  text : String
  /-- The URL of the document, if it could be resolved. -/
  url : Option Uri
  /-- The text of that URL, or else what stood in its place. -/
  urlText : String
  /-- The fragment in the form of a pointer's text, raw if it is none; `none` if it is empty. -/
  fragment : Option String
  /-- The place in the document. -/
  pointer : Pointer
  /-- The component where the reference stands. -/
  component : Option Component
  /-- The first thing that went wrong. -/
  error : Option ReferenceError
  deriving DecidableEq, Repr

namespace Reference

/-- The identity of a reference. -/
def id (r : Reference) : RefId := ⟨r.urlText, r.fragment⟩

/-- How a reference is shown. -/
def display (r : Reference) : String := r.id.text

/-- Whether nothing has gone wrong. -/
def isValid (r : Reference) : Bool := r.error.isNone

/-- Whether a whole document is meant. -/
def isDocument (r : Reference) : Bool := r.fragment.isNone

/-- Records a failure unless there is one already. -/
def markInvalid (r : Reference) (e : ReferenceError) : Reference :=
  { r with error := r.error.or (some e) }

/-- The same reference at another site. -/
def withComponent (r : Reference) (c : Option Component) : Reference := { r with component := c }

/-! ## Resolving -/

/-- The text before the first `#`, and what follows it unless that is empty. -/
def cutFragment (text : String) : String × Option String :=
  let (before, after) := Text.cut '#' text.toList
  (String.ofList before, (after.filter (!·.isEmpty)).map String.ofList)

/-- Resolves the part of a reference before its fragment. -/
def resolveUrl (part : String) (base : Option Uri) : Except String Uri :=
  let explain (e : UriError) : String := part ++ " (" ++ e.message ++ ")"
  if part.isEmpty then
    match base with
    | some base => .ok base.withoutFragment
    | none => .error "same-document reference without a base document"
  else
    let parsed := match base with
      | some base => base.join part
      | none => Uri.parse part
    match parsed with
    | .ok url => .ok url.withoutFragment
    | .error e => .error (explain e)

/-- Gives a reference its URL, or records why it has none. -/
def setUrl (r : Reference) : Except String Uri → Reference
  | .ok url => { r with url := some url, urlText := url.text }
  | .error detail => r.markInvalid (.malformedUrl detail)

/-- Gives a reference its place, or records that the fragment is none. -/
def setFragment (r : Reference) (fragment : String) : Reference :=
  match Pointer.ofFragment fragment with
  | .ok p => { r with fragment := some p.text, pointer := p }
  | .error e => r.markInvalid (.badPointer e.message)

/-- Resolves a text in a document, for a site of a component. -/
def resolve (text : String) (base : Option Uri) (c : Option Component) : Reference :=
  let (part, fragment) := cutFragment text
  let bare : Reference := ⟨text, none, part, fragment, .root, c, none⟩
  let located := bare.setUrl (resolveUrl part base)
  match fragment with
  | some f => located.setFragment f
  | none => located

/-- The reference to a whole document. -/
def forDocument (url : Uri) : Reference := resolve url.text none none

/-- The reference to a place in a document. -/
def atPointer (url : Uri) (p : Pointer) : Reference :=
  let url := url.withoutFragment
  ⟨"#" ++ p.text, some url, url.text, if p.isRoot then none else some p.text, p, none, none⟩

/-- The reference to the document that a reference leads into. -/
def documentRef (r : Reference) : Reference :=
  let error := match r.error with
    | some (.malformedUrl detail) => some (.malformedUrl detail)
    | _ => none
  ⟨r.urlText, r.url, r.urlText, none, .root, none, error⟩

/-! ## Bare names -/

/-- A character that a bare name may start with. -/
def isNameStart (c : Char) : Bool := c.isAlpha || c = '_'

/-- A character that a bare name may end with. -/
def isNameEnd (c : Char) : Bool := c.isAlphanum || c = '_'

/-- Whether a fragment is a bare name: hyphens may stand inside. -/
def isSimpleName (cs : List Char) : Bool :=
  cs.all (fun c => isNameEnd c || c = '-') && cs.head?.any isNameStart && cs.getLast?.any isNameEnd

/-- Where a bare name leads in a container. -/
def simpleTarget? (r : Reference) : Option (String × Pointer) := do
  let container ← r.component.bind fun c => c.info.container
  let fragment ← r.fragment
  if isSimpleName fragment.toList then
    let text := container ++ "/" ++ fragment
    let p ← (Pointer.parse text).toOption
    return (text, p)
  else none

/-- Makes a bare name lead into the container of its component; `none` if there is nothing to do. -/
def expandName? (r : Reference) : Option Reference :=
  r.simpleTarget?.map fun (text, p) =>
    let error := match r.error with
      | some (.badPointer _) => none
      | e => e
    { r with fragment := some text, pointer := p, error := error }

/-- Makes a bare name lead into the container of its component, if there is one. -/
def expandName (r : Reference) : Reference := r.expandName?.getD r

/-! ## Nodes -/

/-- The adornment that keeps what is known about a reference. -/
def adornment (r : Reference) : Json :=
  let known := [("valid", Json.bool r.isValid), ("url", .string r.urlText)]
  let fragment := (r.fragment.map fun f => ("fragment", Json.string f)).toList
  let component := (r.component.map fun c => ("component", c.toJson)).toList
  let error := match r.error with
    | some e => [("invalidReason", .string e.message), ("invalidCause", e.toJson)]
    | none => []
  .object (known ++ fragment ++ component ++ error)

/-- The node of a reference, without adornment. -/
def plainNode (r : Reference) : Json := Json.refNode r.text

/-- The node of a reference with its adornment. -/
def adornedNode (r : Reference) : Json :=
  .object [(refKey, .string r.text), (adornmentKey, r.adornment)]

/-- The failure that an adornment records. -/
def recordedError (info : Json) : Option ReferenceError :=
  match (info.member? "valid").bind Json.bool? with
  | some true => none
  | _ =>
    let part (name : String) : Option String :=
      ((info.member? "invalidCause").bind (·.member? name)).bind Json.string?
    let detail := (part "detail").getD ""
    some (((part "kind").bind fun k => ReferenceError.ofParts? k detail).getD
      (.malformedUrl detail))

/-- Reads a reference from an adorned node; `none` if the node or its adornment is no such thing. -/
def ofNode? (node : Json) : Option Reference := do
  let text ← node.refText?
  let info ← node.member? adornmentKey
  let urlText ← (← info.member? "url").string?
  let fragment := (info.member? "fragment").bind Json.string?
  let pointer := (fragment.bind fun f => (Pointer.parse f).toOption).getD .root
  return ⟨text, (Uri.parse urlText).toOption, urlText, fragment, pointer,
    (info.member? "component").bind Component.ofJson?, recordedError info⟩

/-! ## Treatment -/

/-- What is done with a reference under given options. -/
def treatment (r : Reference) (o : Options) : Treatment :=
  if !r.isValid then .error
  else
    match r.component with
    | some c =>
      if !c.info.conforming then .inlineNonconforming
      else if c.info.merge then .merge
      else if o.inlines c then .inlineConforming
      else if c.info.container.isSome then .localize
      else .retain
    | none => .inlineNonconforming

end Reference

end ApiBundle
