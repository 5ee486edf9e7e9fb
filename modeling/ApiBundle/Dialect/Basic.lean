import ApiBundle.RefNode

/-!
# Dialects and their components

A dialect of API descriptions says at which places references may stand and what stands there. Each
place that matters is a component; a record says for every component whether references are allowed,
whether they merge, what is defined there, and where hoisted content of that kind is collected.
-/

namespace ApiBundle

/-- A format of API descriptions. -/
inductive Dialect where
  /-- Swagger 2.0. -/
  | swagger2
  /-- OpenAPI 3. -/
  | openApi3
  deriving DecidableEq, Repr

/-- The kinds of places that dialects tell apart. -/
inductive Kind where
  | model | path
  | schema | schemaDef
  | response | responseDef
  | parameter | parameterDef
  | exampleItem | exampleItemDef
  | requestBody | requestBodyDef
  | header | headerDef
  | securityScheme | securitySchemeDef
  | link | linkDef
  | callback | callbackDef
  | operation | mediaType | encoding | callbackPath
  deriving DecidableEq, Repr

/-- A kind of place in a dialect. -/
structure Component where
  /-- The dialect. -/
  dialect : Dialect
  /-- The kind. -/
  kind : Kind
  deriving DecidableEq, Repr

/-- How hoisted content of a component gets its name. -/
inductive Naming where
  /-- Content of this component is not hoisted. -/
  | none
  /-- The last token of the place it comes from. -/
  | pathKey
  /-- The name it has in one of these containers, or else one made from its file. -/
  | container (containers : List String)
  deriving DecidableEq, Repr

/-- What is known about a component. -/
structure ComponentInfo where
  /-- References are allowed here. -/
  conforming : Bool
  /-- References here merge with the members beside them. -/
  merge : Bool
  /-- The kind that is defined here. -/
  defines : Option Kind
  /-- Where hoisted content is collected. -/
  container : Option String
  /-- How hoisted content is named. -/
  naming : Naming
  deriving DecidableEq, Repr

/-- The name of a kind. -/
def Kind.name : Kind → String
  | model => "MODEL"
  | path => "PATH"
  | schema => "SCHEMA"
  | schemaDef => "SCHEMA_DEF"
  | response => "RESPONSE"
  | responseDef => "RESPONSE_DEF"
  | parameter => "PARAMETER"
  | parameterDef => "PARAMETER_DEF"
  | exampleItem => "EXAMPLE"
  | exampleItemDef => "EXAMPLE_DEF"
  | requestBody => "REQUEST_BODY"
  | requestBodyDef => "REQUEST_BODY_DEF"
  | header => "HEADER"
  | headerDef => "HEADER_DEF"
  | securityScheme => "SECURITY_SCHEME"
  | securitySchemeDef => "SECURITY_SCHEME_DEF"
  | link => "LINK"
  | linkDef => "LINK_DEF"
  | callback => "CALLBACK"
  | callbackDef => "CALLBACK_DEF"
  | operation => "OPERATION"
  | mediaType => "MEDIA_TYPE"
  | encoding => "ENCODING"
  | callbackPath => "CALLBACK_PATH"

namespace ComponentInfo

/-- A place without references and definitions. -/
def plain : ComponentInfo := ⟨false, false, none, none, .none⟩

/-- A place for references to content that is collected in a container. -/
def site (container : String) (containers : List String) : ComponentInfo :=
  ⟨true, false, none, some container, .container containers⟩

/-- A place that defines content of a kind. -/
def definition (kind : Kind) : ComponentInfo := { plain with defines := some kind }

/-- Path items: references merge, and the place itself is a definition. -/
def pathItem : ComponentInfo := ⟨true, true, some .path, some "/paths", .pathKey⟩

end ComponentInfo

namespace Dialect

/-- The short name of a dialect. -/
def id : Dialect → String
  | swagger2 => "v2"
  | openApi3 => "v3"

/-- The dialect of a short name. -/
def ofId? (text : String) : Option Dialect :=
  if text = "v2" then some swagger2 else if text = "v3" then some openApi3 else none

/-- Guesses the dialect of a root document by its `swagger` or `openapi` member. -/
def detect? (tree : Json) : Option Dialect :=
  if (tree.member? "swagger").isSome then some swagger2
  else
    match (tree.member? "openapi").bind Json.string? with
    | some version => if version.toList.head? = some '3' then some openApi3 else none
    | none => none

/-- The kinds of a dialect, in the order of its states. -/
def kinds : Dialect → List Kind
  | swagger2 => [.model, .path, .schema, .schemaDef, .response, .responseDef, .parameter,
      .parameterDef, .operation]
  | openApi3 => [.model, .path, .schema, .schemaDef, .response, .responseDef, .parameter,
      .parameterDef, .exampleItem, .exampleItemDef, .requestBody, .requestBodyDef, .header,
      .headerDef, .securityScheme, .securitySchemeDef, .link, .linkDef, .callback, .callbackDef,
      .operation, .mediaType, .encoding, .callbackPath]

/-- What a Swagger 2.0 description has at a kind of place. -/
def swagger2Info : Kind → ComponentInfo
  | .path => .pathItem
  | .schema => .site "/definitions" ["/definitions", "/components/schemas"]
  | .schemaDef => .definition .schema
  | .response => .site "/responses" ["/responses", "/components/responses"]
  | .responseDef => .definition .response
  | .parameter => .site "/parameters" ["/parameters", "/components/parameters"]
  | .parameterDef => .definition .parameter
  | _ => .plain

/-- What an OpenAPI 3 description has at a kind of place. -/
def openApi3Info : Kind → ComponentInfo
  | .path => .pathItem
  | .schema => .site "/components/schemas" ["/components/schemas", "/definitions"]
  | .schemaDef => .definition .schema
  | .response => .site "/components/responses" ["/components/responses", "/responses"]
  | .responseDef => .definition .response
  | .parameter => .site "/components/parameters" ["/components/parameters", "/parameters"]
  | .parameterDef => .definition .parameter
  | .exampleItem => .site "/components/examples" ["/components/examples"]
  | .exampleItemDef => .definition .exampleItem
  | .requestBody => .site "/components/requestBodies" ["/components/requestBodies"]
  | .requestBodyDef => .definition .requestBody
  | .header => .site "/components/headers" ["/components/headers"]
  | .headerDef => .definition .header
  | .securityScheme => .site "/components/securitySchemes" ["/components/securitySchemes"]
  | .securitySchemeDef => .definition .securityScheme
  | .link => .site "/components/links" ["/components/links"]
  | .linkDef => .definition .link
  | .callback => .site "/components/callbacks" ["/components/callbacks"]
  | .callbackDef => .definition .callback
  -- path items inside callbacks are inlined: they have no container of their own
  | _ => .plain

/-- What a dialect has at a kind of place. -/
def info : Dialect → Kind → ComponentInfo
  | swagger2 => swagger2Info
  | openApi3 => openApi3Info

/-- The components of a dialect, in the order of its states. -/
def components (d : Dialect) : List Component := d.kinds.map fun kind => ⟨d, kind⟩

/-- The component of a name in any case. -/
def component? (d : Dialect) (name : String) : Option Component :=
  d.components.find? fun c => Text.sameIgnoringCase c.kind.name name

end Dialect

namespace Component

/-- What is known about a component. -/
def info (c : Component) : ComponentInfo := c.dialect.info c.kind

/-- The name of a component. -/
def name (c : Component) : String := c.kind.name

/-- The component defined at this place. -/
def defined? (c : Component) : Option Component := c.info.defines.map fun kind => ⟨c.dialect, kind⟩

/-- The container as a pointer. -/
def container? (c : Component) : Option Pointer :=
  c.info.container.bind fun text => (Pointer.parse text).toOption

/-- A component as it stands in an adornment. -/
def toJson (c : Component) : Json :=
  .object [("dialect", .string c.dialect.id), ("name", .string c.name)]

/-- Reads a component from an adornment. -/
def ofJson? (value : Json) : Option Component := do
  let dialect ← Dialect.ofId? (← (← value.member? "dialect").string?)
  dialect.component? (← (← value.member? "name").string?)

end Component

end ApiBundle
