import ApiBundle.Dialect.Basic
import ApiBundle.Machine.Basic

/-!
# The machines of the dialects

How the properties of a description move between its components. The states of a dialect's
components come first, in the dialect's order; the hops between them follow in the order in which
the transits below need them.
-/

namespace ApiBundle.Dialect

open Machine

/-- Names of definitions: no vendor extensions, which start with `x-`. -/
def definitionName : String :=
  "re: [a-wyzA-Z0-9._-][a-zA-Z0-9._-]*|x|x[a-zA-Z0-9._][a-zA-Z0-9._-]*"

/-- Keys of path items. -/
def pathName : String := "re: /.*"

/-- The request methods that lead from a path item to an operation in every dialect. -/
def methods : List String := ["get", "put", "post", "delete", "options", "head", "patch"]

/-- The state of a kind: its place in the dialect's order. -/
def stateOf (d : Dialect) (kind : Kind) : Nat := d.kinds.idxOf kind

/-- Declares a transit between two components. -/
def move (d : Dialect) (source : Kind) (labels : List String) (target : Kind) :
    Assembly Component Unit :=
  transit (d.stateOf source) labels (d.stateOf target)

/-- Gives one component the edges of another. -/
def moveLike (d : Dialect) (source target : Kind) : Assembly Component Unit :=
  copyEdges (d.stateOf source) (d.stateOf target)

/-- The transits of Swagger 2.0. -/
def swagger2Moves : Assembly Component Unit := do
  let move := swagger2.move
  move .model ["paths", pathName] .path
  move .model ["definitions", definitionName] .schemaDef
  move .model ["responses", definitionName] .responseDef
  move .model ["parameters", definitionName] .parameterDef
  -- only body parameters have a schema; for others the transit is idle
  move .parameter ["schema"] .schema
  move .response ["schema"] .schema
  move .schema ["items"] .schema
  move .schema ["allOf", "#"] .schema
  move .schema ["properties", "*"] .schema
  move .schema ["additionalProperties"] .schema
  methods.forM fun method => move .path [method] .operation
  move .operation ["responses", "*"] .response
  move .path ["parameters", "#"] .parameter
  move .operation ["parameters", "#"] .parameter
  swagger2.moveLike .schema .schemaDef
  swagger2.moveLike .response .responseDef
  swagger2.moveLike .parameter .parameterDef

/-- The containers of OpenAPI 3 below `components`: key, what is collected, where it is defined. -/
def openApi3Containers : List (String × Kind × Kind) :=
  [("schemas", .schema, .schemaDef), ("responses", .response, .responseDef),
    ("parameters", .parameter, .parameterDef), ("examples", .exampleItem, .exampleItemDef),
    ("requestBodies", .requestBody, .requestBodyDef), ("headers", .header, .headerDef),
    ("securitySchemes", .securityScheme, .securitySchemeDef), ("links", .link, .linkDef),
    ("callbacks", .callback, .callbackDef)]

/-- The transits of OpenAPI 3. -/
def openApi3Moves : Assembly Component Unit := do
  let move := openApi3.move
  move .model ["paths", pathName] .path
  openApi3Containers.forM fun (key, _, definition) =>
    move .model ["components", key, definitionName] definition
  -- path items and operations
  methods.forM fun method => move .path [method] .operation
  move .path ["trace"] .operation
  move .path ["parameters", "#"] .parameter
  move .operation ["parameters", "#"] .parameter
  move .operation ["requestBody"] .requestBody
  move .operation ["responses", "*"] .response
  move .operation ["callbacks", "*"] .callback
  -- schemas
  move .schema ["items"] .schema
  move .schema ["not"] .schema
  move .schema ["additionalProperties"] .schema
  move .schema ["properties", "*"] .schema
  ["allOf", "oneOf", "anyOf"].forM fun combinator => move .schema [combinator, "#"] .schema
  -- parameters, headers and bodies
  [Kind.parameter, Kind.header].forM fun holder => do
    move holder ["schema"] .schema
    move holder ["content", "*"] .mediaType
    move holder ["examples", "*"] .exampleItem
  move .requestBody ["content", "*"] .mediaType
  move .response ["content", "*"] .mediaType
  move .response ["headers", "*"] .header
  move .response ["links", "*"] .link
  move .mediaType ["schema"] .schema
  move .mediaType ["examples", "*"] .exampleItem
  move .mediaType ["encoding", "*"] .encoding
  move .encoding ["headers", "*"] .header
  -- callbacks hold path items under runtime expressions
  move .callback ["*"] .callbackPath
  openApi3.moveLike .path .callbackPath
  openApi3Containers.forM fun (_, site, definition) => openApi3.moveLike site definition

/-- The transits of a dialect. -/
def moves : Dialect → Assembly Component Unit
  | swagger2 => swagger2Moves
  | openApi3 => openApi3Moves

/-- A machine that has a state for each component, and no edges. -/
def bare (d : Dialect) : Machine Component :=
  ⟨(d.components.map fun c => StateRecord.fresh (some c)).toArray⟩

/-- The outcome of assembling a dialect's machine. -/
def assembled (d : Dialect) : Except BundleError Unit × Machine Component := d.moves.run.run d.bare

/-- The machine of Swagger 2.0. -/
def swagger2Machine : Machine Component := (assembled swagger2).2

/-- The machine of OpenAPI 3. -/
def openApi3Machine : Machine Component := (assembled openApi3).2

/-- The machine of a dialect. -/
def machine : Dialect → Machine Component
  | swagger2 => swagger2Machine
  | openApi3 => openApi3Machine

/-- The state of a whole description. -/
def model (d : Dialect) : Nat := d.stateOf .model

/-- The state of a component in the machine of a dialect; other dialects' components have none. -/
def state? (d : Dialect) (c : Component) : Option Nat :=
  if c.dialect = d ∧ c.kind ∈ d.kinds then some (d.stateOf c.kind) else none

end ApiBundle.Dialect
