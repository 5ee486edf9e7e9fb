import ApiBundle.Dialect.Basic

/-!
# Options

What a bundling run can be told: the dialect, the components whose references are inlined, further
documents that join the result, and whether bare names count as references into a container.
-/

namespace ApiBundle

/-- Which dialect to use. -/
inductive DialectChoice where
  /-- The one that the root document shows. -/
  | auto
  /-- A given one. -/
  | fixed (dialect : Dialect)
  deriving DecidableEq, Repr, Inhabited

/-- The dialect that a choice fixes. -/
def DialectChoice.forced? : DialectChoice → Option Dialect
  | .auto => none
  | .fixed d => some d

/-- The name of a choice. -/
def DialectChoice.name : DialectChoice → String
  | .auto => "auto"
  | .fixed d => d.id

/-- The choice of a name. -/
def DialectChoice.ofName? (name : String) : Option DialectChoice :=
  if name = "auto" then some .auto else (Dialect.ofId? name).map .fixed

/-- The options of a run. -/
structure Options where
  /-- The dialect. -/
  dialect : DialectChoice
  /-- Names of components whose references are inlined. -/
  inlined : List String
  /-- Documents whose definitions join the result, relative to the root document. -/
  additionalFiles : List String
  /-- Whether a bare name as a fragment means the member of that name in its container. -/
  expandNames : Bool
  deriving DecidableEq, Repr, Inhabited

namespace Options

/-- Options that nobody has set: references are hoisted, bare names are expanded. -/
def default : Options := ⟨.auto, [], [], true⟩

/-- The name that stands for every component. -/
def everyComponent : String := "ALL"

/-- Whether references at a component are inlined. -/
def inlines (o : Options) (c : Component) : Bool :=
  o.inlined.any fun name =>
    Text.sameIgnoringCase name everyComponent || Text.sameIgnoringCase name c.name

/-- The names to inline that no component of a dialect has. -/
def unknownNames (o : Options) (d : Dialect) : List String :=
  o.inlined.filter fun name =>
    !Text.sameIgnoringCase name everyComponent && (d.component? name).isNone

end Options

end ApiBundle
