/-!
# Failures of a run

What can stop a run as a whole. A single reference that leads nowhere does not: its failure is
recorded on the reference (`ReferenceError`).
-/

namespace ApiBundle

/-- Why a run stops. -/
inductive BundleError where
  /-- The system refused to read or write something. -/
  | io (text : String)
  /-- Two contents for one reference. -/
  | duplicateContent (reference : String)
  /-- A merge into an origin without an entry. -/
  | mergeBeforeLocalize (origin : String)
  /-- A path of labels that already leads to another state. -/
  | transitConflict (labels : List String) (present wanted : Nat)
  /-- A label whose pattern cannot be read. -/
  | invalidLabel (label reason : String)
  /-- A state that the machine does not have. -/
  | unknownState (state : Nat)
  /-- More moves undone than made. -/
  | backupUnderflow
  /-- A top-level document that cannot be used. -/
  | invalidRoot (location reason : String)
  /-- Options that cannot be read. -/
  | config (reason : String)
  /-- A transit without labels. -/
  | noLabels
  /-- A node of the wrong kind on the way to where something is inserted. -/
  | insertBlocked (place : String)
  /-- A component that is not collected anywhere. -/
  | noContainer (component : String)
  /-- An entry that was just made and is not there. -/
  | entryVanished (origin : String)
  /-- A subtree whose place in its document is gone. -/
  | subtreeVanished (reference : String)
  /-- A store into content that was never retrieved. -/
  | storeIntoInvalid (reference : String)
  /-- A reference that is being resolved already. -/
  | alreadyResolving (reference : String)
  /-- The root document has no result. -/
  | rootVanished
  /-- A failure raised by whoever visits a tree. -/
  | raised (text : String)
  deriving DecidableEq, Repr

namespace BundleError

/-- What a failure without a kind of its own says. -/
def detail : BundleError → String
  | .noLabels => "A transit needs at least one edge label"
  | .insertBlocked place =>
    "Cannot insert at " ++ place ++ ": a non-container value is in the way"
  | .noContainer component => "Component " ++ component ++ " has no container"
  | .entryVanished origin => "Localized entry vanished for " ++ origin
  | .subtreeVanished reference => "Subtree " ++ reference ++ " vanished from its document"
  | .storeIntoInvalid reference => "Cannot store into invalid content " ++ reference
  | .alreadyResolving reference => "Reference is already being resolved: " ++ reference
  | .rootVanished => "Root document vanished"
  | .raised text => text
  | _ => ""

/-- The wording of a failure. -/
def message : BundleError → String
  | .io text => "IO Error: " ++ text
  | .duplicateContent reference => "Content already loaded for reference: " ++ reference
  | .mergeBeforeLocalize origin => "Cannot merge into unlocalized reference: " ++ origin
  | .transitConflict labels present wanted =>
    "Conflicting transit: [" ++ ", ".intercalate labels ++ "] already leads to state " ++
      toString present ++ ", not " ++ toString wanted
  | .invalidLabel label reason => "Invalid edge label '" ++ label ++ "': " ++ reason
  | .unknownState state => "Unknown state " ++ toString state
  | .backupUnderflow => "Can't back up past initial state"
  | .invalidRoot location reason => "Invalid root document " ++ location ++ ": " ++ reason
  | .config reason => "Configuration Error: " ++ reason
  | e => "General Error: " ++ e.detail

end BundleError

end ApiBundle
