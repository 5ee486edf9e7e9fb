import ApiBundle.OrderedMap
import ApiBundle.Decimal.Double

/-!
# Trees

The document trees that everything else works on: JSON values whose objects keep the order of their
members. Two relations compare trees. Equality is structural. `Json.sameValue` is the looser one
that tells whether a step has changed anything: the order of members does not count, and numbers are
compared by value within their kind, so that an integer never equals a float.
-/

namespace ApiBundle

/-- A number: an integer, or a finite binary64 value. -/
inductive Number where
  /-- A number written without fraction and exponent. -/
  | integer (value : Int)
  /-- Any other number. -/
  | float (value : Double)
  deriving DecidableEq, Repr, Inhabited

/-- Whether two numbers are of one kind and of one value. -/
def Number.sameValue : Number → Number → Bool
  | .integer a, .integer b => a == b
  | .float a, .float b => a.sameValue b
  | _, _ => false

/-- A tree of nested values. -/
inductive Json where
  /-- The absent value. -/
  | null
  /-- A truth value. -/
  | bool (value : Bool)
  /-- A number. -/
  | number (value : Number)
  /-- A text. -/
  | string (value : String)
  /-- A sequence. -/
  | array (items : List Json)
  /-- Named members in order. -/
  | object (members : List (String × Json))
  deriving Repr, Inhabited

namespace Json

mutual

/-- Decides structural equality. -/
def decEq : (a b : Json) → Decidable (a = b)
  | .null, .null => isTrue rfl
  | .bool a, .bool b =>
    if h : a = b then isTrue (h ▸ rfl) else isFalse (fun e => by cases e; exact h rfl)
  | .number a, .number b =>
    if h : a = b then isTrue (h ▸ rfl) else isFalse (fun e => by cases e; exact h rfl)
  | .string a, .string b =>
    if h : a = b then isTrue (h ▸ rfl) else isFalse (fun e => by cases e; exact h rfl)
  | .array a, .array b =>
    match decEqItems a b with
    | isTrue h => isTrue (h ▸ rfl)
    | isFalse h => isFalse (fun e => by cases e; exact h rfl)
  | .object a, .object b =>
    match decEqMembers a b with
    | isTrue h => isTrue (h ▸ rfl)
    | isFalse h => isFalse (fun e => by cases e; exact h rfl)
  | .null, .bool _ | .null, .number _ | .null, .string _ | .null, .array _ | .null, .object _
  | .bool _, .null | .bool _, .number _ | .bool _, .string _ | .bool _, .array _
  | .bool _, .object _
  | .number _, .null | .number _, .bool _ | .number _, .string _ | .number _, .array _
  | .number _, .object _
  | .string _, .null | .string _, .bool _ | .string _, .number _ | .string _, .array _
  | .string _, .object _
  | .array _, .null | .array _, .bool _ | .array _, .number _ | .array _, .string _
  | .array _, .object _
  | .object _, .null | .object _, .bool _ | .object _, .number _ | .object _, .string _
  | .object _, .array _ => isFalse nofun

/-- Decides structural equality of items. -/
def decEqItems : (a b : List Json) → Decidable (a = b)
  | [], [] => isTrue rfl
  | x :: xs, y :: ys =>
    match decEq x y, decEqItems xs ys with
    | isTrue h, isTrue h' => isTrue (h ▸ h' ▸ rfl)
    | isFalse h, _ => isFalse (fun e => by cases e; exact h rfl)
    | _, isFalse h => isFalse (fun e => by cases e; exact h rfl)
  | [], _ :: _ | _ :: _, [] => isFalse nofun

/-- Decides structural equality of members. -/
def decEqMembers : (a b : List (String × Json)) → Decidable (a = b)
  | [], [] => isTrue rfl
  | (k, x) :: xs, (l, y) :: ys =>
    if hk : k = l then
      match decEq x y, decEqMembers xs ys with
      | isTrue h, isTrue h' => isTrue (hk ▸ h ▸ h' ▸ rfl)
      | isFalse h, _ => isFalse (fun e => by cases e; exact h rfl)
      | _, isFalse h => isFalse (fun e => by cases e; exact h rfl)
    else isFalse (fun e => by cases e; exact hk rfl)
  | [], _ :: _ | _ :: _, [] => isFalse nofun

end

instance : DecidableEq Json := decEq

mutual

/-- Whether two trees are equal up to the order of members. -/
def sameValue : Json → Json → Bool
  | .null, .null => true
  | .bool a, .bool b => a == b
  | .number a, .number b => a.sameValue b
  | .string a, .string b => a == b
  | .array a, .array b => sameItems a b
  | .object a, .object b => a.length == b.length && sameMembers a b
  | _, _ => false

/-- Whether two sequences agree item by item. -/
def sameItems : List Json → List Json → Bool
  | [], [] => true
  | x :: xs, y :: ys => sameValue x y && sameItems xs ys
  | _, _ => false

/-- Whether every member of the first list has an equal one of that name in the second. -/
def sameMembers : List (String × Json) → List (String × Json) → Bool
  | [], _ => true
  | (k, x) :: xs, ys =>
    (match OrderedMap.find? ys k with
      | some y => sameValue x y
      | none => false) && sameMembers xs ys

end

mutual

/-- Whether no object of the tree has two members of one name. -/
def WellFormed : Json → Prop
  | .array items => WellFormedItems items
  | .object members => (OrderedMap.keys members).Nodup ∧ WellFormedMembers members
  | _ => True

/-- Whether every item is well formed. -/
def WellFormedItems : List Json → Prop
  | [] => True
  | x :: xs => WellFormed x ∧ WellFormedItems xs

/-- Whether every member's value is well formed. -/
def WellFormedMembers : List (String × Json) → Prop
  | [] => True
  | (_, x) :: xs => WellFormed x ∧ WellFormedMembers xs

end

/-- The members of an object. -/
def members? : Json → Option (List (String × Json))
  | .object members => some members
  | _ => none

/-- The member of an object under a name. -/
def member? (node : Json) (name : String) : Option Json :=
  match node with
  | .object members => OrderedMap.find? members name
  | _ => none

/-- The text of a string node. -/
def string? : Json → Option String
  | .string text => some text
  | _ => none

/-- The truth value of a boolean node. -/
def bool? : Json → Option Bool
  | .bool value => some value
  | _ => none

/-- Whether this is the absent value. -/
def isNull : Json → Bool
  | .null => true
  | _ => false

/-- An integer node. -/
def ofInt (value : Int) : Json := .number (.integer value)

/-- An integer node. -/
def ofNat (value : Nat) : Json := ofInt value

end Json

end ApiBundle
