import ApiBundle.Pattern.Expression

/-!
# Simplified patterns

An expression with what does not matter taken out: nested rows and alternatives are flat, literals
that meet are one, alternatives of single characters are a set, a start that all alternatives share
stands before them, and repetitions of what is empty are not repeated. A form is what the size of a
pattern is measured on, and it says what the pattern matches (`Form.pattern`).
-/

namespace ApiBundle.Pattern

/-- A simplified pattern. -/
inductive Form where
  /-- Nothing. -/
  | nothing
  /-- Some characters in a row. -/
  | literal (cs : List Char)
  /-- A character of a set. -/
  | set (s : CharSet)
  /-- A condition on the place. -/
  | boundary (b : Boundary)
  /-- A form from `low` up to `high` times; it may prefer many rounds or few. -/
  | repeated (f : Form) (low : Nat) (high : Option Nat) (greedy : Bool)
  /-- A group that captures, with its number. -/
  | group (number : Nat) (f : Form)
  /-- Two or more forms in a row. -/
  | row (fs : List Form)
  /-- Two or more alternatives. -/
  | alternatives (fs : List Form)
  deriving Repr, Inhabited

namespace Form

mutual

/-- Whether two forms are the same. -/
def same : Form → Form → Bool
  | nothing, nothing => true
  | literal a, literal b => a == b
  | set s, set t => s == t
  | boundary a, boundary b => a == b
  | repeated f low high greedy, repeated g low' high' greedy' =>
    low == low' && high == high' && greedy == greedy' && same f g
  | group n f, group m g => n == m && same f g
  | row fs, row gs => sameAll fs gs
  | alternatives fs, alternatives gs => sameAll fs gs
  | _, _ => false

/-- Whether forms agree one by one. -/
def sameAll : List Form → List Form → Bool
  | [], [] => true
  | f :: fs, g :: gs => same f g && sameAll fs gs
  | _, _ => false

end

/-! ## Lengths -/

/-- How many octets the character of a code point has. -/
def octetCount (n : Nat) : Nat :=
  if n < 0x80 then 1 else if n < 0x800 then 2 else if n < 0x10000 then 3 else 4

/-- The sum of two lengths, if both are known. -/
def plus (a b : Option Nat) : Option Nat := do return (← a) + (← b)

mutual

/-- The least length in octets of what a form matches; `none` if it holds a set of no characters. -/
def leastLength : Form → Option Nat
  | nothing | boundary _ => some 0
  | literal cs => some (cs.map Char.utf8Size).sum
  | set s => s.ranges.head?.map fun r => octetCount r.1
  | repeated f low _ _ => (leastLength f).map (· * low)
  | group _ f => leastLength f
  | row fs => leastOfRow fs
  | alternatives fs => leastOfAny fs

/-- The least length of forms in a row. -/
def leastOfRow : List Form → Option Nat
  | [] => some 0
  | f :: fs => plus (leastLength f) (leastOfRow fs)

/-- The least length of alternatives. -/
def leastOfAny : List Form → Option Nat
  | [] => none
  | [f] => leastLength f
  | f :: fs => do return min (← leastLength f) (← leastOfAny fs)

end

mutual

/-- Whether a form can match nothing but the empty text. -/
def isEmptyOnly : Form → Bool
  | nothing | boundary _ => true
  | literal cs => cs.isEmpty
  | set _ => false
  | repeated f _ high _ => high.isSome && (high = some 0 || isEmptyOnly f)
  | group _ f => isEmptyOnly f
  | row fs | alternatives fs => areEmptyOnly fs

/-- Whether forms can match nothing but the empty text. -/
def areEmptyOnly : List Form → Bool
  | [] => true
  | f :: fs => isEmptyOnly f && areEmptyOnly fs

end

/-! ## Building forms -/

/-- The form of a set; a set of one character is a literal. -/
def ofSet (s : CharSet) : Form :=
  match s.single? with
  | some c => literal [c]
  | none => set s

/-- A repeated form. What is empty need not be repeated, and once is the form itself. -/
def ofRepetition (f : Form) (low : Nat) (high : Option Nat) (greedy : Bool) : Form :=
  let (low, high) := if isEmptyOnly f then (min low 1, some (min (high.getD 1) 1)) else (low, high)
  if high = some 0 then nothing
  else if low = 1 && high = some 1 then f
  else repeated f low high greedy

/-- The parts of a form in a row. -/
def rowParts : Form → List Form
  | nothing => []
  | row fs => fs
  | f => [f]

/-- Makes literals that meet one literal. -/
def joinLiterals : List Form → List Form
  | [] => []
  | f :: fs =>
    match f, joinLiterals fs with
    | literal a, literal b :: rest => literal (a ++ b) :: rest
    | f, rest => f :: rest

/-- Forms in a row. -/
def ofRow (fs : List Form) : Form :=
  match joinLiterals (fs.flatMap rowParts) with
  | [] => nothing
  | [f] => f
  | fs => row fs

/-- The alternatives of a form. -/
def alternativeParts : Form → List Form
  | alternatives fs => fs
  | f => [f]

/-- The only character of a literal. -/
def singleChar? : Form → Option Char
  | literal [c] => some c
  | _ => none

/-- The set of a form that is one. -/
def set? : Form → Option CharSet
  | set s => some s
  | _ => none

/-- The one set that alternatives stand for, if they are all single characters or all sets. -/
def asSet? (fs : List Form) : Option CharSet :=
  match fs.mapM singleChar? with
  | some cs => some (.unions (cs.map .one))
  | none => (fs.mapM set?).map .unions

/-- The parts of a form that is a row. -/
def row? : Form → Option (List Form)
  | row fs => some fs
  | _ => none

/-- How many parts two rows share at their start. -/
def sharedCount : List Form → List Form → Nat
  | f :: fs, g :: gs => if same f g then sharedCount fs gs + 1 else 0
  | _, _ => 0

/-- How many parts rows share at their start. -/
def sharedByAll : List (List Form) → Nat
  | [] => 0
  | fs :: rest => (rest.map (sharedCount fs)).foldl min fs.length

mutual

/-- How many forms a form is made of. -/
def weight : Form → Nat
  | nothing | literal _ | set _ | boundary _ => 1
  | repeated f _ _ _ | group _ f => weight f + 1
  | row fs | alternatives fs => weights fs + 1

/-- How many forms several forms are made of. -/
def weights : List Form → Nat
  | [] => 0
  | f :: fs => weight f + weights fs

end

/-- Alternatives. What all of them start with is put before them, as long as there is fuel. -/
def alternativesFrom (fuel : Nat) (fs : List Form) : Form :=
  match fuel, fs.flatMap alternativeParts with
  | _, [f] => f
  | 0, fs => alternatives fs
  | fuel + 1, fs =>
    match asSet? fs with
    | some s => ofSet s
    | none =>
      match fs.mapM row? with
      | none => alternatives fs
      | some rows =>
        let shared := sharedByAll rows
        if shared = 0 then alternatives fs
        else
          let start := (rows.headD []).take shared
          ofRow (start ++ [alternativesFrom fuel (rows.map fun fs => ofRow (fs.drop shared))])

/-- Alternatives. -/
def ofAlternatives (fs : List Form) : Form := alternativesFrom (weights fs) fs

mutual

/-- The form of an expression. -/
def ofExpression : Expression → Form
  | .nothing | .flags => nothing
  | .literal c => literal [c]
  | .set s _ => ofSet s
  | .boundary b => boundary b
  | .repeated e low high greedy => ofRepetition (ofExpression e) low high greedy
  | .group (some n) e => group n (ofExpression e)
  | .group none e => ofExpression e
  | .row es => ofRow (ofExpressions es)
  | .alternatives es => ofAlternatives (ofExpressions es)

/-- The forms of expressions. -/
def ofExpressions : List Expression → List Form
  | [] => []
  | e :: es => ofExpression e :: ofExpressions es

end

/-! ## Meaning -/

mutual

/-- What a form matches. -/
def pattern : Form → Pattern
  | nothing => .nothing
  | literal cs => cs.foldr (fun c p => .andThen (.char (.one c)) p) .nothing
  | set s => .char s
  | boundary b => .boundary b
  | repeated f low high _ => (pattern f).times low high
  | group _ f => pattern f
  | row fs => patternOfRow fs
  | alternatives fs => patternOfAny fs

/-- What forms in a row match. -/
def patternOfRow : List Form → Pattern
  | [] => .nothing
  | f :: fs => .andThen (pattern f) (patternOfRow fs)

/-- What alternatives match. -/
def patternOfAny : List Form → Pattern
  | [] => .never
  | f :: fs => .orElse (pattern f) (patternOfAny fs)

end

end Form

end ApiBundle.Pattern
