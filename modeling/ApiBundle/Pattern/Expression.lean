import ApiBundle.Pattern.Basic

/-!
# Pattern expressions

The tree of a pattern's text: what is grouped, repeated, and put in a row or between bars. Flags
have been worked into the sets, and what is left of them is an item that matches nothing. How deep
the tree is nested (`nesting`) is limited.
-/

namespace ApiBundle.Pattern

/-- The tree of a pattern's text. -/
inductive Expression where
  /-- Nothing, as between two bars. -/
  | nothing
  /-- A change of flags. -/
  | flags
  /-- A character in the given case only. -/
  | literal (c : Char)
  /-- A character of a set, whose text has brackets nested as deep as given. -/
  | set (s : CharSet) (nesting : Nat)
  /-- A condition on the place. -/
  | boundary (b : Boundary)
  /-- An expression from `low` up to `high` times; it may prefer many rounds or few. -/
  | repeated (e : Expression) (low : Nat) (high : Option Nat) (greedy : Bool)
  /-- A group, with its number if it is one that captures. -/
  | group (number : Option Nat) (e : Expression)
  /-- Two or more expressions in a row. -/
  | row (es : List Expression)
  /-- Two or more alternatives. -/
  | alternatives (es : List Expression)
  deriving Repr, Inhabited

namespace Expression

/-- How deep expressions may be nested. -/
def nestingLimit : Nat := 250

/-- Expressions in a row. -/
def ofRow : List Expression → Expression
  | [] => nothing
  | [e] => e
  | es => row es

/-- Alternatives. -/
def ofAlternatives : List Expression → Expression
  | [e] => e
  | es => alternatives es

mutual

/-- How deep the tree is nested; rows and alternatives count as well. -/
def nesting : Expression → Nat
  | nothing | flags | literal _ | boundary _ => 0
  | set _ n => n
  | repeated e _ _ _ | group _ e => nesting e + 1
  | row es | alternatives es => nestings es + 1

/-- The deepest nesting of several expressions. -/
def nestings : List Expression → Nat
  | [] => 0
  | e :: es => max (nesting e) (nestings es)

end

end Expression

end ApiBundle.Pattern
