import ApiBundle.Pattern.CharSet

/-!
# Patterns

Regular expressions over characters, and a matcher by derivatives. A derivative depends on the
character before the current place, so that anchors and word boundaries need nothing else. The
matcher is total by recursion on the word. Repetitions keep their counts and are not written out, so
large counts cost nothing.
-/

namespace ApiBundle

/-- Which places at the edges of words are meant. -/
inductive WordEdge where
  /-- Between a word and something else. -/
  | any
  /-- Not between a word and something else. -/
  | notAny
  /-- Where a word starts. -/
  | start
  /-- Where a word ends. -/
  | stop
  /-- Not behind a character of a word. -/
  | startHalf
  /-- Not before a character of a word. -/
  | stopHalf
  deriving DecidableEq, Repr

/-- Whether a place is meant, which stands behind and before characters of words or not. -/
def WordEdge.holds (e : WordEdge) (behind ahead : Bool) : Bool :=
  match e with
  | any => behind != ahead
  | notAny => behind == ahead
  | start => !behind && ahead
  | stop => behind && !ahead
  | startHalf => !behind
  | stopHalf => !ahead

/-- A condition on the place between two characters. -/
inductive Boundary where
  /-- The start of the text. -/
  | textStart
  /-- The end of the text. -/
  | textEnd
  /-- The start of a line; carriage returns may end lines as well. -/
  | lineStart (returns : Bool)
  /-- The end of a line; carriage returns may end lines as well. -/
  | lineEnd (returns : Bool)
  /-- A place at the edge of a word; words may be of ASCII characters only. -/
  | word (edge : WordEdge) (ascii : Bool)
  deriving DecidableEq, Repr

/-- Whether a condition holds between two characters, or an end of the text. -/
def Boundary.holds (b : Boundary) (before after : Option Char) : Bool :=
  match b with
  | textStart => before.isNone
  | textEnd => after.isNone
  | lineStart returns =>
    before.isNone || before == some '\n' || (returns && before == some '\r' && after != some '\n')
  | lineEnd returns =>
    after.isNone || (after == some '\n' && !(returns && before == some '\r')) ||
      (returns && after == some '\r')
  | word edge ascii =>
    let inWord (c : Char) : Bool := if ascii then c.isAlphanum || c = '_' else Text.isWord c
    edge.holds (before.any inWord) (after.any inWord)

/-- A pattern of texts. -/
inductive Pattern where
  /-- Matches nothing. -/
  | never
  /-- Matches the empty text. -/
  | nothing
  /-- Matches the empty text where a condition holds. -/
  | boundary (b : Boundary)
  /-- Matches one character of a set. -/
  | char (s : CharSet)
  /-- Matches one pattern after the other. -/
  | seq (p q : Pattern)
  /-- Matches either of two patterns. -/
  | alt (p q : Pattern)
  /-- Matches a pattern from `low` up to `high` times, or any larger number of times. -/
  | repeated (p : Pattern) (low : Nat) (high : Option Nat)
  deriving DecidableEq, Repr

namespace Pattern

/-- One pattern after the other, without needless parts. -/
def andThen : Pattern → Pattern → Pattern
  | never, _ => never
  | _, never => never
  | nothing, q => q
  | p, nothing => p
  | p, q => seq p q

/-- Whether `p` is one of the alternatives of `q`. -/
def isAlternative (p : Pattern) : Pattern → Bool
  | alt q r => isAlternative p q || isAlternative p r
  | q => p == q

/-- Either of two patterns, each alternative once. -/
def orElse : Pattern → Pattern → Pattern
  | never, q => q
  | alt p q, r => orElse p (orElse q r)
  | p, q =>
    if q = never then p
    else if isAlternative p q then q
    else alt p q

/-- A pattern from `low` up to `high` times; zero times is the empty text. -/
def times (p : Pattern) (low : Nat) (high : Option Nat) : Pattern :=
  if high = some 0 then nothing else repeated p low high

/-- Whether the pattern matches the empty text between two characters. -/
def nullable (before after : Option Char) : Pattern → Bool
  | never => false
  | nothing => true
  | boundary b => b.holds before after
  | char _ => false
  | seq p q => nullable before after p && nullable before after q
  | alt p q => nullable before after p || nullable before after q
  | repeated p low _ => low = 0 || nullable before after p

/--
What is left to match after `c`, at a place after `before`. Where a repeated pattern matches the
empty text, any number of its rounds may pass before the one that takes `c`.
-/
def derivative (before : Option Char) (c : Char) : Pattern → Pattern
  | never => never
  | nothing => never
  | boundary _ => never
  | char s => if s.mem c then nothing else never
  | seq p q =>
    let first := andThen (derivative before c p) q
    if nullable before (some c) p then orElse first (derivative before c q) else first
  | alt p q => orElse (derivative before c p) (derivative before c q)
  | repeated p low high =>
    if high = some 0 then never
    else
      let low := if nullable before (some c) p then 0 else low - 1
      andThen (derivative before c p) (times p low (high.map (· - 1)))

/-- Whether the pattern matches all of a text that stands after `before`. -/
def acceptsFrom (before : Option Char) (p : Pattern) : List Char → Bool
  | [] => nullable before none p
  | c :: cs => acceptsFrom (some c) (derivative before c p) cs

/-- Whether the pattern matches all of a text. -/
def accepts (p : Pattern) (cs : List Char) : Bool := acceptsFrom none p cs

/-- Any text. -/
def anything : Pattern := repeated (char .all) 0 none

/-- Whether the pattern matches somewhere in a text. -/
def occursIn (p : Pattern) (cs : List Char) : Bool :=
  accepts (seq anything (seq p anything)) cs

end Pattern

end ApiBundle
