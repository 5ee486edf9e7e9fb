import ApiBundle.Pattern.Form
import ApiBundle.Pattern.Parser
import ApiBundle.Text.OctetRanges
import ApiBundle.Text.Split
import Std.Data.TreeMap

/-!
# The size of a pattern

Patterns are limited by the size of two automata over octets, one for reading a text forwards and
one for reading it backwards. A state takes `stateSize` octets; the edges of a fork and the
transitions of a state with several take some more. Repetitions are written out, so the limit bounds
their counts.

The characters of a set become a tree of octet ranges. Subtrees, forwards, and stems, backwards,
that occur again are shared as far as a table of fixed size remembers them: a newer entry takes the
place of an older one in the same slot.
-/

namespace ApiBundle.Pattern

/-- The size of an automaton that is being built. -/
structure Automaton where
  /-- How many states there are. -/
  states : Nat
  /-- How many octets their edges and transitions take. -/
  extra : Nat
  deriving DecidableEq, Repr

namespace Automaton

/-- The octets of a state. -/
def stateSize : Nat := 32

/-- The octets of an edge of a fork. -/
def edgeSize : Nat := 4

/-- The octets of a transition, where a state has several. -/
def transitionSize : Nat := 8

/-- How large an automaton may be. -/
def sizeLimit : Nat := 10 * Nat.pow 2 20

/-- The size in octets. -/
def size (a : Automaton) : Nat := a.states * stateSize + a.extra

/-- The automaton before anything is built. -/
def empty : Automaton := ⟨0, 0⟩

end Automaton

/-- Steps that build an automaton, and fail where it would be too large. -/
abbrev Build : Type → Type := StateT Automaton Option

namespace Build

open Automaton

/-- Makes sure that the automaton is not too large. -/
def check (a : Automaton) : Option Automaton := if sizeLimit < a.size then none else some a

/-- Adds a state with further octets; its number is how many states come before it. -/
def state (extra : Nat) : Build Nat := fun a =>
  (check ⟨a.states + 1, a.extra + extra⟩).map fun b => (a.states, b)

/-- Adds a state. -/
def plain : Build Unit := do let _ ← state 0

/-- Adds a fork with some edges. -/
def fork (edges : Nat) : Build Unit := do let _ ← state (edges * edgeSize)

/-- Adds edges to a fork. -/
def edges (n : Nat) : Build Unit := fun a =>
  (check { a with extra := a.extra + n * edgeSize }).map fun b => ((), b)

/-- Takes a step `n` times. -/
def times (step : Build Unit) : Nat → Build Unit
  | 0, a => some ((), a)
  | n + 1, a =>
    match step a with
    | some (_, a) => times step n a
    | none => none

end Build

/-! ## Sharing -/

/-- States that are remembered by what they lead to, each in its slot. -/
abbrev Memory : Type := Std.TreeMap Nat (List Nat × Nat)

namespace Memory

/-- Mixes a number into a hash. -/
def mix (hash : UInt64) (n : Nat) : UInt64 := (hash ^^^ n.toUInt64) * 1099511628211

/-- The slot of a key. -/
def slot (slots : Nat) (key : List Nat) : Nat :=
  (key.foldl mix 14695981039346656037).toNat % slots

/-- The state of a key, if it is still remembered; otherwise a new one, which is then remembered. -/
def share (slots : Nat) (key : List Nat) (extra : Nat) : StateT Memory Build Nat := do
  let place := slot slots key
  match (← get).get? place with
  | some (known, n) => if known = key then return n else add place
  | none => add place
where
  /-- Adds a state and remembers it. -/
  add (place : Nat) : StateT Memory Build Nat := do
    let n ← Build.state extra
    modify fun m => m.insert place (key, n)
    return n

end Memory

namespace Build

/-! ## Sets -/

/-- How many subtrees are remembered. -/
def treeSlots : Nat := 10000

/-- How many stems are remembered. -/
def stemSlots : Nat := 1000

/-- Adds a tree of octet ranges of at most the given depth, whose leaves lead to `target`. -/
def tree (target : Nat) (depth : Nat) (sequences : List Utf8.OctetRanges) :
    StateT Memory Build Nat :=
  match depth with
  | 0 => return target
  | depth + 1 => do
    let key ← (sequences.splitBy fun s t => s.head? == t.head?).mapM fun group => do
      let (low, high) := (group.headD []).headD (0, 0)
      let rest := group.map List.tail
      let next ← if rest.all List.isEmpty then pure target else tree target depth rest
      return [low, high, next]
    Memory.share treeSlots key.flatten (key.length * Automaton.transitionSize)

/-- Adds the octet ranges of a character, first octet first, each leading to the one before it. -/
def stem (sequence : Utf8.OctetRanges) (target : Nat) : StateT Memory Build Nat :=
  sequence.foldlM (fun target r => Memory.share stemSlots [target, r.1, r.2] 0) target

/-- Adds a set. -/
def set (backwards : Bool) (s : CharSet) : Build Unit := do
  if s.isAscii then
    plain
    let _ ← state (s.ranges.length * Automaton.transitionSize)
  else if backwards then
    plain
    let target ← state 0
    let stems : StateT Memory Build Unit :=
      (Utf8.octetRanges s.ranges).forM fun sequence => do
        let _ ← stem sequence target
        edges 1
    let _ ← stems.run ∅
  else
    let target ← state 0
    let _ ← (tree target 4 (Utf8.octetRanges s.ranges)).run ∅

/-! ## Literals -/

/-- The rest of the words that start with an octet. -/
def wordsAfter (b : Nat) (words : List (List Nat)) : List (List Nat) :=
  words.filterMap fun word =>
    match word with
    | c :: rest => if b = c then some rest else none
    | [] => none

/--
The words before, between and after those that are empty. A tree does not share anything across a
word that ends in its root. Before all other words one empty word says as much as several.
-/
def wordsBetweenEnds (words : List (List Nat)) : List (List (List Nat)) :=
  let rest := words.dropWhile List.isEmpty
  Text.splitAt [] (if rest.length < words.length then [] :: rest else rest)

/-- Adds a tree of words, which are no longer than the fuel lasts. -/
def words (fuel : Nat) (ws : List (List Nat)) : Build Unit :=
  match fuel with
  | 0 => return
  | fuel + 1 => do
    let parts := wordsBetweenEnds ws
    let filled := parts.filter (!·.isEmpty)
    filled.forM fun part => do
      let firsts := (part.filterMap List.head?).eraseDups
      firsts.forM fun b => do
        let rest := wordsAfter b part
        if rest.all List.isEmpty then return else words fuel rest
      let n := firsts.length
      let _ ← state (if n = 1 then 0 else n * Automaton.transitionSize)
    fork (filled.length + (parts.length - 1))

/-- The octets of a form that is a literal. -/
def literal? (backwards : Bool) : Form → Option (List Nat)
  | .literal cs => some (if backwards then (Utf8.encode cs).reverse else Utf8.encode cs)
  | _ => none

/-! ## Forms -/

mutual

/-- Adds a form. -/
def form (backwards : Bool) : Form → Build Unit
  | .nothing => plain
  | .literal cs => times plain (cs.map Char.utf8Size).sum
  | .set s => set backwards s
  | .boundary _ => plain
  | .group _ f => do
    if backwards then form backwards f
    else
      plain
      form backwards f
      plain
  | .row fs => row backwards fs
  | .alternatives fs =>
    match fs.mapM (literal? backwards) with
    | some ws => do
      plain
      words ((ws.map List.length).foldl max 0 + 1) ws
    | none => alternatives backwards 0 fs
  | .repeated f low high _ =>
    match low, high with
    | 0, none =>
      if 0 < f.leastLength.getD 0 then do
        fork 2
        form backwards f
      else do
        form backwards f
        fork 2
        fork 2
        plain
    | 0, some 1 => do
      fork 2
      form backwards f
      plain
    | low, none => do
      times (form backwards f) low
      fork 2
    | low, some high => do
      if low = 0 then plain else times (form backwards f) low
      if low < high then
        plain
        times (do fork 2; form backwards f) (high - low)

/-- Adds forms in a row, from the end that is read first. -/
def row (backwards : Bool) : List Form → Build Unit
  | [] => return
  | f :: fs =>
    if backwards then do
      row backwards fs
      form backwards f
    else do
      form backwards f
      row backwards fs

/-- Adds alternatives; `before` are the ones added. -/
def alternatives (backwards : Bool) (before : Nat) : List Form → Build Unit
  | [] => return
  | f :: fs => do
    form backwards f
    if before = 1 then
      fork 2
      plain
    else if 1 < before then edges 1
    alternatives backwards (before + 1) fs

end

end Build

namespace Form

mutual

/-- Whether a form matches at the start of a text only. -/
def holdsAtStart : Form → Bool
  | boundary b => b = .textStart
  | repeated f low _ _ => 0 < low && holdsAtStart f
  | group _ f => holdsAtStart f
  | row fs => rowHoldsAtStart fs
  | alternatives fs => allHoldAtStart fs
  | _ => false

/-- Whether forms in a row match at the start of a text only. -/
def rowHoldsAtStart : List Form → Bool
  | [] => false
  | f :: fs => holdsAtStart f || (isEmptyOnly f && rowHoldsAtStart fs)

/-- Whether all forms match at the start of a text only. -/
def allHoldAtStart : List Form → Bool
  | [] => true
  | f :: fs => holdsAtStart f && allHoldAtStart fs

end

mutual

/-- Whether a form matches at the end of a text only. -/
def holdsAtEnd : Form → Bool
  | boundary b => b = .textEnd
  | repeated f low _ _ => 0 < low && holdsAtEnd f
  | group _ f => holdsAtEnd f
  | row fs => rowHoldsAtEnd fs
  | alternatives fs => allHoldAtEnd fs
  | _ => false

/-- Whether forms in a row match at the end of a text only. -/
def rowHoldsAtEnd : List Form → Bool
  | [] => false
  | f :: fs => rowHoldsAtEnd fs || (areEmptyOnly fs && holdsAtEnd f)

/-- Whether all forms match at the end of a text only. -/
def allHoldAtEnd : List Form → Bool
  | [] => true
  | f :: fs => holdsAtEnd f && allHoldAtEnd fs

end

/--
Builds the automaton of a form for one direction: what skips to where a match may start, the form,
and the end. Forwards the whole match is a group.
-/
def build (backwards : Bool) (f : Form) : Build Unit := do
  Build.plain
  if !(if backwards then f.holdsAtEnd else f.holdsAtStart) then
    Build.fork 2
    let _ ← Build.state Automaton.transitionSize
  if backwards then Build.form backwards f
  else
    Build.plain
    Build.form backwards f
    Build.plain
  Build.plain

/-- Whether the automata of a form are not too large. -/
def fits (f : Form) : Bool :=
  ((f.build false).run .empty).isSome && ((f.build true).run .empty).isSome

end Form

/-- Reads the text of a pattern. -/
def parse (text : String) : Except PatternError Pattern := do
  let f := Form.ofExpression (← Expression.parse text)
  if f.fits then return f.pattern else throw .tooLarge

end ApiBundle.Pattern
