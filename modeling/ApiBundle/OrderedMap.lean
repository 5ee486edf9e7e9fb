/-!
# Ordered maps

A finite map that remembers the order in which its keys were first put in. Putting a value under a
key that is already there keeps the key's place; removing a key keeps the order of the rest.
-/

namespace ApiBundle

/-- Pairs of a key and its value, oldest key first. -/
abbrev OrderedMap (α β : Type) : Type := List (α × β)

namespace OrderedMap

variable {α β : Type} [DecidableEq α]

/-- The value under a key. -/
def find? (m : OrderedMap α β) (key : α) : Option β :=
  match m with
  | [] => none
  | (k, v) :: rest => if k = key then some v else find? rest key

/-- Whether a key has a value. -/
def contains (m : OrderedMap α β) (key : α) : Bool := (find? m key).isSome

/-- Gives a key a value: in its old place if it has one, at the end otherwise. -/
def put (m : OrderedMap α β) (key : α) (value : β) : OrderedMap α β :=
  match m with
  | [] => [(key, value)]
  | (k, v) :: rest => if k = key then (k, value) :: rest else (k, v) :: put rest key value

/-- Takes a key out. -/
def remove (m : OrderedMap α β) (key : α) : OrderedMap α β := m.filter fun entry => entry.1 ≠ key

/-- Changes the value under a key, if it has one. -/
def modify (m : OrderedMap α β) (key : α) (f : β → β) : OrderedMap α β :=
  match m with
  | [] => []
  | (k, v) :: rest => if k = key then (k, f v) :: rest else (k, v) :: modify rest key f

/-- The keys, oldest first. -/
def keys (m : OrderedMap α β) : List α := m.map Prod.fst

omit [DecidableEq α] in
/-- The values, in the order of their keys. -/
def values (m : OrderedMap α β) : List β := m.map Prod.snd

/-- Puts every pair of `incoming` into `m`, in order. -/
def overlay (m incoming : OrderedMap α β) : OrderedMap α β :=
  incoming.foldl (fun acc entry => put acc entry.1 entry.2) m

theorem find?_put (m : OrderedMap α β) (key other : α) (value : β) :
    find? (put m key value) other = if key = other then some value else find? m other := by
  induction m with
  | nil => simp [put, find?]
  | cons entry rest ih =>
    by_cases h : entry.1 = key
    · by_cases h' : key = other <;> simp_all [put, find?]
    · by_cases h' : key = other <;> by_cases h'' : entry.1 = other <;> simp_all [put, find?]

theorem keys_put (m : OrderedMap α β) (key : α) (value : β) :
    keys (put m key value) = if key ∈ keys m then keys m else keys m ++ [key] := by
  induction m with
  | nil => simp [put, keys]
  | cons entry rest ih =>
    by_cases h : entry.1 = key
    · simp_all [put, keys]
    · have h' : key ≠ entry.1 := fun e => h e.symm
      simp only [put, keys, List.map_cons, h, if_false, List.mem_cons, h', false_or] at ih ⊢
      rw [ih]
      split <;> simp_all

end OrderedMap

end ApiBundle
