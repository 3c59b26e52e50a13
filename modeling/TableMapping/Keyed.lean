/-!
# Lists ordered by key

Maps from names are lists of pairs in ascending order of the names, compared character by
character.  Each name occurs once.

## Main definitions

* `Keyed.insert` : a list with a name bound anew.
* `Keyed.ofList` : the pairs in order of their names; of equal names the last pair counts.
* `Keyed.Ascending` : each name is smaller than all that follow it.
-/

namespace TableMapping.Keyed

/-- Binds `key` to `value`, in place of an earlier binding. -/
def insert {α : Type} (key : String) (value : α) : List (String × α) → List (String × α)
  | [] => [(key, value)]
  | (k, v) :: rest =>
    if key < k then (key, value) :: (k, v) :: rest
    else if key = k then (key, value) :: rest
    else (k, v) :: insert key value rest

/-- The pairs in ascending order; a later pair replaces an earlier one of the same name. -/
def ofList {α : Type} (pairs : List (String × α)) : List (String × α) :=
  pairs.foldl (fun map pair => insert pair.1 pair.2 map) []

/-- Each name is smaller than all names after it. -/
def Ascending {α : Type} : List (String × α) → Prop
  | [] => True
  | (k, _) :: rest => (∀ pair ∈ rest, k < pair.1) ∧ Ascending rest

end TableMapping.Keyed
