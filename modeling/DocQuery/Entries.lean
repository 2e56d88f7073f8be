/-
  Entries in ascending order of their keys.
  Such a list holds every key once, so two lists that map the same keys to the same values are
  equal.
-/

namespace DocQuery.Entries

variable {α : Type}

/-- Puts an entry into its place; an entry of the same key is replaced. -/
def insert (key : String) (value : α) : List (String × α) → List (String × α)
  | [] => [(key, value)]
  | (k, v) :: rest =>
    if key < k then (key, value) :: (k, v) :: rest
    else if key = k then (key, value) :: rest
    else (k, v) :: insert key value rest

/-- The entries of a list in order; the last of several entries with one key counts. -/
def ofList (entries : List (String × α)) : List (String × α) :=
  entries.foldl (fun acc e => insert e.1 e.2 acc) []

end DocQuery.Entries
