/-!
# Entries sorted by key

Maps whose keys are texts, as entries in ascending order of their keys.  Texts
are ordered by code point, which is also the order of their bytes.
-/

namespace Interchain.Sorted

variable {α : Type}

/-- Put an entry in its place, instead of one with the same key. -/
def put (key : String) (value : α) : List (String × α) → List (String × α)
  | [] => [(key, value)]
  | (k, v) :: rest =>
    if key < k then (key, value) :: (k, v) :: rest
    else if key = k then (key, value) :: rest
    else (k, v) :: put key value rest

/-- Put several entries in their places; of equal keys the last one stands. -/
def putAll (entries sorted : List (String × α)) : List (String × α) :=
  entries.foldl (fun sorted e => put e.1 e.2 sorted) sorted

/-- Entries in order of their keys. -/
def ofList (entries : List (String × α)) : List (String × α) :=
  putAll entries []

end Interchain.Sorted
