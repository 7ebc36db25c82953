/-!
# Tables

A table is a list of keys with their values, in the order in which the keys
came in.
-/

namespace ShaderBindings.Table

variable {κ α : Type} [DecidableEq κ]

/-- The table with a value for a key: in place of the old one if the key is
known, and at the end otherwise. -/
def insert (key : κ) (value : α) : List (κ × α) → List (κ × α)
  | [] => [(key, value)]
  | (k, old) :: rest =>
    if k = key then (key, value) :: rest else (k, old) :: insert key value rest

end ShaderBindings.Table
