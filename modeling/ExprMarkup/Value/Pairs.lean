import ExprMarkup.Value.Equality

namespace ExprMarkup.Value

variable {α : Type}

/-- Puts an item under a key: in the key's place if it has one, else at the end. -/
def putPair (key : Value) (item : α) : List (Value × α) → List (Value × α)
  | [] => [(key, item)]
  | (k, old) :: rest => if k.equal key then (k, item) :: rest else (k, old) :: putPair key item rest

/-- Leaves each key once, in the place where it first stands, with the item that stands with it last. -/
def foldPairs (pairs : List (Value × α)) : List (Value × α) :=
  pairs.foldl (fun folded entry => putPair entry.1 entry.2 folded) []

end ExprMarkup.Value
