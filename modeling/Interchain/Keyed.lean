/-!
# The first match in a list

Registered things stand in lists in order of registration, and a name finds the
first that answers to it.
-/

namespace Interchain.Keyed

variable {α : Type}

/-- Change the first element that satisfies `p`. -/
def update (p : α → Bool) (f : α → α) : List α → List α
  | [] => []
  | a :: rest => if p a then f a :: rest else a :: update p f rest

theorem update_cons_of_neg {p : α → Bool} {a : α} (h : p a = false) (f : α → α) (rest : List α) :
    update p f (a :: rest) = a :: update p f rest := by
  simp [update, h]

end Interchain.Keyed
