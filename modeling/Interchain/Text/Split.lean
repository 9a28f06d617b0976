/-!
# Texts in pieces
-/

namespace Interchain.Split

/-- Split a text at every occurrence of a character. -/
def pieces (separator : Char) (cs : List Char) : List (List Char) :=
  cs.foldr
    (fun c pieces =>
      if c = separator then [] :: pieces
      else match pieces with
        | [] => [[c]]
        | piece :: rest => (c :: piece) :: rest)
    [[]]

@[simp] theorem pieces_cons_self (separator : Char) (cs : List Char) :
    pieces separator (separator :: cs) = [] :: pieces separator cs := by
  simp [pieces]

/-- There is always at least one piece. -/
theorem pieces_ne_nil (separator : Char) (cs : List Char) : pieces separator cs ≠ [] := by
  induction cs with
  | nil => simp [pieces]
  | cons c cs ih =>
    simp only [pieces, List.foldr_cons] at ih ⊢
    split
    · simp
    · split <;> simp

end Interchain.Split
