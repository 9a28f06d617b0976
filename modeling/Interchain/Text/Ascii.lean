/-!
# Letter case in ASCII

Names of chains are compared without regard to the case of the letters `A` to
`Z`.  Characters outside ASCII have no other case here.
-/

namespace Interchain.Ascii

/-- The text with `A` to `Z` lowered and every other character kept. -/
def lower (s : String) : String :=
  String.ofList (s.toList.map Char.toLower)

/-- Equality up to the case of ASCII letters. -/
def sameText (s t : String) : Bool :=
  lower s == lower t

@[simp] theorem toList_lower (s : String) : (lower s).toList = s.toList.map Char.toLower := by
  simp [lower]

theorem sameText_iff {s t : String} : sameText s t = true ↔ lower s = lower t := by
  simp [sameText]

@[simp] theorem sameText_refl (s : String) : sameText s s = true := by
  simp [sameText]

theorem sameText_comm (s t : String) : sameText s t = sameText t s :=
  Bool.beq_comm

end Interchain.Ascii
