import Interchain.Text.Blank
import Mathlib.Data.List.TakeWhile

/-!
# Blank texts

Trimming a text leaves nothing exactly if the text has no words, which is to say that all of it
is white space.
-/

namespace Interchain.Blank

theorem trimChars_eq_nil_iff {cs : List Char} :
    trimChars cs = [] ↔ ∀ c ∈ cs, isBlank c = true := by
  rw [trimChars, List.reverse_eq_nil_iff, List.dropWhile_eq_nil_iff]
  simp only [List.mem_reverse]
  constructor
  · intro h c hc
    rw [← List.takeWhile_append_dropWhile (p := isBlank) (l := cs)] at hc
    rcases List.mem_append.mp hc with hfront | hrest
    · exact List.mem_takeWhile_imp hfront
    · exact h c hrest
  · intro h c hc
    exact h c ((List.dropWhile_suffix _).subset hc)

/-- Words are found wherever something is not white space. -/
theorem wordsFrom_eq_nil_iff {run cs : List Char} :
    wordsFrom run cs = [] ↔ run = [] ∧ ∀ c ∈ cs, isBlank c = true := by
  induction cs generalizing run with
  | nil => cases run <;> simp [wordsFrom]
  | cons c rest ih =>
    by_cases hc : isBlank c = true
    · cases run <;> simp [wordsFrom, hc, ih]
    · simp [wordsFrom, hc, ih]

theorem isEmpty_trim_iff {s : String} : (trim s).isEmpty = true ↔ words s = [] := by
  rw [words, List.map_eq_nil_iff, wordsFrom_eq_nil_iff, and_iff_right rfl,
    ← trimChars_eq_nil_iff, trim, String.isEmpty_iff]
  simp

end Interchain.Blank
