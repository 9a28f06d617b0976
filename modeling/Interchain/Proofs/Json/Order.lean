import Interchain.Json.Basic
import Mathlib.Data.List.Nodup

/-!
# The order of members

A document comes to its reader as it was written or as an opaque value is kept, with
the members of its objects sorted.  Sorting members whose keys differ only changes
their order.
-/

namespace Interchain

namespace Sorted

variable {α : Type}

theorem put_perm {key : String} {l : List (String × α)} (h : key ∉ l.map Prod.fst) (value : α) :
    (put key value l).Perm ((key, value) :: l) := by
  induction l with
  | nil => exact .refl _
  | cons e rest ih =>
    obtain ⟨k, v⟩ := e
    simp only [List.map_cons, List.mem_cons, not_or] at h
    simp only [put, if_neg h.1]
    split
    · exact .refl _
    · exact ((ih h.2).cons _).trans (.swap _ _ _)

theorem putAll_perm (entries sorted : List (String × α))
    (h : ((entries ++ sorted).map Prod.fst).Nodup) :
    (putAll entries sorted).Perm (entries ++ sorted) := by
  induction entries generalizing sorted with
  | nil => exact .refl _
  | cons e rest ih =>
    have hnew : e.1 ∉ sorted.map Prod.fst := by
      simp only [List.cons_append, List.map_cons, List.nodup_cons, List.map_append,
        List.mem_append, not_or] at h
      exact h.1.2
    have hput := put_perm hnew e.2
    have hrest : (rest ++ put e.1 e.2 sorted).Perm (e :: (rest ++ sorted)) :=
      (hput.append_left rest).trans List.perm_middle
    have hnodup : ((rest ++ put e.1 e.2 sorted).map Prod.fst).Nodup :=
      (hrest.map Prod.fst).nodup_iff.mpr h
    exact (ih _ hnodup).trans hrest

/-- Sorting entries whose keys differ changes nothing but their order. -/
theorem ofList_perm {entries : List (String × α)} (h : (entries.map Prod.fst).Nodup) :
    (ofList entries).Perm entries := by
  have hall := putAll_perm entries [] (by rwa [List.append_nil])
  rwa [List.append_nil] at hall

end Sorted

namespace Json

/-- How the members of objects stand. -/
inductive Order where
  /-- As they were written. -/
  | written
  /-- As an opaque value keeps them. -/
  | sorted
deriving DecidableEq, Repr

/-- A document with its members in the given order. -/
def arranged : Order → Json → Json
  | .written, j => j
  | .sorted, j => j.canonical

variable {o : Order}

@[simp] theorem arranged_null : Json.null.arranged o = .null := by
  cases o <;> rfl

@[simp] theorem arranged_string (s : String) : (Json.string s).arranged o = .string s := by
  cases o <;> rfl

theorem arranged_number {n : Number} (h : n.narrow = n) :
    (Json.number n).arranged o = .number n := by
  cases o
  · rfl
  · rw [arranged, canonical, h]

theorem canonicalItems_eq_map (items : List Json) : canonicalItems items = items.map canonical := by
  induction items with
  | nil => rfl
  | cons v rest ih => rw [canonicalItems, ih, List.map_cons]

theorem canonicalMembers_eq_map (members : List (String × Json)) :
    canonicalMembers members = members.map fun m => (m.1, m.2.canonical) := by
  induction members with
  | nil => rfl
  | cons m rest ih => rw [canonicalMembers, ih, List.map_cons]

@[simp] theorem arranged_array (items : List Json) :
    (Json.array items).arranged o = .array (items.map (arranged o)) := by
  cases o
  · exact congrArg array (List.map_id' items).symm
  · rw [arranged, canonical, canonicalItems_eq_map]
    rfl

/-- An object keeps its members, if their keys differ. -/
theorem arranged_object {members : List (String × Json)} (h : (members.map Prod.fst).Nodup) :
    ∃ ms, (Json.object members).arranged o = .object ms ∧
      ms.Perm (members.map fun m => (m.1, m.2.arranged o)) := by
  cases o
  · exact ⟨members, rfl, .of_eq (List.map_id' members).symm⟩
  · refine ⟨_, rfl, ?_⟩
    rw [canonicalMembers_eq_map]
    refine Sorted.ofList_perm ?_
    rwa [List.map_map]

@[simp] theorem arranged_member (key : String) (v : Json) :
    (Json.object [(key, v)]).arranged o = .object [(key, v.arranged o)] := by
  cases o <;> rfl

theorem arranged_ne_null {j : Json} (h : j ≠ .null) : j.arranged o ≠ .null := by
  cases o
  · exact h
  · intro heq
    cases j with
    | null => exact h rfl
    | _ => cases heq

end Json

end Interchain
