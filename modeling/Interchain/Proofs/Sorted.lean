import Interchain.Sorted
import Mathlib.Data.List.Nodup
import Mathlib.Data.String.Basic

/-!
# What stands in sorted entries

Entries that are put in their places stay in ascending order of their keys, so each key is
there once, and entries are told by the values of their keys.  What has been put in last under
a key is its value.  So it does not matter in which order entries are put in, as long as those
of one key come in the same order.
-/

namespace Interchain.Sorted

variable {α : Type} {key k : String} {value : α} {entries sorted : List (String × α)}

/-- The value of the first entry with this key. -/
def value? (key : String) (entries : List (String × α)) : Option α :=
  (entries.find? fun e => e.1 == key).map Prod.snd

/-- The value of the last entry with this key. -/
def last? (key : String) (entries : List (String × α)) : Option α :=
  ((entries.filter fun e => e.1 == key).getLast?).map Prod.snd

/-- Every key is less than those after it. -/
def Ascending (sorted : List (String × α)) : Prop :=
  sorted.Pairwise fun e f => e.1 < f.1

/-! ## Entries in their places -/

theorem mem_put {e : String × α} (h : e ∈ put key value sorted) :
    e = (key, value) ∨ e ∈ sorted := by
  induction sorted with
  | nil => exact .inl (List.mem_singleton.mp h)
  | cons f rest ih =>
    rw [put] at h
    split_ifs at h
    · exact List.mem_cons.mp h
    · rcases List.mem_cons.mp h with rfl | h
      · exact .inl rfl
      · exact .inr (List.mem_cons_of_mem _ h)
    · rcases List.mem_cons.mp h with rfl | h
      · exact .inr List.mem_cons_self
      · exact (ih h).imp_right (List.mem_cons_of_mem _)

theorem Ascending.put (h : Ascending sorted) (key : String) (value : α) :
    Ascending (put key value sorted) := by
  induction sorted with
  | nil => exact List.pairwise_singleton _ _
  | cons f rest ih =>
    obtain ⟨hfirst, hrest⟩ := List.pairwise_cons.mp h
    rw [Sorted.put]
    split_ifs with hlt heq
    · refine List.pairwise_cons.mpr ⟨?_, h⟩
      intro e he
      rcases List.mem_cons.mp he with rfl | he
      · exact hlt
      · exact lt_trans hlt (hfirst e he)
    · exact List.pairwise_cons.mpr ⟨heq ▸ hfirst, hrest⟩
    · refine List.pairwise_cons.mpr ⟨?_, ih hrest⟩
      intro e he
      rcases mem_put he with rfl | he
      · exact lt_of_le_of_ne (not_lt.mp hlt) (Ne.symm heq)
      · exact hfirst e he

theorem Ascending.putAll (h : Ascending sorted) (entries : List (String × α)) :
    Ascending (putAll entries sorted) := by
  induction entries generalizing sorted with
  | nil => exact h
  | cons e rest ih => exact ih (h.put e.1 e.2)

theorem ascending_ofList (entries : List (String × α)) : Ascending (ofList entries) :=
  Ascending.putAll List.Pairwise.nil entries

theorem Ascending.nodup_keys (h : Ascending sorted) : (sorted.map Prod.fst).Nodup :=
  List.pairwise_map.mpr (h.imp fun hlt => ne_of_lt hlt)

/-! ## Other values -/

theorem put_map {β : Type} (f : α → β) (key : String) (value : α) (sorted : List (String × α)) :
    put key (f value) (sorted.map fun e => (e.1, f e.2)) =
      (put key value sorted).map fun e => (e.1, f e.2) := by
  induction sorted with
  | nil => rfl
  | cons e rest ih =>
    simp only [List.map_cons, put]
    split_ifs
    · rfl
    · rfl
    · rw [List.map_cons, ih]

theorem putAll_map {β : Type} (f : α → β) (entries sorted : List (String × α)) :
    putAll (entries.map fun e => (e.1, f e.2)) (sorted.map fun e => (e.1, f e.2)) =
      (putAll entries sorted).map fun e => (e.1, f e.2) := by
  induction entries generalizing sorted with
  | nil => rfl
  | cons e rest ih =>
    have hput : putAll (e :: rest) sorted = putAll rest (put e.1 e.2 sorted) := rfl
    rw [hput, ← ih, ← put_map]
    rfl

/-- Entries are put in their places by their keys, whatever their values are. -/
theorem ofList_map {β : Type} (f : α → β) (entries : List (String × α)) :
    ofList (entries.map fun e => (e.1, f e.2)) = (ofList entries).map fun e => (e.1, f e.2) :=
  putAll_map f entries []

/-! ## Values -/

theorem value?_cons (e : String × α) (rest : List (String × α)) :
    value? k (e :: rest) = if e.1 = k then some e.2 else value? k rest := by
  by_cases he : e.1 = k <;> simp [value?, he]

/-- Where keys differ, an entry is found by its key. -/
theorem value?_eq_some_iff (h : (entries.map Prod.fst).Nodup) :
    value? key entries = some value ↔ (key, value) ∈ entries := by
  induction entries with
  | nil => simp [value?]
  | cons e rest ih =>
    obtain ⟨hfirst, hrest⟩ := List.nodup_cons.mp h
    rw [value?_cons, List.mem_cons]
    split_ifs with he
    · have hnone : (key, value) ∉ rest := fun hmem => hfirst (he ▸ List.mem_map_of_mem hmem)
      subst he
      simp [hnone, Prod.ext_iff, eq_comm]
    · rw [ih hrest]
      constructor
      · exact .inr
      · rintro (rfl | hmem)
        · exact absurd rfl he
        · exact hmem

/-- Ascending entries with the same values are the same. -/
theorem Ascending.eq_of_value? {other : List (String × α)} (h : Ascending sorted)
    (h' : Ascending other) (hvalue : ∀ key, value? key sorted = value? key other) :
    sorted = other := by
  have hmem : ∀ e, e ∈ sorted ↔ e ∈ other := by
    rintro ⟨key, value⟩
    rw [← value?_eq_some_iff h.nodup_keys, ← value?_eq_some_iff h'.nodup_keys, hvalue]
  have hperm : sorted.Perm other :=
    (List.perm_ext_iff_of_nodup (List.Nodup.of_map _ h.nodup_keys)
      (List.Nodup.of_map _ h'.nodup_keys)).mpr hmem
  exact hperm.eq_of_pairwise (fun _ _ _ _ hab hba => absurd hab (lt_asymm hba)) h h'

theorem value?_put : value? k (put key value sorted) =
    if key = k then some value else value? k sorted := by
  induction sorted with
  | nil => rw [put, value?_cons]
  | cons e rest ih =>
    rw [put]
    by_cases hk : key = k
    · rw [if_pos hk] at ih ⊢
      split_ifs with hlt heq
      · rw [value?_cons, if_pos hk]
      · rw [value?_cons, if_pos hk]
      · rw [value?_cons, if_neg fun he => heq (hk.trans he.symm), ih]
    · rw [if_neg hk] at ih ⊢
      split_ifs with hlt heq
      · rw [value?_cons, if_neg hk]
      · rw [value?_cons, if_neg hk, value?_cons, if_neg (heq ▸ hk)]
      · rw [value?_cons, ih, value?_cons]

/-- Of the entries whose keys pass a test, the one with the least key comes first. -/
theorem Ascending.find?_eq_some_iff (h : Ascending sorted) (p : String → Bool) (key : String)
    (value : α) :
    sorted.find? (fun e => p e.1) = some (key, value) ↔
      (key, value) ∈ sorted ∧ p key ∧ ∀ e ∈ sorted, p e.1 → ¬ e.1 < key := by
  induction sorted with
  | nil => simp
  | cons f rest ih =>
    obtain ⟨hfirst, hrest⟩ := List.pairwise_cons.mp h
    cases hf : p f.1 with
    | true =>
      rw [List.find?_cons_of_pos (by exact hf), Option.some_inj]
      constructor
      · rintro rfl
        refine ⟨List.mem_cons_self, hf, ?_⟩
        intro e he _
        rcases List.mem_cons.mp he with rfl | he
        · exact lt_irrefl _
        · exact lt_asymm (hfirst e he)
      · rintro ⟨hmem, -, hleast⟩
        rcases List.mem_cons.mp hmem with heq | hmem
        · exact heq.symm
        · exact absurd (hfirst _ hmem) (hleast f List.mem_cons_self hf)
    | false =>
      rw [List.find?_cons_of_neg (by simp [hf]), ih hrest]
      constructor
      · rintro ⟨hmem, hkey, hleast⟩
        refine ⟨List.mem_cons_of_mem _ hmem, hkey, ?_⟩
        intro e he hpass
        rcases List.mem_cons.mp he with rfl | he
        · exact absurd hpass (by simp [hf])
        · exact hleast e he hpass
      · rintro ⟨hmem, hkey, hleast⟩
        rcases List.mem_cons.mp hmem with rfl | hmem
        · exact absurd hkey (by simp [hf])
        · exact ⟨hmem, hkey, fun e he => hleast e (List.mem_cons_of_mem _ he)⟩

/-! ## The last entry of a key -/

theorem last?_append (xs ys : List (String × α)) :
    last? k (xs ++ ys) = (last? k ys).or (last? k xs) := by
  rw [last?, List.filter_append, List.getLast?_append, Option.map_or, last?, last?]

theorem last?_singleton (e : String × α) :
    last? k [e] = if e.1 = k then some e.2 else none := by
  by_cases he : e.1 = k <;> simp [last?, he]

theorem last?_cons (e : String × α) (rest : List (String × α)) :
    last? k (e :: rest) = (last? k rest).or (if e.1 = k then some e.2 else none) := by
  rw [← last?_singleton, ← last?_append, List.singleton_append]

theorem last?_eq_none_iff : last? k entries = none ↔ k ∉ entries.map Prod.fst := by
  rw [last?, Option.map_eq_none_iff, List.getLast?_eq_none_iff, List.filter_eq_nil_iff,
    List.mem_map]
  constructor
  · rintro h ⟨e, he, hk⟩
    exact h e he (beq_iff_eq.mpr hk)
  · intro h e he hk
    exact h ⟨e, he, beq_iff_eq.mp hk⟩

/-- What is put in last under a key is its value. -/
theorem value?_putAll (entries sorted : List (String × α)) :
    value? k (putAll entries sorted) = (last? k entries).or (value? k sorted) := by
  induction entries generalizing sorted with
  | nil => rfl
  | cons e rest ih =>
    have hput : putAll (e :: rest) sorted = putAll rest (put e.1 e.2 sorted) := rfl
    rw [hput, ih, value?_put, last?_cons, Option.or_assoc]
    split_ifs <;> rfl

theorem value?_ofList (entries : List (String × α)) :
    value? k (ofList entries) = last? k entries := by
  rw [ofList, value?_putAll]
  exact Option.or_none

theorem mem_ofList_iff : (key, value) ∈ ofList entries ↔ last? key entries = some value := by
  rw [← value?_eq_some_iff (ascending_ofList entries).nodup_keys, value?_ofList]

/-- Where keys differ, the last entry of a key is the only one. -/
theorem last?_of_nodup (h : (entries.map Prod.fst).Nodup) :
    last? k entries = value? k entries := by
  induction entries with
  | nil => rfl
  | cons e rest ih =>
    obtain ⟨hfirst, hrest⟩ := List.nodup_cons.mp h
    rw [last?_cons, value?_cons, ← ih hrest]
    split_ifs with he
    · rw [last?_eq_none_iff.mpr (he ▸ hfirst), Option.none_or]
    · rw [Option.or_none]

theorem last?_ofList : last? k (ofList entries) = last? k entries := by
  rw [last?_of_nodup (ascending_ofList entries).nodup_keys, value?_ofList]

/-- Sorting neither adds keys nor loses any. -/
theorem mem_keys_ofList : k ∈ (ofList entries).map Prod.fst ↔ k ∈ entries.map Prod.fst := by
  rw [← not_iff_not, ← last?_eq_none_iff, ← last?_eq_none_iff, last?_ofList]

theorem forall_keys_ofList (entries : List (String × α)) (p : String → Prop) :
    (∀ e ∈ ofList entries, p e.1) ↔ ∀ e ∈ entries, p e.1 := by
  have hkeys : ∀ es : List (String × α), (∀ e ∈ es, p e.1) ↔ ∀ k ∈ es.map Prod.fst, p k :=
    fun _ => List.forall_mem_map.symm
  simp only [hkeys, mem_keys_ofList]

/-- Entries are sorted alike if the last ones of each key are the same. -/
theorem ofList_congr {others : List (String × α)}
    (h : ∀ key, last? key entries = last? key others) : ofList entries = ofList others := by
  apply (ascending_ofList entries).eq_of_value? (ascending_ofList others)
  intro key
  rw [value?_ofList, value?_ofList, h]

/-! ## Entries in several lists -/

variable {layers layers' : List (List (String × α))}

/-- Sorting each list on its own does not change which entry of a key is the last. -/
theorem last?_flatten_sorted (layers : List (List (String × α))) :
    last? k (layers.map ofList).flatten = last? k layers.flatten := by
  induction layers with
  | nil => rfl
  | cons l rest ih =>
    rw [List.map_cons, List.flatten_cons, List.flatten_cons, last?_append, last?_append, ih,
      last?_ofList]

/-- Entries whose keys differ may come in any order. -/
theorem last?_of_perm {xs ys : List (String × α)} (h : xs.Perm ys)
    (hkeys : (xs.map Prod.fst).Nodup) : last? k xs = last? k ys := by
  have hkeys' : (ys.map Prod.fst).Nodup := (h.map Prod.fst).nodup_iff.mp hkeys
  rw [last?_of_nodup hkeys, last?_of_nodup hkeys']
  apply Option.ext
  intro value
  rw [value?_eq_some_iff hkeys, value?_eq_some_iff hkeys', h.mem_iff]

/-- No two lists have a key in common. -/
def Apart (layers : List (List (String × α))) : Prop :=
  layers.Pairwise fun l m => ∀ e ∈ l, ∀ f ∈ m, e.1 ≠ f.1

/-- Of lists without common keys one has the last entry of a key. -/
theorem last?_flatten_eq_some_iff (h : Apart layers) :
    last? k layers.flatten = some value ↔ ∃ l ∈ layers, last? k l = some value := by
  induction layers with
  | nil => simp [last?]
  | cons l rest ih =>
    obtain ⟨hfirst, hrest⟩ := List.pairwise_cons.mp h
    rw [List.flatten_cons, last?_append, Option.or_eq_some_iff, ih hrest, List.exists_mem_cons_iff]
    constructor
    · rintro (hmem | ⟨-, hlast⟩)
      · exact .inr hmem
      · exact .inl hlast
    · rintro (hlast | hmem)
      · -- A key of the first list is in none of the others.
        refine .inr ⟨last?_eq_none_iff.mpr ?_, hlast⟩
        intro hk
        obtain ⟨f, hf, rfl⟩ := List.mem_map.mp hk
        obtain ⟨m, hm, hfm⟩ := List.mem_flatten.mp hf
        have hnone : last? f.1 l = none := by
          rw [last?_eq_none_iff]
          intro hkey
          obtain ⟨e, he, heq⟩ := List.mem_map.mp hkey
          exact hfirst m hm e he f hfm heq
        rw [hnone] at hlast
        cases hlast
      · exact .inl hmem

/-- Lists without common keys may come in any order. -/
theorem last?_flatten_of_perm (h : layers.Perm layers') (hkeys : Apart layers) :
    last? k layers.flatten = last? k layers'.flatten := by
  have hkeys' : Apart layers' := by
    refine (h.pairwise_iff ?_).mp hkeys
    exact fun hlm e he f hf => (hlm f hf e he).symm
  apply Option.ext
  intro value
  rw [last?_flatten_eq_some_iff hkeys, last?_flatten_eq_some_iff hkeys']
  simp only [h.mem_iff]

end Interchain.Sorted
