import Interchain.Keyed
import Mathlib.Data.List.Basic
import Mathlib.Data.List.Forall2

/-!
# Changing and removing the first match

A list that has an element under a key splits at the first of them.  Changing or
removing it leaves both parts as they are, which is all that the theory of the
topology needs to know about either.
-/

namespace Interchain.Keyed

variable {α : Type} {p q : α → Bool} {f : α → α} {l : List α} {a : α}

/-- A list with a match splits at the first one. -/
theorem split_of_find? (h : l.find? p = some a) :
    ∃ before behind, l = before ++ a :: behind ∧ (∀ b ∈ before, p b = false) ∧
      update p f l = before ++ f a :: behind ∧ l.eraseP p = before ++ behind := by
  obtain ⟨ha, before, behind, rfl, hmiss⟩ := List.find?_eq_some_iff_append.mp h
  have hb : ∀ b ∈ before, p b = false := by
    intro b m
    simpa using hmiss b m
  clear hmiss
  refine ⟨before, behind, rfl, hb, ?_, ?_⟩
  · clear h
    induction before with
    | nil => simp [update, ha]
    | cons b rest ih =>
      have hrest : ∀ c ∈ rest, p c = false := by
        intro c m
        exact hb c (List.mem_cons_of_mem _ m)
      simp [update, hb b List.mem_cons_self, ih hrest]
  · rw [List.eraseP_append_right _ (by simpa using hb), List.eraseP_cons_of_pos ha]

/-- Without a match nothing is changed. -/
theorem update_of_find?_eq_none (h : l.find? p = none) : update p f l = l := by
  induction l with
  | nil => rfl
  | cons b rest ih =>
    rw [List.find?_eq_none] at h
    have hb : p b = false := by simpa using h b List.mem_cons_self
    rw [update_cons_of_neg hb, ih]
    rw [List.find?_eq_none]
    intro c m
    exact h c (List.mem_cons_of_mem _ m)

/-- The first match put in its own place changes nothing. -/
theorem update_const_of_find? (h : l.find? p = some a) : update p (fun _ => a) l = l := by
  obtain ⟨before, behind, rfl, -, hu, -⟩ := split_of_find? (f := fun _ => a) h
  exact hu

/-- A change of the first match may be told by what it makes of it. -/
theorem update_const (h : l.find? p = some a) : update p (fun _ => f a) l = update p f l := by
  induction l with
  | nil => rfl
  | cons b rest ih =>
    cases hb : p b with
    | true =>
      obtain rfl : b = a := by simpa [hb] using h
      simp [update, hb]
    | false => simp [update, hb, ih (by simpa [hb] using h)]

/-- What was put in place of the first match gives way to it again. -/
theorem update_back {b : α} (h : l.find? p = some a) (hb : p b = true) :
    update p (fun _ => a) (update p (fun _ => b) l) = l := by
  induction l with
  | nil => rfl
  | cons c rest ih =>
    cases hc : p c with
    | true =>
      obtain rfl : c = a := by simpa [hc] using h
      simp [update, hb, hc]
    | false => simp [update, hc, ih (by simpa [hc] using h)]

/-- The changed element is the first match, if it still is one. -/
theorem find?_update_self (hf : ∀ b, p b = true → p (f b) = true) :
    (update p f l).find? p = (l.find? p).map f := by
  induction l with
  | nil => rfl
  | cons b rest ih =>
    cases hb : p b with
    | true => simp [update, hb, hf b hb]
    | false => simp [update, hb, ih]

/-- What is found under another key is not changed. -/
theorem find?_update_other (hq : ∀ b, p b = true → q b = false ∧ q (f b) = false) :
    (update p f l).find? q = l.find? q := by
  induction l with
  | nil => rfl
  | cons b rest ih =>
    cases hb : p b with
    | true => simp [update, hb, hq b hb]
    | false => simp [update, hb, ih, List.find?_cons]

/-- What is found under another key is not removed. -/
theorem find?_eraseP_other (hq : ∀ b, p b = true → q b = false) :
    (l.eraseP p).find? q = l.find? q := by
  induction l with
  | nil => rfl
  | cons b rest ih =>
    cases hb : p b with
    | true => simp [hb, hq b hb]
    | false => simp [hb, ih, List.find?_cons]

theorem mem_of_mem_update {b : α} (hb : b ∈ update p f l) :
    b ∈ l ∨ ∃ a, l.find? p = some a ∧ b = f a := by
  cases h : l.find? p with
  | none => exact .inl (by rwa [update_of_find?_eq_none h] at hb)
  | some a =>
    obtain ⟨before, behind, rfl, -, hu, -⟩ := split_of_find? (f := f) h
    rw [hu] at hb
    rcases List.mem_append.mp hb with m | m
    · exact .inl (List.mem_append_left _ m)
    · rcases List.mem_cons.mp m with rfl | m
      · exact .inr ⟨a, rfl, rfl⟩
      · exact .inl (List.mem_append_right _ (List.mem_cons_of_mem _ m))

/-- Pairs stay related if the changed element is related to whatever it was
related to before. -/
theorem pairwise_update {R : α → α → Prop} (h : l.Pairwise R) (ha : l.find? p = some a)
    (hl : ∀ b, R a b → R (f a) b) (hr : ∀ b, R b a → R b (f a)) :
    (update p f l).Pairwise R := by
  obtain ⟨before, behind, rfl, -, hu, -⟩ := split_of_find? (f := f) ha
  rw [hu]
  rw [List.pairwise_append, List.pairwise_cons] at h ⊢
  obtain ⟨hbefore, ⟨hfirst, hbehind⟩, hacross⟩ := h
  refine ⟨hbefore, ⟨?_, hbehind⟩, ?_⟩
  · intro c m
    exact hl c (hfirst c m)
  · intro b hb c hc
    rcases List.mem_cons.mp hc with rfl | hc
    · exact hr b (hacross b hb a List.mem_cons_self)
    · exact hacross b hb c (List.mem_cons_of_mem _ hc)

/-- Where one element at most is a match, changing the first match changes every match. -/
theorem update_eq_map (h : l.Pairwise fun a b => ¬ (p a = true ∧ p b = true)) :
    update p f l = l.map fun a => if p a then f a else a := by
  induction l with
  | nil => rfl
  | cons b rest ih =>
    obtain ⟨hfirst, hrest⟩ := List.pairwise_cons.mp h
    cases hb : p b with
    | false => simp [update, hb, ih hrest]
    | true =>
      have hmiss : ∀ c ∈ rest, (if p c then f c else c) = c := by
        intro c hc
        exact if_neg fun hpc => hfirst c hc ⟨hb, hpc⟩
      simp [update, hb, List.map_congr_left hmiss]

/-- Where one element at most is a match, removing the first match removes every match. -/
theorem eraseP_eq_filter (h : l.Pairwise fun a b => ¬ (p a = true ∧ p b = true)) :
    l.eraseP p = l.filter fun a => !p a := by
  induction l with
  | nil => rfl
  | cons b rest ih =>
    obtain ⟨hfirst, hrest⟩ := List.pairwise_cons.mp h
    cases hb : p b with
    | false => simp [hb, ih hrest]
    | true =>
      have hkeep : rest.filter (fun c => !p c) = rest := by
        rw [List.filter_eq_self]
        intro c hc
        simpa using fun hpc => hfirst c hc ⟨hb, hpc⟩
      simp [hb, hkeep]

/-- A match behind others that are none is the first. -/
theorem find?_concat (h : l.find? p = none) (ha : p a = true) : (l ++ [a]).find? p = some a := by
  rw [List.find?_append, h, Option.none_or, List.find?_cons_of_pos ha]

theorem update_concat (h : l.find? p = none) (ha : p a = true) :
    update p f (l ++ [a]) = l ++ [f a] := by
  induction l with
  | nil => simp [update, ha]
  | cons b rest ih =>
    obtain ⟨hb, hrest⟩ : p b = false ∧ rest.find? p = none := by
      cases hb : p b <;> simp_all
    rw [List.cons_append, update_cons_of_neg hb, ih hrest, List.cons_append]

theorem eraseP_concat (h : l.find? p = none) (ha : p a = true) : (l ++ [a]).eraseP p = l := by
  rw [List.eraseP_append_right _ (List.find?_eq_none.mp h), List.eraseP_cons_of_pos ha,
    List.append_nil]

/-! ## Where the first match stands -/

/-- The element at position `k` satisfies `P` and none before it does. -/
structure FirstAt (P : α → Prop) (l : List α) (k : Nat) (a : α) : Prop where
  found : l[k]? = some a
  holds : P a
  earliest : ∀ i < k, ∀ b, l[i]? = some b → ¬ P b

theorem find?_eq_some_iff_firstAt :
    l.find? p = some a ↔ ∃ k, FirstAt (fun b => p b = true) l k a := by
  rw [List.find?_eq_some_iff_getElem]
  constructor
  · rintro ⟨ha, k, hk, hget, hmiss⟩
    refine ⟨k, List.getElem?_eq_some_iff.mpr ⟨hk, hget⟩, ha, ?_⟩
    intro i hi b hb
    obtain ⟨hlt, rfl⟩ := List.getElem?_eq_some_iff.mp hb
    simpa using hmiss i hi
  · rintro ⟨k, hfound, ha, hmiss⟩
    obtain ⟨hk, hget⟩ := List.getElem?_eq_some_iff.mp hfound
    refine ⟨ha, k, hk, hget, ?_⟩
    intro i hi
    simpa using hmiss i hi _ (List.getElem?_eq_getElem (Nat.lt_trans hi hk))

theorem FirstAt.unique {P : α → Prop} {k i : Nat} {b : α} (h : FirstAt P l k a)
    (h' : FirstAt P l i b) : k = i ∧ a = b := by
  rcases Nat.lt_trichotomy k i with hlt | rfl | hlt
  · exact absurd h.holds (h'.earliest k hlt a h.found)
  · exact ⟨rfl, Option.some.inj (h.found.symm.trans h'.found)⟩
  · exact absurd h'.holds (h.earliest i hlt b h'.found)

/-- The first match is removed from where it stands. -/
theorem FirstAt.eraseP_eq {k : Nat} (h : FirstAt (fun b => p b = true) l k a) :
    l.eraseP p = l.eraseIdx k := by
  induction l generalizing k with
  | nil => cases h.found
  | cons b rest ih =>
    cases k with
    | zero =>
      obtain rfl : b = a := Option.some.inj h.found
      rw [List.eraseP_cons_of_pos h.holds, List.eraseIdx_cons_zero]
    | succ k =>
      have hrest : FirstAt (fun b => p b = true) rest k a :=
        ⟨h.found, h.holds, fun i hi => h.earliest (i + 1) (Nat.succ_lt_succ hi)⟩
      rw [List.eraseP_cons_of_neg (h.earliest 0 k.succ_pos b rfl), List.eraseIdx_cons_succ,
        ih hrest]

section Forall₂

variable {β : Type} {R : α → β → Prop} {l' : List β} {P : α → Prop} {Q : β → Prop}

theorem exists_getElem?_of_forall₂ (h : List.Forall₂ R l l') {k : Nat} (ha : l[k]? = some a) :
    ∃ b, l'[k]? = some b ∧ R a b := by
  obtain ⟨hk, rfl⟩ := List.getElem?_eq_some_iff.mp ha
  have hk' : k < l'.length := h.length_eq ▸ hk
  exact ⟨l'[k], List.getElem?_eq_getElem hk', h.get hk hk'⟩

/-- In lists that agree element by element the first matches stand at the same position. -/
theorem FirstAt.forall₂ (h : List.Forall₂ R l l') (hPQ : ∀ a b, R a b → (P a ↔ Q b)) {k : Nat}
    (ha : FirstAt P l k a) : ∃ b, FirstAt Q l' k b ∧ R a b := by
  obtain ⟨b, hb, hab⟩ := exists_getElem?_of_forall₂ h ha.found
  refine ⟨b, ⟨hb, (hPQ a b hab).mp ha.holds, ?_⟩, hab⟩
  intro i hi d hd hq
  obtain ⟨c, hc, hcd⟩ := exists_getElem?_of_forall₂ h.flip hd
  exact ha.earliest i hi c hc ((hPQ c d hcd).mpr hq)

theorem forall₂_eraseIdx (h : List.Forall₂ R l l') (k : Nat) :
    List.Forall₂ R (l.eraseIdx k) (l'.eraseIdx k) := by
  rw [List.eraseIdx_eq_take_drop_succ, List.eraseIdx_eq_take_drop_succ]
  exact List.rel_append (List.forall₂_take k h) (List.forall₂_drop (k + 1) h)

end Forall₂

/-! ## Filters -/

/-- A filter that keeps every match keeps the first. -/
theorem find?_filter_of_imp (h : ∀ a, p a = true → q a = true) :
    (l.filter q).find? p = l.find? p := by
  rw [List.find?_filter]
  congr 1
  funext a
  cases hp : p a with
  | false => simp
  | true => simp [h a hp]

/-- A filter that keeps every match, changed or not, may come before the change; one that
drops every match does not see it. -/
theorem filter_update {side : Bool} (h : ∀ a, p a = true → q a = side ∧ q (f a) = side) :
    (update p f l).filter q = bif side then update p f (l.filter q) else l.filter q := by
  induction l with
  | nil => cases side <;> rfl
  | cons b rest ih =>
    cases hb : p b with
    | true => cases side <;> simp [update, hb, h b hb]
    | false => cases side <;> cases hq : q b <;> simp_all [update]

/-- A filter that keeps every match may come before the removal of the first; one that drops
every match does not see it. -/
theorem filter_eraseP {side : Bool} (h : ∀ a, p a = true → q a = side) :
    (l.eraseP p).filter q = bif side then (l.filter q).eraseP p else l.filter q := by
  induction l with
  | nil => cases side <;> rfl
  | cons b rest ih =>
    cases hb : p b with
    | true => cases side <;> simp [hb, h b hb]
    | false => cases side <;> cases hq : q b <;> simp_all

/-- Where one element at most is a match, the matches are what is found. -/
theorem filter_eq_toList_find? (h : l.Pairwise fun a b => ¬ (p a = true ∧ p b = true)) :
    l.filter p = (l.find? p).toList := by
  induction l with
  | nil => rfl
  | cons b rest ih =>
    obtain ⟨hfirst, hrest⟩ := List.pairwise_cons.mp h
    cases hb : p b with
    | false => simp [hb, ih hrest]
    | true =>
      have hmiss : rest.filter p = [] := by
        rw [List.filter_eq_nil_iff]
        exact fun c hc hpc => hfirst c hc ⟨hb, hpc⟩
      simp [hb, hmiss]

/-- Where one element at most is a match, what is found is the only match. -/
theorem find?_eq_some_iff_filter (h : l.Pairwise fun a b => ¬ (p a = true ∧ p b = true)) :
    l.find? p = some a ↔ l.filter p = [a] := by
  rw [filter_eq_toList_find? h, Option.toList_eq_singleton_iff]

/-- Of lists that are kept whole or dropped whole, those that are kept. -/
theorem filter_flatMap_uniform {β : Type} {g : α → List β} {r : β → Bool}
    (h : ∀ a ∈ l, ∀ b ∈ g a, r b = p a) : (l.flatMap g).filter r = (l.filter p).flatMap g := by
  induction l with
  | nil => rfl
  | cons a rest ih =>
    have hrest := ih fun c hc => h c (List.mem_cons_of_mem _ hc)
    have ha : ∀ b ∈ g a, r b = p a := h a List.mem_cons_self
    rw [List.flatMap_cons, List.filter_append, hrest]
    cases hp : p a with
    | true =>
      rw [List.filter_cons_of_pos hp, List.flatMap_cons, List.filter_eq_self.mpr]
      exact fun b hb => (ha b hb).trans hp
    | false =>
      rw [List.filter_cons_of_neg (by simp [hp]), List.filter_eq_nil_iff.mpr, List.nil_append]
      exact fun b hb => by simp [ha b hb, hp]

end Interchain.Keyed
