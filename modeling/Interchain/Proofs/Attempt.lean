/-!
# Steps that may be refused

When a computation in `Except` succeeds, every step of it has; when it fails, it has nothing to
go on from.
-/

namespace Interchain.Attempt

variable {ε α β γ : Type}

@[simp] theorem ok_bind (a : α) (f : α → Except ε β) : (Except.ok a >>= f) = f a := rfl

@[simp] theorem map_ok (f : α → β) (a : α) : f <$> (Except.ok a : Except ε α) = .ok (f a) := rfl

/-- A sequence of two steps succeeds when both do. -/
theorem bind_eq_ok {first : Except ε α} {next : α → Except ε β} {b : β} :
    (first >>= next) = .ok b ↔ ∃ a, first = .ok a ∧ next a = .ok b := by
  cases first with
  | error e => simp [bind, Except.bind]
  | ok a => simp [bind, Except.bind]

/-- A sequence whose first step only checks. -/
theorem check_eq_ok {x : Except ε Unit} {f : Unit → Except ε β} {b : β} :
    (x >>= f) = .ok b ↔ x = .ok () ∧ f () = .ok b := by
  rw [bind_eq_ok]
  constructor
  · rintro ⟨_, hx, hf⟩
    exact ⟨hx, hf⟩
  · rintro ⟨hx, hf⟩
    exact ⟨_, hx, hf⟩

/-- A sequence fails if its second step fails whenever it is reached. -/
theorem exists_bind_eq_error {first : Except ε α} {next : α → Except ε β}
    (h : ∀ a, first = .ok a → ∃ e, next a = .error e) : ∃ e, (first >>= next) = .error e := by
  cases first with
  | error e => exact ⟨e, rfl⟩
  | ok a => exact h a rfl

/-- A sequence fails where one of its steps does. -/
theorem exists_bind_eq_error_iff {first : Except ε α} {next : α → Except ε β} :
    (∃ e, (first >>= next) = .error e) ↔
      (∃ e, first = .error e) ∨ ∃ a, first = .ok a ∧ ∃ e, next a = .error e := by
  cases first with
  | error e => exact iff_of_true ⟨e, rfl⟩ (.inl ⟨e, rfl⟩)
  | ok a => simp

theorem map_eq_ok {x : Except ε α} {f : α → β} {b : β} :
    x.map f = .ok b ↔ ∃ a, x = .ok a ∧ f a = b := by
  cases x with
  | error e => simp [Except.map]
  | ok a => simp [Except.map]

theorem mapError_eq_ok {ε' : Type} {x : Except ε α} {f : ε → ε'} {a : α} :
    x.mapError f = .ok a ↔ x = .ok a := by
  cases x with
  | error e =>
    constructor
    · rintro ⟨⟩
    · rintro ⟨⟩
  | ok b =>
    constructor
    · rintro ⟨⟩
      rfl
    · rintro ⟨⟩
      rfl

theorem mapError_eq_error {ε' : Type} {x : Except ε α} {f : ε → ε'} {e' : ε'} :
    x.mapError f = .error e' ↔ ∃ e, x = .error e ∧ f e = e' := by
  cases x with
  | error e =>
    constructor
    · rintro ⟨⟩
      exact ⟨e, rfl, rfl⟩
    · rintro ⟨_, ⟨⟩, rfl⟩
      rfl
  | ok a =>
    constructor
    · rintro ⟨⟩
    · rintro ⟨_, ⟨⟩, -⟩

theorem exists_mapError_eq_error {ε' : Type} {x : Except ε α} {f : ε → ε'} :
    (∃ e', x.mapError f = .error e') ↔ ∃ e, x = .error e := by
  constructor
  · rintro ⟨e', h⟩
    obtain ⟨e, hx, -⟩ := mapError_eq_error.mp h
    exact ⟨e, hx⟩
  · rintro ⟨e, rfl⟩
    exact ⟨f e, rfl⟩

/-- A sequence fails where one of its steps does, also if the first makes its error into
another. -/
theorem exists_mapError_bind_eq_error_iff {ε' : Type} {x : Except ε α} {f : ε → ε'}
    {next : α → Except ε' β} : (∃ e', (x.mapError f >>= next) = .error e') ↔
      (∃ e, x = .error e) ∨ ∃ a, x = .ok a ∧ ∃ e', next a = .error e' := by
  rw [exists_bind_eq_error_iff, exists_mapError_eq_error]
  simp only [mapError_eq_ok]

theorem map_eq_error {x : Except ε α} {f : α → β} {e : ε} :
    x.map f = .error e ↔ x = .error e := by
  cases x <;> simp [Except.map]

/-- What is done to the result of a sequence is done to that of its last step. -/
theorem map_bind (x : Except ε α) (next : α → Except ε β) (f : β → γ) :
    (x >>= next).map f = x >>= fun a => (next a).map f := by
  cases x <;> rfl

/-- Two sequences are the same if they go on alike from what the first step gives. -/
theorem bind_congr_ok {x : Except ε α} {f g : α → Except ε β}
    (h : ∀ a, x = .ok a → f a = g a) : (x >>= f) = (x >>= g) := by
  cases x with
  | error e => rfl
  | ok a => exact h a rfl

/-- If both go on alike from what the first step gives, so do the two sequences. -/
theorem bind_eq_map_bind {x : Except ε α} {f : α → Except ε β} {g : α → Except ε γ} {φ : β → γ}
    (h : ∀ a, x = .ok a → g a = (f a).map φ) : (x >>= g) = (x >>= f).map φ := by
  rw [map_bind]
  exact bind_congr_ok h

theorem bind_of_map (x : Except ε α) (f : α → β) (next : β → Except ε γ) :
    x.map f >>= next = x >>= fun a => next (f a) := by
  cases x <;> rfl

/-- Steps for the items of a list succeed if each of them does. -/
theorem mapM_map_eq_ok {f : β → Except ε γ} {g : α → β} {h : α → γ} {xs : List α}
    (hok : ∀ a ∈ xs, f (g a) = .ok (h a)) : (xs.map g).mapM f = .ok (xs.map h) := by
  induction xs with
  | nil => rfl
  | cons a rest ih =>
    rw [List.map_cons, List.mapM_cons, hok a List.mem_cons_self,
      ih fun b hb => hok b (List.mem_cons_of_mem _ hb)]
    rfl

/-- What the steps for other items give, if they go with those for the items. -/
theorem mapM_map_of_mapM {δ : Type} {f : α → Except ε β} {g : γ → Except ε δ} {φ : α → γ}
    {ψ : β → δ} (h : ∀ a b, f a = .ok b → g (φ a) = .ok (ψ b)) {xs : List α} {ys : List β}
    (hxs : xs.mapM f = .ok ys) : (xs.map φ).mapM g = .ok (ys.map ψ) := by
  induction xs generalizing ys with
  | nil =>
    cases hxs
    rfl
  | cons a rest ih =>
    rw [List.mapM_cons] at hxs
    obtain ⟨b, hb, hxs⟩ := bind_eq_ok.mp hxs
    obtain ⟨bs, hbs, ⟨⟩⟩ := bind_eq_ok.mp hxs
    rw [List.map_cons, List.mapM_cons, h a b hb, ih hbs]
    rfl

@[simp] theorem pure_eq_ok {a b : α} : (pure a : Except ε α) = .ok b ↔ a = b :=
  ⟨fun h => Except.ok.inj h, fun h => congrArg _ h⟩

end Interchain.Attempt
