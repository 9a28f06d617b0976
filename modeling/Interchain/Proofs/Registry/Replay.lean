import Interchain.Registry.Client
import Interchain.Registry.Manifest
import Mathlib.Data.List.Basic

/-!
# A manifest as a list of registrations

A manifest is applied group by group: chains, assets, bridges with their pairs, dexes with
their pools.  Whatever the registry is, this makes the registrations of one list in order
(`Manifest.calls`) until one is rejected.
-/

namespace Interchain.Manifest

section Loops

variable {m : Type → Type} [Monad m] [LawfulMonad m] {α : Type}
variable (register : Registration → m (Except RegistryError Unit))

/-- Make a registration and count it. -/
def count (n : Nat) (r : Registration) : ExceptT RegistryError m Nat := do
  ExceptT.mk (register r)
  return n + 1

theorem foldlM_count_cons (n : Nat) (r : Registration) (rest : List Registration) :
    (r :: rest).foldlM (count register) n =
      (do ExceptT.mk (register r); rest.foldlM (count register) (n + 1)) := by
  simp only [List.foldlM_cons, count, bind_assoc, pure_bind]

/-- A loop that makes one registration at a time. -/
theorem forIn_single (f : α → Registration) (l : List α) (n : Nat) :
    (forIn l n fun a n => do
        ExceptT.mk (register (f a))
        pure (.yield (n + 1)) : ExceptT RegistryError m Nat) =
      (l.map f).foldlM (count register) n := by
  induction l generalizing n with
  | nil => rfl
  | cons a l ih =>
    rw [List.map_cons, foldlM_count_cons, List.forIn_cons, bind_assoc]
    simp only [pure_bind, ih]

/-- A loop that makes one registration and then those that belong to it. -/
theorem forIn_group (first : α → Registration) (others : α → List Registration) (l : List α)
    (n : Nat) :
    (forIn l n fun a n => do
        ExceptT.mk (register (first a))
        let n ← (others a).foldlM (count register) (n + 1)
        pure (.yield n) : ExceptT RegistryError m Nat) =
      (l.flatMap fun a => first a :: others a).foldlM (count register) n := by
  induction l generalizing n with
  | nil => rfl
  | cons a l ih =>
    rw [List.flatMap_cons, List.foldlM_append, foldlM_count_cons, List.forIn_cons, bind_assoc,
      bind_assoc]
    simp only [bind_assoc, pure_bind, ih]

theorem makeAll_eq_foldlM (n : Nat) (rs : List Registration) :
    makeAll register n rs = (rs.foldlM (count register) n).run := by
  induction rs generalizing n with
  | nil => rfl
  | cons r rest ih =>
    rw [foldlM_count_cons, ExceptT.run_bind, makeAll]
    refine bind_congr fun outcome => ?_
    cases outcome with
    | ok _ => exact ih (n + 1)
    | error e => rfl

/-- The groups come to one list. -/
theorem apply_eq_makeAll (manifest : Manifest) :
    manifest.apply register = makeAll register 0 manifest.calls := by
  simp only [apply, forIn_single, forIn_group, makeAll_eq_foldlM, calls, List.foldlM_append,
    bind_assoc, bind_pure]
  rfl

end Loops

/-! ## Any registry -/

section Registry

variable {σ : Type} (answer : Registration → StateM σ (Except RegistryError Unit))

/-- The registry with a record of what is asked of it, accepted or not. -/
def recorded (r : Registration) : StateM (σ × List Registration) (Except RegistryError Unit) :=
  fun (s, asked) =>
    let (outcome, s') := (answer r).run s
    (outcome, s', asked ++ [r])

/-- The state after a registration, if the registry accepts it. -/
def accept? (s : σ) (r : Registration) : Option σ :=
  match (answer r).run s with
  | (.ok (), s') => some s'
  | (.error _, _) => none

/-- The state after registrations one after the other, if the registry accepts them all. -/
def acceptAll? (s : σ) (plan : List Registration) : Option σ :=
  plan.foldlM (accept? answer) s

/-- How a plan is carried out: all of it is accepted and counted, or the first registration that
is not ends it with its error.  The registry is then left as that registration left it. -/
inductive Ends (s : σ) (plan : List Registration) :
    Except RegistryError Nat → σ → List Registration → Prop
  | complete {s'} (accepted : acceptAll? answer s plan = some s') :
    Ends s plan (.ok plan.length) s' plan
  | stopped {before r rest s' s'' e} (split : plan = before ++ r :: rest)
      (accepted : acceptAll? answer s before = some s')
      (rejected : (answer r).run s' = (.error e, s'')) :
    Ends s plan (.error e) s'' (before ++ [r])

variable {answer} {s s' : σ} {r : Registration} {plan : List Registration}

theorem acceptAll?_cons (h : (answer r).run s = (.ok (), s')) (rest : List Registration) :
    acceptAll? answer s (r :: rest) = acceptAll? answer s' rest := by
  simp only [acceptAll?, List.foldlM_cons, accept?, h]
  rfl

/-- One more registration in front is one more that is counted. -/
theorem Ends.cons {outcome : Except RegistryError Nat} {s'' : σ} {asked : List Registration}
    (h : (answer r).run s = (.ok (), s')) (hends : Ends answer s' plan outcome s'' asked) :
    Ends answer s (r :: plan) (outcome.map (· + 1)) s'' (r :: asked) := by
  cases hends with
  | complete accepted => exact .complete (by rwa [acceptAll?_cons h])
  | stopped split accepted rejected =>
    exact .stopped (congrArg (r :: ·) split) (by rwa [acceptAll?_cons h]) rejected

theorem Ends.isPrefix {outcome : Except RegistryError Nat} {asked : List Registration}
    (h : Ends answer s plan outcome s' asked) : asked <+: plan := by
  cases h with
  | complete _ => exact List.prefix_refl _
  | @stopped before r rest _ _ _ split _ _ =>
    exact ⟨rest, by rw [split, List.append_assoc, List.singleton_append]⟩

/-- All is accepted exactly if the outcome is a number, which is that of the registrations. -/
theorem Ends.eq_ok_iff {outcome : Except RegistryError Nat} {asked : List Registration}
    (h : Ends answer s plan outcome s' asked) :
    outcome = .ok plan.length ↔ ∃ s'', acceptAll? answer s plan = some s'' := by
  cases h with
  | complete accepted => exact iff_of_true rfl ⟨_, accepted⟩
  | @stopped before r rest s₁ _ e split accepted rejected =>
    refine iff_of_false nofun ?_
    rw [split, acceptAll?, List.foldlM_append, ← acceptAll?, accepted]
    simp [accept?, rejected]

theorem run_recorded {outcome : Except RegistryError Unit}
    (h : (answer r).run s = (outcome, s')) (past : List Registration) :
    (recorded answer r).run (s, past) = (outcome, s', past ++ [r]) := by
  change (((answer r).run s).1, ((answer r).run s).2, past ++ [r]) = _
  rw [h]

/-- What is made of a plan behind registrations that were made before. -/
theorem ends_makeAll (n : Nat) (s : σ) (plan past : List Registration) :
    ∃ outcome s' asked, Ends answer s plan outcome s' asked ∧
      (makeAll (recorded answer) n plan).run (s, past) =
        (outcome.map (n + ·), s', past ++ asked) ∧
      (makeAll answer n plan).run s = (outcome.map (n + ·), s') := by
  induction plan generalizing n s past with
  | nil => exact ⟨.ok 0, s, [], .complete rfl, by rw [List.append_nil]; rfl, rfl⟩
  | cons r rest ih =>
    simp only [makeAll, StateT.run_bind]
    cases hr : (answer r).run s with
    | mk outcome s' =>
      rw [run_recorded hr]
      cases outcome with
      | error e => exact ⟨.error e, s', [r], .stopped (List.nil_append _).symm rfl hr, rfl, rfl⟩
      | ok _ =>
        obtain ⟨outcome, s'', asked, hends, hrun, hrun'⟩ := ih (n + 1) s' (past ++ [r])
        have hcount : outcome.map (n + 1 + ·) = (outcome.map (· + 1)).map (n + ·) := by
          cases outcome with
          | error e => rfl
          | ok k => exact congrArg Except.ok (show n + 1 + k = n + (k + 1) by omega)
        rw [hcount] at hrun hrun'
        rw [List.append_assoc] at hrun
        exact ⟨_, s'', _, hends.cons hr, hrun, hrun'⟩

end Registry

/-- A contract behind a gateway, as a registry whose state is what has been sent. -/
def remote (c : ContractClient) (g : Gateway) (r : Registration) :
    StateM (List Request) (Except RegistryError Unit) :=
  fun sent => Exchange.run g sent (RegistryClient.register c r)

theorem run_makeAll_register (c : ContractClient) (g : Gateway) (n : Nat)
    (plan : List Registration) (sent : List Request) :
    Exchange.run g sent (makeAll (RegistryClient.register c) n plan) =
      (makeAll (remote c g) n plan).run sent := by
  induction plan generalizing n sent with
  | nil => rfl
  | cons r rest ih =>
    have hr : (remote c g r).run sent = Exchange.run g sent (RegistryClient.register c r) := rfl
    rw [makeAll, makeAll, Exchange.run_bind, StateT.run_bind, hr]
    rcases Exchange.run g sent (RegistryClient.register c r) with ⟨_ | _, sent'⟩
    · rfl
    · exact ih (n + 1) sent'

/-- Whatever the registry answers, a manifest asks it for the registrations of one list in order,
up to the first that is rejected.  They are counted exactly if all are accepted; otherwise the
error is that of the rejected one, and the registry is left in the state after those accepted
before it and the rejected one.  So it is for a contract behind a gateway. -/
theorem replays_calls (m : Manifest) :
    (∀ {σ : Type} (answer : Registration → StateM σ (Except RegistryError Unit)) (s : σ),
      ∃ outcome s' asked,
        (m.apply (recorded answer)).run (s, []) = (outcome, s', asked) ∧
        (m.apply answer).run s = (outcome, s') ∧
        asked <+: m.calls ∧
        Ends answer s m.calls outcome s' asked ∧
        (outcome = .ok m.calls.length ↔ ∃ s'', acceptAll? answer s m.calls = some s'')) ∧
      ∀ (c : ContractClient) (g : Gateway) (sent : List Request),
        Exchange.run g sent (m.apply (RegistryClient.register c)) =
          (m.apply (remote c g)).run sent := by
  constructor
  · intro σ answer s
    obtain ⟨outcome, s', asked, hends, hrecorded, hrun⟩ := ends_makeAll 0 s m.calls []
    have hcount : outcome.map (0 + ·) = outcome := by
      cases outcome with
      | error e => rfl
      | ok k => exact congrArg Except.ok (Nat.zero_add k)
    rw [hcount] at hrecorded hrun
    rw [← apply_eq_makeAll] at hrecorded hrun
    exact ⟨outcome, s', asked, hrecorded, hrun, hends.isPrefix, hends, hends.eq_ok_iff⟩
  · intro c g sent
    rw [apply_eq_makeAll, apply_eq_makeAll]
    exact run_makeAll_register c g 0 m.calls sent

end Interchain.Manifest
