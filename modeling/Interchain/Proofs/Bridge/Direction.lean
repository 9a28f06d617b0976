import Interchain.Proofs.Bridge.Identity
import Interchain.Proofs.Topology.InPlace

/-!
# The direction in which a pair is given

A bridge stores a pair as it was given, but finds it by an identity that the direction does
not change, and by locations on either side.  So two bridges that take the same calls, with
some pairs turned around in those of the one, answer alike at every call and carry the same
pairs at the same positions, some of them turned around.
-/

namespace Interchain

open Attempt Edit Keyed

namespace AssetPair

variable {p q : AssetPair} {l : Location}

/-- The same pair, in the same direction or in the other. -/
def Turned (p q : AssetPair) : Prop :=
  q = p ∨ q = p.swap

/-- The location is on one of the sides. -/
def Carries (p : AssetPair) (l : Location) : Prop :=
  p.asset0.location = l ∨ p.asset1.location = l

theorem Turned.refl (p : AssetPair) : p.Turned p :=
  .inl rfl

theorem Turned.id_eq (h : p.Turned q) : q.id = p.id :=
  id_of_turned h

theorem Turned.carries_iff (h : p.Turned q) : p.Carries l ↔ q.Carries l := by
  rcases h with rfl | rfl
  · exact Iff.rfl
  · exact or_comm

theorem isSome_counterpart?_iff : (p.counterpart? l).isSome = true ↔ p.Carries l := by
  unfold counterpart? Carries
  split
  · simp [*]
  · split <;> simp [*]

end AssetPair

/-- A call of a bridge. -/
inductive BridgeCall where
  | register (pair : AssetPair)
  | unregister (pair : AssetPair)
deriving DecidableEq, Repr

/-- What a bridge answers: the pair as it was stored, if it carries it no longer. -/
abbrev BridgeAnswer := Except TopologyError (Option AssetPair)

namespace BridgeCall

/-- The call as it is carried out on the bridge. -/
def edit : BridgeCall → Edit Bridge (Option AssetPair)
  | .register pair => (fun _ => none) <$> Bridge.InPlace.register pair
  | .unregister pair => some <$> Bridge.InPlace.unregister pair

/-- The pair that the call is to add. -/
def added? : BridgeCall → Option AssetPair
  | .register pair => some pair
  | .unregister _ => none

/-- The same call, with the pair in the same direction or in the other. -/
inductive Turned : BridgeCall → BridgeCall → Prop
  | register {p q : AssetPair} (turned : p.Turned q) : Turned (.register p) (.register q)
  | unregister {p q : AssetPair} (turned : p.Turned q) : Turned (.unregister p) (.unregister q)

end BridgeCall

/-- The same answer, with the pair in the same direction or in the other. -/
inductive BridgeAnswer.Turned : BridgeAnswer → BridgeAnswer → Prop
  | refused (e : TopologyError) : Turned (.error e) (.error e)
  | added : Turned (.ok none) (.ok none)
  | removed {p q : AssetPair} (turned : p.Turned q) : Turned (.ok (some p)) (.ok (some q))

namespace Bridge

variable {b c : Bridge} {l : Location}

/-- The answer to a call and the bridge that the call leaves. -/
def call (b : Bridge) (x : BridgeCall) : BridgeAnswer × Bridge :=
  x.edit.runOn b

/-- The answers to calls made one after the other, each with the bridge that it leaves. -/
def course (b : Bridge) : List BridgeCall → List (BridgeAnswer × Bridge)
  | [] => []
  | x :: rest => b.call x :: (b.call x).2.course rest

/-- The same bridge, with some of its pairs turned around. -/
structure Turned (b c : Bridge) : Prop where
  name : c.name = b.name
  chain0 : c.chain0 = b.chain0
  chain1 : c.chain1 = b.chain1
  assets : List.Forall₂ AssetPair.Turned b.assets c.assets

/-! ## What a call does -/

/-- What a call answers and leaves, case by case. -/
inductive Answers (b : Bridge) : BridgeCall → BridgeAnswer × Bridge → Prop
  | repeated {pair} (known : ∃ p ∈ b.assets, p.id = pair.id) :
    Answers b (.register pair) (.error (.duplicatePair b.name.text), b)
  | added {pair} (fresh : ∀ p ∈ b.assets, p.id ≠ pair.id) :
    Answers b (.register pair) (.ok none, { b with assets := b.assets ++ [pair] })
  | unknown {pair} (fresh : ∀ p ∈ b.assets, p.id ≠ pair.id) :
    Answers b (.unregister pair) (.error (.unknownPair b.name.text), b)
  | removed {pair k p} (first : FirstAt (fun q => q.id = pair.id) b.assets k p) :
    Answers b (.unregister pair) (.ok (some p), { b with assets := b.assets.eraseIdx k })

theorem call_register (pair : AssetPair) :
    b.call (.register pair) = settle b ((b.register pair).map (·, none)) := by
  refine ((InPlace.makes_register pair).map (fun _ => none) b).trans ?_
  dsimp only
  cases b.register pair <;> rfl

theorem call_unregister (pair : AssetPair) : b.call (.unregister pair) =
    settle b ((b.unregister pair).map fun r => (r.1, some r.2)) :=
  (InPlace.makes_unregister pair).map some b

theorem answers_call (b : Bridge) (x : BridgeCall) : b.Answers x (b.call x) := by
  cases x with
  | register pair =>
    rw [call_register]
    by_cases known : ∃ p ∈ b.assets, p.id = pair.id
    · rw [register_eq_duplicate.mpr known]
      exact .repeated known
    · have fresh : ∀ p ∈ b.assets, p.id ≠ pair.id := fun p hp hid => known ⟨p, hp, hid⟩
      have hany : (b.assets.any fun p => p.id == pair.id) = false := by simpa using fresh
      rw [register_eq_ok.mpr ⟨hany, rfl⟩]
      exact .added fresh
  | unregister pair =>
    rw [call_unregister]
    by_cases fresh : ∀ p ∈ b.assets, p.id ≠ pair.id
    · rw [unregister_eq_unknown.mpr fresh]
      exact .unknown fresh
    · cases hfind : b.assets.find? fun p => p.id == pair.id with
      | none => exact absurd (by simpa using hfind) fresh
      | some p =>
        obtain ⟨k, first⟩ := find?_eq_some_iff_firstAt.mp hfind
        rw [unregister_eq_ok.mpr ⟨hfind, rfl⟩, first.eraseP_eq]
        exact .removed ⟨first.found, by simpa using first.holds, by simpa using first.earliest⟩

variable {x y : BridgeCall} {r r' : BridgeAnswer × Bridge}

theorem Answers.unique (h : b.Answers x r) (h' : b.Answers x r') : r = r' := by
  cases h with
  | repeated known =>
    cases h' with
    | repeated _ => rfl
    | added fresh =>
      obtain ⟨p, hp, hid⟩ := known
      exact absurd hid (fresh p hp)
  | added fresh =>
    cases h' with
    | repeated known =>
      obtain ⟨p, hp, hid⟩ := known
      exact absurd hid (fresh p hp)
    | added _ => rfl
  | unknown fresh =>
    cases h' with
    | unknown _ => rfl
    | removed first =>
      exact absurd first.holds (fresh _ (List.mem_of_getElem? first.found))
  | removed first =>
    cases h' with
    | unknown fresh => exact absurd first.holds (fresh _ (List.mem_of_getElem? first.found))
    | removed first' =>
      obtain ⟨rfl, rfl⟩ := first.unique first'
      rfl

theorem call_eq_iff : b.call x = r ↔ b.Answers x r := by
  constructor
  · rintro rfl
    exact answers_call b x
  · exact (answers_call b x).unique

/-! ## Bridges that differ in directions -/

theorem Turned.refl (b : Bridge) : b.Turned b :=
  ⟨rfl, rfl, rfl, List.forall₂_same.mpr fun p _ => .refl p⟩

/-- The same identities are carried. -/
theorem Turned.carried_iff (h : b.Turned c) (i : List UInt8) :
    (∃ p ∈ b.assets, p.id = i) ↔ ∃ q ∈ c.assets, q.id = i := by
  constructor
  · rintro ⟨p, hp, hid⟩
    obtain ⟨k, hk⟩ := List.getElem?_of_mem hp
    obtain ⟨q, hq, turned⟩ := exists_getElem?_of_forall₂ h.assets hk
    exact ⟨q, List.mem_of_getElem? hq, turned.id_eq.trans hid⟩
  · rintro ⟨q, hq, hid⟩
    obtain ⟨k, hk⟩ := List.getElem?_of_mem hq
    obtain ⟨p, hp, turned⟩ := exists_getElem?_of_forall₂ h.assets.flip hk
    exact ⟨p, List.mem_of_getElem? hp, AssetPair.Turned.id_eq turned ▸ hid⟩

/-- Two such bridges answer alike to the same call, and still differ in directions only. -/
theorem Turned.answers (h : b.Turned c) (hxy : x.Turned y) (hr : b.Answers x r) :
    ∃ r', c.Answers y r' ∧ r.1.Turned r'.1 ∧ r.2.Turned r'.2 := by
  have hfresh (i : List UInt8) : (∀ p ∈ b.assets, p.id ≠ i) ↔ ∀ q ∈ c.assets, q.id ≠ i := by
    simpa using not_congr (h.carried_iff i)
  cases hr with
  | @repeated pair known =>
    cases hxy with
    | register turned =>
      refine ⟨_, .repeated ?_, ?_, h⟩
      · rwa [turned.id_eq, ← h.carried_iff]
      · rw [h.name]
        exact .refused _
  | @added pair fresh =>
    cases hxy with
    | register turned =>
      refine ⟨_, .added ?_, .added, h.name, h.chain0, h.chain1, ?_⟩
      · rwa [turned.id_eq, ← hfresh]
      · exact List.rel_append h.assets (.cons turned .nil)
  | @unknown pair fresh =>
    cases hxy with
    | unregister turned =>
      refine ⟨_, .unknown ?_, ?_, h⟩
      · rwa [turned.id_eq, ← hfresh]
      · rw [h.name]
        exact .refused _
  | @removed pair k p first =>
    cases hxy with
    | @unregister _ pair' turned =>
      have hid : ∀ p q : AssetPair, p.Turned q → (p.id = pair.id ↔ q.id = pair'.id) := by
        intro p q hpq
        rw [hpq.id_eq, turned.id_eq]
      obtain ⟨q, first', hpq⟩ := first.forall₂ h.assets hid
      exact ⟨_, .removed first', .removed hpq, h.name, h.chain0, h.chain1,
        forall₂_eraseIdx h.assets k⟩

theorem Turned.call (h : b.Turned c) (hxy : x.Turned y) :
    (b.call x).1.Turned (c.call y).1 ∧ (b.call x).2.Turned (c.call y).2 := by
  obtain ⟨r', hr', halike⟩ := h.answers hxy (answers_call b x)
  rw [call_eq_iff.mpr hr']
  exact halike

/-! ## Looking up a location -/

theorem pairFor?_eq_some_iff {p : AssetPair} :
    b.pairFor? l = some p ↔ ∃ k, FirstAt (fun q => q.Carries l) b.assets k p := by
  simp only [pairFor?, find?_eq_some_iff_firstAt, AssetPair.isSome_counterpart?_iff]

theorem isSome_pairFor?_iff : (b.pairFor? l).isSome = true ↔ ∃ p ∈ b.assets, p.Carries l := by
  simp only [pairFor?, List.find?_isSome, AssetPair.isSome_counterpart?_iff]

/-- Both bridges carry the location first at the same position, or both do not carry it. -/
inductive FindAlike (b c : Bridge) (l : Location) : Prop
  | missing (left : b.pairFor? l = none) (right : c.pairFor? l = none)
  | found {k p q} (first : FirstAt (fun p => p.Carries l) b.assets k p)
      (first' : FirstAt (fun q => q.Carries l) c.assets k q) (turned : p.Turned q)
      (left : b.pairFor? l = some p) (right : c.pairFor? l = some q)

theorem Turned.findAlike (h : b.Turned c) (l : Location) : b.FindAlike c l := by
  have carries : ∀ p q : AssetPair, p.Turned q → (p.Carries l ↔ q.Carries l) :=
    fun p q hpq => hpq.carries_iff
  cases hb : b.pairFor? l with
  | some p =>
    obtain ⟨k, first⟩ := pairFor?_eq_some_iff.mp hb
    obtain ⟨q, first', hpq⟩ := first.forall₂ h.assets carries
    exact .found first first' hpq hb (pairFor?_eq_some_iff.mpr ⟨k, first'⟩)
  | none =>
    refine .missing hb (Option.not_isSome_iff_eq_none.mp ?_)
    rw [isSome_pairFor?_iff]
    rintro ⟨q, hq, hl⟩
    obtain ⟨k, hk⟩ := List.getElem?_of_mem hq
    obtain ⟨p, hp, hpq⟩ := exists_getElem?_of_forall₂ h.assets.flip hk
    have hsome := isSome_pairFor?_iff.mpr ⟨p, List.mem_of_getElem? hp, (carries p q hpq).mpr hl⟩
    rw [hb] at hsome
    cases hsome

/-! ## Calls one after the other -/

theorem Turned.course (h : b.Turned c) {xs ys : List BridgeCall}
    (turned : List.Forall₂ BridgeCall.Turned xs ys) :
    List.Forall₂ (fun r r' => r.1.Turned r'.1 ∧ r.2.Turned r'.2) (b.course xs) (c.course ys) := by
  induction turned generalizing b c with
  | nil => exact .nil
  | cons hxy _ ih => exact .cons (h.call hxy) (ih (h.call hxy).2)

/-- A call leaves the pairs in their order and adds its own behind them. -/
theorem sublist_call (b : Bridge) (x : BridgeCall) :
    (b.call x).2.assets.Sublist (b.assets ++ x.added?.toList) := by
  have hr := answers_call b x
  generalize b.call x = r at hr
  cases hr with
  | repeated _ => exact List.sublist_append_left _ _
  | added _ => exact .refl _
  | unknown _ => exact List.sublist_append_left _ _
  | removed _ => exact (List.eraseIdx_sublist _ _).trans (List.sublist_append_left _ _)

/-- Pairs stand in the order in which they were given. -/
theorem sublist_course {xs : List BridgeCall} {n : Nat} (h : (b.course xs)[n]? = some r) :
    r.2.assets.Sublist (b.assets ++ (xs.take (n + 1)).filterMap BridgeCall.added?) := by
  induction xs generalizing b n with
  | nil => cases h
  | cons x rest ih =>
    have hfirst := sublist_call b x
    have hsplit : (x :: rest.take n).filterMap BridgeCall.added? =
        x.added?.toList ++ (rest.take n).filterMap BridgeCall.added? := by
      cases x <;> rfl
    rw [List.take_succ_cons, hsplit, ← List.append_assoc]
    cases n with
    | zero =>
      obtain rfl := Option.some.inj h
      exact hfirst.trans (List.sublist_append_left _ _)
    | succ n => exact (ih h).trans (hfirst.append_right _)

/-- Calls that differ in the directions of pairs are answered alike, and after each of them the
same pairs stand at the same positions, where the same are found under each location.  What is
found is the first pair with this location on a side, and pairs stand in the order in which
they were given. -/
theorem courses_alike (b : Bridge) {xs ys : List BridgeCall}
    (turned : List.Forall₂ BridgeCall.Turned xs ys) :
    List.Forall₂
        (fun r r' => r.1.Turned r'.1 ∧ r.2.Turned r'.2 ∧ ∀ l, r.2.FindAlike r'.2 l)
        (b.course xs) (b.course ys) ∧
      (∀ (c : Bridge) l, ((c.pairFor? l).isSome = true ↔ ∃ p ∈ c.assets, p.Carries l) ∧
        ∀ p, c.pairFor? l = some p ↔ ∃ k, FirstAt (fun q => q.Carries l) c.assets k p) ∧
      (∀ (c : Bridge) x, c.Answers x (c.call x)) ∧
      ∀ (n : Nat) (r : BridgeAnswer × Bridge), (b.course xs)[n]? = some r →
        r.2.assets.Sublist (b.assets ++ (xs.take (n + 1)).filterMap BridgeCall.added?) := by
  refine ⟨?_, ?_, answers_call, fun _ _ => sublist_course⟩
  · refine ((Turned.refl b).course turned).imp ?_
    intro r r' halike
    exact ⟨halike.1, halike.2, halike.2.findAlike⟩
  · exact fun c l => ⟨isSome_pairFor?_iff, fun p => pairFor?_eq_some_iff⟩

/-- Two pairs share a location, which is found with the second when the first is gone. -/
theorem courses_alike_sample :
    let asset (bytes : List UInt8) : AssetInfo := ⟨"Phala", "PHA", 12, ⟨bytes⟩⟩
    let p : AssetPair := ⟨asset [1], asset [2]⟩
    let q : AssetPair := ⟨asset [3], asset [1]⟩
    let b := blank ⟨"Khala-Ethereum"⟩ ⟨"Khala"⟩ ⟨"Ethereum"⟩
    let xs : List BridgeCall := [.register p, .register q, .register p.swap, .unregister p]
    let ys : List BridgeCall := [.register p, .register q.swap, .register p, .unregister p.swap]
    List.Forall₂ BridgeCall.Turned xs ys ∧
      (b.course xs).map (fun r => r.2.pairFor? ⟨[1]⟩) = [some p, some p, some p, some q] ∧
      (b.course ys).map (fun r => r.2.pairFor? ⟨[1]⟩) = [some p, some p, some p, some q.swap] ∧
      List.Forall₂ (fun r r' => r.1.Turned r'.1 ∧ r.2.Turned r'.2 ∧ ∀ l, r.2.FindAlike r'.2 l)
        (b.course xs) (b.course ys) := by
  intro asset p q b xs ys
  have turned : List.Forall₂ BridgeCall.Turned xs ys :=
    .cons (.register (.inl rfl)) (.cons (.register (.inr rfl))
      (.cons (.register (.inr rfl)) (.cons (.unregister (.inr rfl)) .nil)))
  exact ⟨turned, by decide +kernel, by decide +kernel, (courses_alike b turned).1⟩

end Bridge

end Interchain
