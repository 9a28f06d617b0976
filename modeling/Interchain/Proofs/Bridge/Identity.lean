import Interchain.Proofs.Keyed
import Interchain.Proofs.Topology.Outcome
import Mathlib.Data.Sym.Sym2

/-!
# The identity of a pair

What is digested for a pair tells its two locations apart from any other two, but not in which
order they are given: the smaller one comes first behind its length, so that both can be cut
out again.  As long as the digests of different messages differ, a bridge therefore knows a
pair by its two locations.
-/

namespace Interchain

namespace AssetPair

variable {p q : AssetPair} {a b c d : List UInt8}

/-- The two locations, whichever side each is on. -/
def locations (p : AssetPair) : Sym2 Location :=
  s(p.asset0.location, p.asset1.location)

/-- What is digested for the pair. -/
def message (p : AssetPair) : List UInt8 :=
  preimage p.asset0.location.bytes p.asset1.location.bytes

/-- The length of each location can be written in four bytes. -/
structure Short (p : AssetPair) : Prop where
  asset0 : p.asset0.location.bytes.length < 2 ^ 32
  asset1 : p.asset1.location.bytes.length < 2 ^ 32

theorem id_eq_digest (p : AssetPair) : p.id = Sha256.digest p.message := rfl

@[simp] theorem locations_swap (p : AssetPair) : p.swap.locations = p.locations :=
  Sym2.eq_swap

/-! ## The smaller location first -/

theorem preimage_comm (a b : List UInt8) : preimage a b = preimage b a := by
  unfold preimage
  by_cases hab : a ≤ b
  · by_cases hba : b ≤ a
    · rw [List.le_antisymm hab hba]
    · rw [if_pos hab, if_neg hba]
  · have hba : b ≤ a := (List.le_total a b).resolve_left hab
    rw [if_neg hab, if_pos hba]

/-- A message is a length and two locations, in one order or the other. -/
theorem exists_preimage_eq (ha : a.length < 2 ^ 32) (hb : b.length < 2 ^ 32) :
    ∃ first second, s(first, second) = s(a, b) ∧ first.length < 2 ^ 32 ∧
      preimage a b = lengthBytes first.length ++ (first ++ second) := by
  unfold preimage
  by_cases hab : a ≤ b
  · rw [if_pos hab]
    exact ⟨a, b, rfl, ha, List.append_assoc _ _ _⟩
  · rw [if_neg hab]
    exact ⟨b, a, Sym2.eq_swap, hb, List.append_assoc _ _ _⟩

/-! ## Messages are cut up in one way only -/

theorem length_lengthBytes (n : Nat) : (lengthBytes n).length = 4 := by
  simp [lengthBytes]

/-- Four bytes hold any length below their range. -/
theorem lengthBytes_inj {m n : Nat} (hm : m < 2 ^ 32) (hn : n < 2 ^ 32)
    (h : lengthBytes m = lengthBytes n) : m = n := by
  have hbyte (i : Nat) (hi : i < 4) : m / 2 ^ (8 * i) % 256 = n / 2 ^ (8 * i) % 256 := by
    have hget := congrArg (fun bytes => (bytes[i]?).map UInt8.toNat) h
    simpa [lengthBytes, hi, Nat.shiftRight_eq_div_pow] using hget
  have h0 := hbyte 0 (by decide)
  have h1 := hbyte 1 (by decide)
  have h2 := hbyte 2 (by decide)
  have h3 := hbyte 3 (by decide)
  omega

/-- The length says where the first location ends. -/
theorem framed_inj (ha : a.length < 2 ^ 32) (hc : c.length < 2 ^ 32)
    (h : lengthBytes a.length ++ (a ++ b) = lengthBytes c.length ++ (c ++ d)) :
    a = c ∧ b = d := by
  obtain ⟨hlength, hrest⟩ :=
    List.append_inj h ((length_lengthBytes _).trans (length_lengthBytes _).symm)
  exact List.append_inj hrest (lengthBytes_inj ha hc hlength)

theorem preimage_inj (ha : a.length < 2 ^ 32) (hb : b.length < 2 ^ 32) (hc : c.length < 2 ^ 32)
    (hd : d.length < 2 ^ 32) (h : preimage a b = preimage c d) : s(a, b) = s(c, d) := by
  obtain ⟨first, second, hab, hfirst, habs⟩ := exists_preimage_eq ha hb
  obtain ⟨first', second', hcd, hfirst', hcds⟩ := exists_preimage_eq hc hd
  rw [habs, hcds] at h
  obtain ⟨rfl, rfl⟩ := framed_inj hfirst hfirst' h
  exact hab.symm.trans hcd

theorem locations_eq_iff : p.locations = q.locations ↔
    s(p.asset0.location.bytes, p.asset1.location.bytes) =
      s(q.asset0.location.bytes, q.asset1.location.bytes) := by
  have hbytes : Function.Injective fun l : Location => l.bytes := by
    rintro ⟨x⟩ ⟨y⟩ h
    exact congrArg Blob.mk h
  exact (Sym2.map.injective hbytes).eq_iff.symm

theorem message_eq_of_locations (h : p.locations = q.locations) : p.message = q.message := by
  rcases Sym2.eq_iff.mp h with ⟨h0, h1⟩ | ⟨h0, h1⟩
  · rw [message, message, h0, h1]
  · rw [message, message, h0, h1, preimage_comm]

/-- The message tells the locations of the pair and nothing else. -/
theorem message_eq_iff (hp : p.Short) (hq : q.Short) :
    p.message = q.message ↔ p.locations = q.locations := by
  refine ⟨fun h => locations_eq_iff.mpr ?_, message_eq_of_locations⟩
  exact preimage_inj hp.asset0 hp.asset1 hq.asset0 hq.asset1 h

theorem id_eq_of_locations (h : p.locations = q.locations) : p.id = q.id :=
  congrArg Sha256.digest (message_eq_of_locations h)

/-- A pair is found again when it is given the other way round. -/
theorem id_of_turned {p q : AssetPair} (h : q = p ∨ q = p.swap) : q.id = p.id := by
  rcases h with rfl | rfl
  · rfl
  · exact id_eq_of_locations (locations_swap p)

/-- No two of these pairs have different messages with the same digest. -/
def Distinguished (pairs : List AssetPair) : Prop :=
  ∀ p ∈ pairs, ∀ q ∈ pairs, Sha256.digest p.message = Sha256.digest q.message →
    p.message = q.message

theorem Distinguished.id_eq_iff {pairs : List AssetPair} (h : Distinguished pairs)
    (short : ∀ p ∈ pairs, p.Short) (hp : p ∈ pairs) (hq : q ∈ pairs) :
    p.id = q.id ↔ p.locations = q.locations :=
  ⟨fun hid => (message_eq_iff (short p hp) (short q hq)).mp (h p hp q hq hid),
    id_eq_of_locations⟩

end AssetPair

namespace Bridge

variable {b b' : Bridge} {pair p : AssetPair}

/-- No two pairs have the same locations. -/
def Distinct (b : Bridge) : Prop :=
  b.assets.Pairwise fun p q => p.locations ≠ q.locations

theorem distinct_blank (name : BridgeName) (chain0 chain1 : ChainName) :
    (blank name chain0 chain1).Distinct :=
  .nil

theorem Distinct.register (h : b.Distinct) (hb : b.register pair = .ok b') : b'.Distinct := by
  obtain ⟨hfresh, rfl⟩ := register_eq_ok.mp hb
  refine List.pairwise_append.mpr ⟨h, List.pairwise_singleton _ _, ?_⟩
  intro p hp q hq hsame
  obtain rfl := List.mem_singleton.mp hq
  exact List.any_eq_false.mp hfresh p hp (beq_iff_eq.mpr (AssetPair.id_eq_of_locations hsame))

theorem Distinct.unregister (h : b.Distinct) (hb : b.unregister pair = .ok (b', p)) :
    b'.Distinct := by
  obtain ⟨-, rfl⟩ := unregister_eq_ok.mp hb
  exact h.sublist List.eraseP_sublist

/-- What a bridge does with a pair depends on the locations of those that it carries. -/
structure Recognizes (b : Bridge) (pair : AssetPair) : Prop where
  refuses : b.register pair = .error (.duplicatePair b.name.text) ↔
    ∃ p ∈ b.assets, p.locations = pair.locations
  adds : ∀ b', b.register pair = .ok b' ↔
    (∀ p ∈ b.assets, p.locations ≠ pair.locations) ∧ b' = { b with assets := b.assets ++ [pair] }
  misses : b.unregister pair = .error (.unknownPair b.name.text) ↔
    ∀ p ∈ b.assets, p.locations ≠ pair.locations
  /-- Of several pairs with these locations the first is taken away. -/
  removes : ∀ b' p, b.unregister pair = .ok (b', p) ↔
    ∃ before behind, b.assets = before ++ p :: behind ∧ p.locations = pair.locations ∧
      (∀ q ∈ before, q.locations ≠ pair.locations) ∧
      b' = { b with assets := before ++ behind }
  /-- On a bridge without repetitions, as registrations make them, it is the only one. -/
  alone : b.Distinct → ∀ b' p, b.unregister pair = .ok (b', p) →
    (∀ q ∈ b.assets, q.locations = pair.locations → q = p) ∧
      ∀ q ∈ b'.assets, q.locations ≠ pair.locations

theorem register_eq_duplicate : b.register pair = .error (.duplicatePair b.name.text) ↔
    ∃ p ∈ b.assets, p.id = pair.id := by
  have hany : (∃ p ∈ b.assets, p.id = pair.id) ↔
      (b.assets.any fun p => p.id == pair.id) = true := by simp
  rw [hany]
  cases h : b.assets.any fun p => p.id == pair.id <;> simp [register, h]

theorem unregister_eq_unknown : b.unregister pair = .error (.unknownPair b.name.text) ↔
    ∀ p ∈ b.assets, p.id ≠ pair.id := by
  have hfind : (∀ p ∈ b.assets, p.id ≠ pair.id) ↔
      (b.assets.find? fun p => p.id == pair.id) = none := by simp
  rw [hfind]
  cases h : b.assets.find? fun p => p.id == pair.id <;> simp [unregister, h]

/-- The first pair with this identity is taken away. -/
theorem unregister_eq_ok_iff_split : b.unregister pair = .ok (b', p) ↔
    ∃ before behind, b.assets = before ++ p :: behind ∧ p.id = pair.id ∧
      (∀ q ∈ before, q.id ≠ pair.id) ∧ b' = { b with assets := before ++ behind } := by
  have herase {before behind : List AssetPair} (hid : p.id = pair.id)
      (hmiss : ∀ q ∈ before, q.id ≠ pair.id) :
      (before ++ p :: behind).eraseP (fun q => q.id == pair.id) = before ++ behind := by
    rw [List.eraseP_append_right _ (by simpa using hmiss)]
    simp [hid]
  rw [unregister_eq_ok, List.find?_eq_some_iff_append]
  constructor
  · rintro ⟨⟨hid, before, behind, hassets, hmiss⟩, rfl⟩
    have hid : p.id = pair.id := by simpa using hid
    have hmiss : ∀ q ∈ before, q.id ≠ pair.id := by simpa using hmiss
    exact ⟨before, behind, hassets, hid, hmiss, by rw [hassets, herase hid hmiss]⟩
  · rintro ⟨before, behind, hassets, hid, hmiss, rfl⟩
    exact ⟨⟨by simpa using hid, before, behind, hassets, by simpa using hmiss⟩,
      by rw [hassets, herase hid hmiss]⟩

theorem recognizes_of_id (h : ∀ p ∈ b.assets, p.id = pair.id ↔ p.locations = pair.locations) :
    b.Recognizes pair := by
  have hfresh : (∀ p ∈ b.assets, p.id ≠ pair.id) ↔ ∀ p ∈ b.assets, p.locations ≠ pair.locations :=
    forall₂_congr fun p hp => not_congr (h p hp)
  have hremoves : ∀ b' p, b.unregister pair = .ok (b', p) ↔
      ∃ before behind, b.assets = before ++ p :: behind ∧ p.locations = pair.locations ∧
        (∀ q ∈ before, q.locations ≠ pair.locations) ∧
        b' = { b with assets := before ++ behind } := by
    intro b' p
    rw [unregister_eq_ok_iff_split]
    refine exists₂_congr fun before behind => and_congr_right fun hassets => ?_
    rw [hassets] at h
    refine and_congr (h p (by simp)) (and_congr_left' (forall₂_congr fun q hq => ?_))
    exact not_congr (h q (List.mem_append_left _ hq))
  constructor
  case refuses =>
    rw [register_eq_duplicate]
    exact exists_congr fun p => and_congr_right fun hp => h p hp
  case adds =>
    intro b'
    rw [register_eq_ok, ← hfresh]
    simp
  case misses => rw [unregister_eq_unknown, hfresh]
  case removes => exact hremoves
  case alone =>
    intro distinct b' p hp
    obtain ⟨before, behind, hassets, hsame, hbefore, rfl⟩ := (hremoves b' p).mp hp
    rw [Distinct, hassets, List.pairwise_middle fun {_ _} hne => Ne.symm hne] at distinct
    have hothers : ∀ q ∈ before ++ behind, q.locations ≠ pair.locations := by
      intro q hq hsameq
      exact (List.pairwise_cons.mp distinct).1 q hq (hsame.trans hsameq.symm)
    refine ⟨?_, hothers⟩
    intro q hq hsameq
    rw [hassets, List.mem_append, List.mem_cons] at hq
    rcases hq with hq | rfl | hq
    · exact absurd hsameq (hothers q (List.mem_append_left _ hq))
    · rfl
    · exact absurd hsameq (hothers q (List.mem_append_right _ hq))

/-- A pair is identified by its two locations, in either order and whatever else is known of
its assets, and a bridge registers, refuses and removes pairs by their locations. -/
theorem identified_by_locations :
    (∀ p q : AssetPair, p.Short → q.Short → (p.message = q.message ↔ p.locations = q.locations)) ∧
      (∀ p : AssetPair, p.id = Sha256.digest p.message ∧ p.swap.id = p.id) ∧
      (∀ p q : AssetPair, p.asset0.location = q.asset0.location →
        p.asset1.location = q.asset1.location → p.id = q.id) ∧
      (∀ (b : Bridge) (pair : AssetPair), (∀ p ∈ pair :: b.assets, p.Short) →
        AssetPair.Distinguished (pair :: b.assets) → b.Recognizes pair) ∧
      (∀ name chain0 chain1, (blank name chain0 chain1).Distinct) ∧
      ∀ (b b' : Bridge) (pair p : AssetPair), b.Distinct →
        (b.register pair = .ok b' → b'.Distinct) ∧
        (b.unregister pair = .ok (b', p) → b'.Distinct) := by
  refine ⟨?_, ?_, ?_, ?_, ?_, ?_⟩
  · exact fun _ _ hp hq => AssetPair.message_eq_iff hp hq
  · exact fun p => ⟨p.id_eq_digest, AssetPair.id_eq_of_locations p.locations_swap⟩
  · intro p q h0 h1
    exact AssetPair.id_eq_of_locations (by rw [AssetPair.locations, AssetPair.locations, h0, h1])
  · intro b pair short distinguished
    apply recognizes_of_id
    intro p hp
    exact distinguished.id_eq_iff short (List.mem_cons_of_mem _ hp) List.mem_cons_self
  · exact distinct_blank
  · exact fun _ _ _ _ distinct => ⟨distinct.register, distinct.unregister⟩

/-- Locations that begin alike, one of them empty, on a bridge that is given the second pair
the other way round and under other names. -/
theorem identified_by_locations_sample :
    let asset (name : String) (bytes : List UInt8) : AssetInfo := ⟨name, name, 12, ⟨bytes⟩⟩
    let first : AssetPair := ⟨asset "A" [], asset "B" [1, 2]⟩
    let second : AssetPair := ⟨asset "A" [1], asset "B" [1, 2]⟩
    let given : AssetPair := ⟨asset "C" [1, 2], asset "D" [1]⟩
    let b : Bridge := ⟨⟨"Khala-Ethereum"⟩, ⟨"Khala"⟩, ⟨"Ethereum"⟩, [first, second]⟩
    first.message ≠ second.message ∧ given.id = second.id ∧
      b.register given = .error (.duplicatePair "Khala-Ethereum") ∧
      b.unregister given = .ok ({ b with assets := [first] }, second) := by
  intro asset first second given b
  obtain ⟨hmessage, hid, hsame, hbridge, -, -⟩ := identified_by_locations
  have short : ∀ p ∈ given :: b.assets, p.Short := by
    intro p hp
    have hp : p ∈ [given, first, second] := hp
    simp only [List.mem_cons, List.not_mem_nil, or_false] at hp
    rcases hp with rfl | rfl | rfl <;> exact ⟨by decide, by decide⟩
  have distinguished : AssetPair.Distinguished (given :: b.assets) := by
    unfold AssetPair.Distinguished
    decide +kernel
  have recognizes := hbridge b given short distinguished
  have hgiven : second.locations = given.locations := Sym2.eq_swap
  have hfirst : first.locations ≠ given.locations := by decide
  refine ⟨?_, ?_, ?_, ?_⟩
  · rw [Ne, hmessage first second (short _ (by simp [b])) (short _ (by simp [b])), hgiven]
    exact hfirst
  · exact (hsame given second.swap rfl rfl).trans (hid second).2
  · exact recognizes.refuses.mpr ⟨second, by simp [b], hgiven⟩
  · exact (recognizes.removes _ _).mpr ⟨[first], [], rfl, hgiven, by simpa using hfirst, rfl⟩

end Bridge

end Interchain
