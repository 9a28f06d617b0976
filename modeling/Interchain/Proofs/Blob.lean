import Interchain.Cli.Command
import Interchain.Proofs.Json.Records

/-!
# Which texts are byte strings

A text is a byte string if, a marker in front apart, it has an even number of bytes and all
of them are digits.  Otherwise an odd length is reported, or the first byte that is no digit
with its place.  Lengths and places are those of the text's bytes, so a character outside
ASCII is met at its first byte.
-/

namespace Interchain

/-! ## Texts of ASCII -/

namespace Utf8

/-- Bytes below 128 are read one by one. -/
theorem decode_ascii {bytes : List UInt8} (h : ∀ b ∈ bytes, b < 0x80) :
    decode bytes = bytes.map fun b => Char.ofNat b.toNat := by
  induction bytes with
  | nil => rw [decode, List.map_nil]
  | cons b rest ih =>
    have hstep : step b rest = (0, Char.ofNat b.toNat) := by
      unfold step
      rw [if_pos (h b List.mem_cons_self)]
    rw [decode_cons hstep, List.drop_zero, ih fun c hc => h c (List.mem_cons_of_mem _ hc),
      List.map_cons]

/-- A text whose bytes are all below 128 has one character for each of them. -/
theorem toList_of_ascii {s : String} (h : ∀ b ∈ s.toUTF8.toList, b < 0x80) :
    s.toList = s.toUTF8.toList.map fun b => Char.ofNat b.toNat := by
  have hread : decode s.toUTF8.toList = s.toList := by
    rw [toList_toUTF8, decode_flatMap]
  rw [← hread, decode_ascii h]

end Utf8

/-! ## Digits -/

namespace Hex

/-- A byte is a digit: `0` to `9`, or a letter from `a` to `f` of either case. -/
def IsDigit (b : UInt8) : Prop :=
  '0'.toNat ≤ b.toNat ∧ b.toNat ≤ '9'.toNat ∨ 'a'.toNat ≤ b.toNat ∧ b.toNat ≤ 'f'.toNat ∨
    'A'.toNat ≤ b.toNat ∧ b.toNat ≤ 'F'.toNat

instance (b : UInt8) : Decidable (IsDigit b) := instDecidableOr

/-- The character of a byte, with a letter in lower case. -/
def lowered (b : UInt8) : Char := (Char.ofNat b.toNat).toLower

/-- Digits stand for the values below sixteen, and the lower-case digit of a value is the
one that was read, in lower case. -/
theorem value?_of_isDigit {b : UInt8} (h : IsDigit b) :
    ∃ n, value? b = some n ∧ n < 16 ∧ digit n = lowered b := by
  have hall : ∀ k < 256, IsDigit (UInt8.ofNat k) → ∃ n < 16, value? (UInt8.ofNat k) = some n ∧
      digit n = lowered (UInt8.ofNat k) := by decide +kernel
  have hb : UInt8.ofNat b.toNat = b := UInt8.ofNat_toNat
  obtain ⟨n, hn, hvalue, hdigit⟩ := hall b.toNat b.toNat_lt (hb.symm ▸ h)
  rw [hb] at hvalue hdigit
  exact ⟨n, hvalue, hn, hdigit⟩

theorem value?_of_not_isDigit {b : UInt8} (h : ¬ IsDigit b) : value? b = none := by
  have hall : ∀ k < 256, ¬ IsDigit (UInt8.ofNat k) → value? (UInt8.ofNat k) = none := by
    decide +kernel
  have hb : UInt8.ofNat b.toNat = b := UInt8.ofNat_toNat
  have hvalue := hall b.toNat b.toNat_lt (hb.symm ▸ h)
  rwa [hb] at hvalue

theorem lt_of_isDigit {b : UInt8} (h : IsDigit b) : b < 0x80 := by
  have hf : 'f'.toNat = 102 ∧ '9'.toNat = 57 ∧ 'F'.toNat = 70 := by decide
  rw [UInt8.lt_iff_toNat_lt]
  change b.toNat < 128
  rcases h with h | h | h <;> omega

theorem readDigit_of_isDigit {b : UInt8} (h : IsDigit b) :
    ∃ n < 16, digit n = lowered b ∧ ∀ position, readDigit position b = .ok n := by
  obtain ⟨n, hvalue, hn, hdigit⟩ := value?_of_isDigit h
  refine ⟨n, hn, hdigit, ?_⟩
  intro position
  rw [readDigit, hvalue]

theorem readDigit_of_not_isDigit {b : UInt8} (h : ¬ IsDigit b) (position : Nat) :
    readDigit position b = .error (.badDigit b position) := by
  rw [readDigit, value?_of_not_isDigit h]

/-! ## Pairs of digits -/

/-- A byte is written with the digits that it was read from. -/
theorem digits_cons {h l : Nat} (hh : h < 16) (hl : l < 16) (bytes : List UInt8) :
    digits (UInt8.ofNat (16 * h + l) :: bytes) = digit h :: digit l :: digits bytes := by
  have hsum : (UInt8.ofNat (16 * h + l)).toNat = 16 * h + l := Utf8.toNat_ofNat (by omega)
  have hhigh : (16 * h + l) / 16 = h := by omega
  have hlow : (16 * h + l) % 16 = l := by omega
  simp only [digits, List.flatMap_cons, hsum, hhigh, hlow, List.cons_append, List.nil_append]

/-- An even number of digits is read, and written again in lower case. -/
theorem readPairs_of_isDigit {t : List UInt8} (heven : t.length % 2 = 0)
    (hdigits : ∀ b ∈ t, IsDigit b) (position : Nat) :
    ∃ bytes, readPairs position t = .ok bytes ∧ digits bytes = t.map lowered := by
  fun_induction readPairs position t with
  | case1 => exact ⟨[], rfl, rfl⟩
  | case2 => simp at heven
  | case3 position high low rest ih =>
    have hrest : rest.length % 2 = 0 := by
      rw [List.length_cons, List.length_cons] at heven
      omega
    obtain ⟨bytes, hread, hbytes⟩ := ih hrest fun b hb =>
      hdigits b (List.mem_cons_of_mem _ (List.mem_cons_of_mem _ hb))
    obtain ⟨h, hh, hhigh, hreadHigh⟩ := readDigit_of_isDigit (hdigits high List.mem_cons_self)
    obtain ⟨l, hl, hlow, hreadLow⟩ :=
      readDigit_of_isDigit (hdigits low (List.mem_cons_of_mem _ List.mem_cons_self))
    refine ⟨UInt8.ofNat (16 * h + l) :: bytes, ?_, ?_⟩
    · rw [hreadHigh, hreadLow, hread]
      rfl
    · rw [digits_cons hh hl, hhigh, hlow, hbytes, List.map_cons, List.map_cons]

/-- The first byte that is no digit is reported, at its place. -/
theorem readPairs_of_not_isDigit {t before after : List UInt8} {b : UInt8}
    (heven : t.length % 2 = 0) (hsplit : t = before ++ b :: after)
    (hbefore : ∀ c ∈ before, IsDigit c) (hb : ¬ IsDigit b) (position : Nat) :
    readPairs position t = .error (.badDigit b (position + before.length)) := by
  fun_induction readPairs position t generalizing before with
  | case1 => simp at hsplit
  | case2 => simp at heven
  | case3 position high low rest ih =>
    -- The byte is the first of the pair, the second, or behind it.
    match before, hsplit, hbefore with
    | [], hsplit, _ =>
      obtain ⟨rfl, -⟩ := List.cons.inj hsplit
      rw [readDigit_of_not_isDigit hb]
      rfl
    | [c], hsplit, hbefore =>
      obtain ⟨rfl, hrest⟩ := List.cons.inj hsplit
      obtain ⟨rfl, -⟩ := List.cons.inj hrest
      obtain ⟨n, -, -, hread⟩ := readDigit_of_isDigit (hbefore high List.mem_cons_self)
      rw [hread, readDigit_of_not_isDigit hb]
      rfl
    | c :: d :: before, hsplit, hbefore =>
      obtain ⟨rfl, hlow⟩ := List.cons.inj hsplit
      obtain ⟨rfl, hrest⟩ := List.cons.inj hlow
      have hlength : rest.length % 2 = 0 := by
        rw [List.length_cons, List.length_cons] at heven
        omega
      obtain ⟨h, -, -, hreadHigh⟩ := readDigit_of_isDigit (hbefore high List.mem_cons_self)
      obtain ⟨l, -, -, hreadLow⟩ :=
        readDigit_of_isDigit (hbefore low (List.mem_cons_of_mem _ List.mem_cons_self))
      have hread := ih hlength hrest fun x hx =>
        hbefore x (List.mem_cons_of_mem _ (List.mem_cons_of_mem _ hx))
      have hplace : position + 2 + before.length = position + (before.length + 1 + 1) := by omega
      rw [hreadHigh, hreadLow, hread, hplace]
      rfl

/-- Bytes that are not all digits have a first one that is none. -/
theorem exists_first_not_isDigit {t : List UInt8} (h : ¬ ∀ b ∈ t, IsDigit b) :
    ∃ before b after, t = before ++ b :: after ∧ (∀ c ∈ before, IsDigit c) ∧ ¬ IsDigit b := by
  induction t with
  | nil =>
    apply absurd _ h
    exact fun _ hb => nomatch hb
  | cons b rest ih =>
    by_cases hb : IsDigit b
    · have hrest : ¬ ∀ c ∈ rest, IsDigit c := by
        intro hall
        exact h (List.forall_mem_cons.mpr ⟨hb, hall⟩)
      obtain ⟨before, c, after, rfl, hbefore, hc⟩ := ih hrest
      exact ⟨b :: before, c, after, rfl, List.forall_mem_cons.mpr ⟨hb, hbefore⟩, hc⟩
    · refine ⟨[], b, rest, rfl, ?_, hb⟩
      exact fun _ hc => nomatch hc

/-! ## Whole byte strings -/

variable {t : List UInt8}

theorem decodeBytes_of_odd (h : t.length % 2 = 1) : decodeBytes t = .error .oddLength := by
  rw [decodeBytes, if_pos h]

theorem decodeBytes_of_even (h : t.length % 2 = 0) : decodeBytes t = readPairs 0 t := by
  rw [decodeBytes, if_neg (by omega)]

theorem decodeBytes_of_not_isDigit (heven : t.length % 2 = 0) {before after : List UInt8}
    {b : UInt8} (hsplit : t = before ++ b :: after) (hbefore : ∀ c ∈ before, IsDigit c)
    (hb : ¬ IsDigit b) : decodeBytes t = .error (.badDigit b before.length) := by
  rw [decodeBytes_of_even heven, readPairs_of_not_isDigit heven hsplit hbefore hb, Nat.zero_add]

/-- What is read is an even number of digits. -/
theorem of_decodeBytes_eq_ok {bytes : List UInt8} (h : decodeBytes t = .ok bytes) :
    t.length % 2 = 0 ∧ ∀ b ∈ t, IsDigit b := by
  have heven : t.length % 2 = 0 := by
    by_contra hodd
    rw [decodeBytes_of_odd (by omega)] at h
    cases h
  refine ⟨heven, ?_⟩
  by_contra hdigits
  obtain ⟨before, b, after, hsplit, hbefore, hb⟩ := exists_first_not_isDigit hdigits
  rw [decodeBytes_of_not_isDigit heven hsplit hbefore hb] at h
  cases h

end Hex

/-! ## Texts -/

namespace Blob

variable {kind : BlobKind}

/-- The text `t` is `s` without one marker in front, if it has one. -/
def Unmarked (s t : String) : Prop :=
  s = "0x" ++ t ∨ ¬ "0x".toList <+: s.toList ∧ t = s

theorem unmarked_stripMarker (s : String) : Unmarked s (stripMarker s) := by
  unfold stripMarker
  split
  · next rest hs =>
    apply Or.inl
    rw [← String.toList_inj, hs, String.toList_append, String.toList_ofList]
    simp
  · next hs =>
    refine .inr ⟨?_, rfl⟩
    rintro ⟨rest, hrest⟩
    exact hs rest hrest.symm

/-- What is to be said of a text that is `t` but for a marker. -/
structure Verdict (t : String) (r : Except Hex.Fault (Blob kind)) : Prop where
  /-- It is a byte string if its bytes are digits, of which there is an even number. -/
  accepts : (∃ b, r = .ok b) ↔
    t.toUTF8.toList.length % 2 = 0 ∧ ∀ c ∈ t.toUTF8.toList, Hex.IsDigit c
  /-- It is then written as it was, in lower case and with the marker. -/
  written : ∀ b, r = .ok b → b.toHex = "0x" ++ Ascii.lower t
  /-- An odd length is reported whatever the bytes are. -/
  odd : t.toUTF8.toList.length % 2 = 1 → r = .error .oddLength
  /-- Otherwise the first byte that is no digit is reported, with its place. -/
  bad : t.toUTF8.toList.length % 2 = 0 → ∀ before c after,
    t.toUTF8.toList = before ++ c :: after → (∀ x ∈ before, Hex.IsDigit x) → ¬ Hex.IsDigit c →
    r = .error (.badDigit c before.length)

/-- Digits are written as they were read, in lower case. -/
theorem toHex_of_digits {t : String} {bytes : List UInt8}
    (hdigits : ∀ c ∈ t.toUTF8.toList, Hex.IsDigit c)
    (h : Hex.digits bytes = t.toUTF8.toList.map Hex.lowered) :
    (⟨bytes⟩ : Blob kind).toHex = "0x" ++ Ascii.lower t := by
  have htext := Utf8.toList_of_ascii fun c hc => Hex.lt_of_isDigit (hdigits c hc)
  have hlower : t.toList.map Char.toLower = t.toUTF8.toList.map Hex.lowered := by
    rw [htext, List.map_map]
    rfl
  rw [← String.toList_inj, toHex, String.toList_append, Ascii.toList_lower, String.toList_ofList,
    h, hlower]
  simp

theorem ofHex_eq_ok {s : String} {b : Blob kind} :
    ofHex s = .ok b ↔ Hex.decodeBytes (stripMarker s).toUTF8.toList = .ok b.bytes := by
  rw [ofHex, Attempt.map_eq_ok, Hex.decode]
  constructor
  · rintro ⟨bytes, hbytes, rfl⟩
    exact hbytes
  · intro hbytes
    exact ⟨b.bytes, hbytes, rfl⟩

theorem ofHex_eq_error {s : String} {fault : Hex.Fault} :
    (ofHex s : Except _ (Blob kind)) = .error fault ↔
      Hex.decodeBytes (stripMarker s).toUTF8.toList = .error fault := by
  rw [ofHex, Attempt.map_eq_error, Hex.decode]

theorem verdict_ofHex (s : String) :
    Verdict (stripMarker s) (ofHex s : Except _ (Blob kind)) where
  accepts := by
    constructor
    · rintro ⟨b, hb⟩
      exact Hex.of_decodeBytes_eq_ok (ofHex_eq_ok.mp hb)
    · rintro ⟨heven, hdigits⟩
      obtain ⟨bytes, hbytes, -⟩ := Hex.readPairs_of_isDigit heven hdigits 0
      refine ⟨⟨bytes⟩, ofHex_eq_ok.mpr ?_⟩
      rw [Hex.decodeBytes_of_even heven, hbytes]
  written := by
    intro b hb
    have hread := ofHex_eq_ok.mp hb
    obtain ⟨heven, hdigits⟩ := Hex.of_decodeBytes_eq_ok hread
    obtain ⟨bytes, hbytes, hlower⟩ := Hex.readPairs_of_isDigit heven hdigits 0
    rw [Hex.decodeBytes_of_even heven, hbytes] at hread
    exact toHex_of_digits hdigits (Except.ok.inj hread ▸ hlower)
  odd := fun hodd => ofHex_eq_error.mpr (Hex.decodeBytes_of_odd hodd)
  bad := by
    intro heven before c after hsplit hbefore hc
    exact ofHex_eq_error.mpr (Hex.decodeBytes_of_not_isDigit heven hsplit hbefore hc)

/-! ## Readers -/

/-- Whatever reads byte strings of this kind says the same of the text `s` as `ofHex`. -/
structure ReadAlike (kind : BlobKind) (s : String) : Prop where
  /-- A document that holds the text, however it is written. -/
  text : ∀ text, Codec.string.ofText text = .ok s →
    (codec : Codec (Blob kind)).ofText text = (ofHex s).mapError .hex
  compact : (codec : Codec (Blob kind)).ofText (Codec.string.toText s) = (ofHex s).mapError .hex
  /-- The text as an opaque value. -/
  value : (codec : Codec (Blob kind)).ofValue (.string s) = (ofHex s).mapError .hex
  /-- The text as a word of a command, which is refused if it is no byte string. -/
  accepts : Cli.ValueKind.bytes.accepts s = (ofHex s : Except _ (Blob kind)).isOk
  word : ∀ (w : Cli.Words) option, w.value? option = some s →
    (w.blob? option : Option (Blob kind)) = (ofHex s).toOption
  /-- The text where a byte string of another kind is due. -/
  kinds : ∀ other, (ofHex s : Except _ (Blob other)).map bytes =
    (ofHex s : Except _ (Blob kind)).map bytes

/-- A text that holds a string holds the byte string that the string is read as. -/
theorem ofText_of_string {text s : String} (h : Codec.string.ofText text = .ok s) :
    (codec : Codec (Blob kind)).ofText text = (ofHex s).mapError .hex := by
  obtain ⟨hread, hend⟩ := Codec.ofText_eq_ok.mp h
  rw [Codec.ofText_of_end hend]
  simp only [codec, Codec.via, hread, Attempt.ok_bind]

theorem ofText_toText_string (s : String) :
    Codec.string.ofText (Codec.string.toText s) = .ok s :=
  (Codec.string_carries (o := .written) (n := 0) s).ofText_compact (by decide)

theorem readAlike (s : String) : ReadAlike kind s where
  text := fun _ h => ofText_of_string h
  compact := ofText_of_string (ofText_toText_string s)
  value := by
    rw [Codec.ofValue, Document.ofJson, codec, Codec.via]
    rfl
  accepts := by
    rw [Cli.ValueKind.accepts, ofHex, ofHex]
    cases Hex.decode (stripMarker s) <;> rfl
  word := by
    intro w option h
    rw [Cli.Words.blob?, h]
    rfl
  kinds := by
    intro other
    rw [ofHex, ofHex]
    cases Hex.decode (stripMarker s) <;> rfl

/-- A byte string is read back from its digits.  A text is read by the bytes that it has but
for one marker, and all readers of byte strings agree on it. -/
theorem read_by_digits :
    (∀ b : Blob kind, ofHex b.toHex = .ok b) ∧
      ∀ s, ReadAlike kind s ∧
        ∃ t, Unmarked s t ∧ Verdict t (ofHex s : Except Hex.Fault (Blob kind)) := by
  refine ⟨ofHex_toHex, ?_⟩
  intro s
  exact ⟨readAlike s, stripMarker s, unmarked_stripMarker s, verdict_ofHex s⟩

/-- Digits of either case behind a marker, and then a character of two bytes, the first of
which is no digit; from a record as from a document. -/
theorem read_by_digits_sample :
    Unmarked "0xA0é" "A0é" ∧
      "A0é".toUTF8.toList = [0x41, 0x30] ++ 0xC3 :: [0xA9] ∧
      (ofHex "0xA0é" : Except Hex.Fault TaskId) = .error (.badDigit 0xC3 2) ∧
      (codec : Codec TaskId).ofText (Codec.string.toText "0xA0é") =
        .error (.hex (.badDigit 0xC3 2)) := by
  obtain ⟨-, hread⟩ := @read_by_digits .task
  obtain ⟨halike, t, ht, hverdict⟩ := hread "0xA0é"
  have hmarked : "0x".toList <+: "0xA0é".toList := ⟨['A', '0', 'é'], rfl⟩
  have htail : t = "A0é" := by
    rcases ht with hs | ⟨hnot, -⟩
    · have hlist : "0x".toList ++ "A0é".toList = "0x".toList ++ t.toList := by
        rw [← String.toList_append (t := t), ← hs]
        rfl
      exact (String.toList_inj.mp (List.append_cancel_left hlist)).symm
    · exact absurd hmarked hnot
  have hbytes : t.toUTF8.toList = [0x41, 0x30] ++ 0xC3 :: [0xA9] := by
    rw [htail, Utf8.toList_toUTF8]
    rfl
  have hdigits : ∀ x ∈ ([0x41, 0x30] : List UInt8), Hex.IsDigit x :=
    List.forall_mem_cons.mpr ⟨by decide, List.forall_mem_singleton.mpr (by decide)⟩
  have hbad := hverdict.bad (by rw [hbytes]; rfl) _ _ _ hbytes hdigits (by decide)
  refine ⟨.inl rfl, htail ▸ hbytes, hbad, ?_⟩
  rw [halike.compact, hbad]
  rfl

end Blob

end Interchain
