import Interchain.Proofs.Json.Token

/-!
# Documents are read as they are written

The compact text of a document is read as that document, with nothing left over, if
its arrays and objects are nested no deeper than a reader goes and its numbers are
integers of no more than 300 digits.
-/

namespace Interchain

/-- A document with at most so many levels of arrays and objects, whose numbers are
integers that are read whatever their value. -/
inductive Json.Fits : (levels : Nat) → Json → Prop
  | null {n : Nat} : Fits n .null
  | bool {n : Nat} (b : Bool) : Fits n (.bool b)
  | int {n : Nat} {i : Int}
      (h : (Number.digitsOf i.natAbs).length ≤ Document.Parser.safeDigits) :
      Fits n (.number (.int i))
  | string {n : Nat} (s : String) : Fits n (.string s)
  | array {n : Nat} {items : List Json} (h : ∀ v ∈ items, Fits n v) : Fits (n + 1) (.array items)
  | object {n : Nat} {members : List (String × Json)} (h : ∀ m ∈ members, Fits n m.2) :
      Fits (n + 1) (.object members)

/-- A document that fits also fits where there is more room. -/
theorem Json.Fits.mono {m n : Nat} {j : Json} (h : j.Fits m) (hmn : m ≤ n) : j.Fits n := by
  induction h generalizing n with
  | null => exact .null
  | bool b => exact .bool b
  | int h => exact .int h
  | string s => exact .string s
  | array _ ih =>
    obtain ⟨n, rfl⟩ := Nat.exists_eq_add_one_of_ne_zero (Nat.ne_zero_of_lt hmn)
    apply Json.Fits.array
    intro v hv
    exact ih v hv (Nat.le_of_succ_le_succ hmn)
  | object _ ih =>
    obtain ⟨n, rfl⟩ := Nat.exists_eq_add_one_of_ne_zero (Nat.ne_zero_of_lt hmn)
    apply Json.Fits.object
    intro m hm
    exact ih m hm (Nat.le_of_succ_le_succ hmn)

namespace Document.Parser

theorem skipSpace_cons {c : Char} (h : isSpace c = false) (cs : List Char) :
    skipSpace (c :: cs) = c :: cs := by
  simp [skipSpace, h]

theorem digit_ne {c : Char} (h : c.isDigit = true) :
    isSpace c = false ∧ c ≠ 'n' ∧ c ≠ 't' ∧ c ≠ 'f' ∧ c ≠ '"' ∧ c ≠ '-' ∧ c ≠ '[' ∧
      c ≠ '\x7b' ∧ c ≠ ']' := by
  refine ⟨?_, ?_, ?_, ?_, ?_, ?_, ?_, ?_, ?_⟩
  · rw [isSpace, Bool.eq_false_iff]
    intro hs
    simp only [Bool.or_eq_true, beq_iff_eq] at hs
    obtain ((rfl | rfl) | rfl) | rfl := hs <;> cases h
  all_goals (rintro rfl; cases h)

/-- The text of an integer begins with a digit or a minus sign. -/
theorem integer_cases (i : Int) :
    (∃ n : Nat, i = n ∧ ∃ c cs, c.isDigit = true ∧ Decimal.natural n = c :: cs ∧
      Decimal.integer i = c :: cs) ∨
    (∃ n : Nat, n ≠ 0 ∧ i = -n ∧ Decimal.integer i = '-' :: Decimal.natural n) := by
  by_cases h : i < 0
  · refine .inr ⟨i.natAbs, by omega, by omega, ?_⟩
    rw [Decimal.integer, if_pos h]
  · refine .inl ⟨i.natAbs, by omega, ?_⟩
    rw [Decimal.integer, if_neg h]
    cases hd : Decimal.natural i.natAbs with
    | nil => exact absurd hd Nat.toDigits_ne_nil
    | cons c cs => exact ⟨c, cs, isDigit_of_mem_natural (hd ▸ List.mem_cons_self), rfl, rfl⟩

/-- An integer is read as it was written. -/
theorem value_integer {i : Int} (h : (Number.digitsOf i.natAbs).length ≤ safeDigits)
    {rest : List Char} (hrest : Delimited rest) (depth fuel : Nat) :
    value depth (fuel + 1) (Decimal.integer i ++ rest) = (.number (.ok (.int i)), some rest) := by
  obtain ⟨n, rfl, c, cs, hc, hn, hi⟩ | ⟨n, hn, rfl, hi⟩ := integer_cases i
  · obtain ⟨hs, h1, h2, h3, h4, h5, h6, h7, -⟩ := digit_ne hc
    have hread := unsigned_natural n false hrest h (by simp)
    rw [hn, List.cons_append] at hread
    rw [hi, List.cons_append, value, skipSpace_cons hs]
    simp [hc, hread]
  · rw [hi, List.cons_append, value, skipSpace_cons (by decide)]
    rw [Int.natAbs_neg] at h
    exact unsigned_natural n true hrest h fun _ => hn

/-- The text of a document begins with a character of ASCII that is neither white space
nor a bracket that closes. -/
theorem render_eq_cons {n : Nat} {j : Json} (h : j.Fits n) :
    ∃ c cs, j.render = c :: cs ∧ isSpace c = false ∧ c ≠ ']' ∧ c.toNat < 128 := by
  cases h with
  | null => exact ⟨'n', _, rfl, rfl, by decide⟩
  | bool b => cases b <;> exact ⟨_, _, rfl, rfl, by decide⟩
  | @int n i h =>
    obtain ⟨n, -, c, cs, hc, -, hi⟩ | ⟨n, -, -, hi⟩ := integer_cases i
    · obtain ⟨hs, -, -, -, -, -, -, -, hb⟩ := digit_ne hc
      have hlt : c.toNat ≤ 57 := by
        simp only [Char.isDigit, Bool.and_eq_true, decide_eq_true_eq] at hc
        exact hc.2
      exact ⟨c, cs, hi, hs, hb, by omega⟩
    · exact ⟨'-', _, hi, rfl, by decide⟩
  | string s => exact ⟨'"', _, rfl, rfl, by decide⟩
  | @array n items h => cases items <;> exact ⟨'[', _, rfl, rfl, by decide⟩
  | @object n members h =>
    obtain _ | ⟨⟨k, v⟩, rest⟩ := members <;> exact ⟨'\x7b', _, rfl, rfl, by decide⟩

/-! ## Items -/

variable {depth fuel : Nat} {cs left : List Char}

theorem items_close (first : Bool) :
    items depth (fuel + 1) first (']' :: cs) = ([], .closed, some cs) := by
  rw [items.eq_def]
  simp [skipSpace_cons (show isSpace ']' = false by decide)]

/-- The first item is read where it stands. -/
theorem items_first {c : Char} (hs : isSpace c = false) (hc : c ≠ ']') :
    items depth (fuel + 1) true (c :: cs) = item depth fuel (c :: cs) := by
  rw [items.eq_def]
  simp [skipSpace_cons hs, hc]

/-- A further item is read behind its comma. -/
theorem items_further {c : Char} (hs : isSpace c = false) (hc : c ≠ ']') :
    items depth (fuel + 1) false (',' :: c :: cs) = item depth fuel (c :: cs) := by
  rw [items.eq_def]
  simp [skipSpace_cons (show isSpace ',' = false by decide), skipSpace_cons hs, hc]

/-- An item is read with those after it. -/
theorem item_of_value {d : Document} {ds : List Document} {close : Close}
    {rest : Option (List Char)} (hd : value depth fuel cs = (d, some left))
    (hds : items depth fuel false left = (ds, close, rest)) :
    item depth (fuel + 1) cs = (d :: ds, close, rest) := by
  rw [item, hd]
  simp only [hds]

/-- An array is read with its items. -/
theorem value_array {ds : List Document} {close : Close} {rest : Option (List Char)}
    (h : items depth fuel true cs = (ds, close, rest)) :
    value (depth + 1) (fuel + 1) ('[' :: cs) = (.array ds close, rest) := by
  rw [value, skipSpace_cons (by decide)]
  simp only [Nat.add_sub_cancel, h]
  rfl

/-! ## Members -/

theorem members_close (first : Bool) :
    members depth (fuel + 1) first ('\x7d' :: cs) = ([], .closed, some cs) := by
  rw [members.eq_def]
  simp [skipSpace_cons (show isSpace '\x7d' = false by decide)]

theorem members_first :
    members depth (fuel + 1) true ('"' :: cs) = member depth fuel ('"' :: cs) := by
  rw [members.eq_def]
  simp [skipSpace_cons (show isSpace '"' = false by decide)]

theorem members_further :
    members depth (fuel + 1) false (',' :: '"' :: cs) = member depth fuel ('"' :: cs) := by
  rw [members.eq_def]
  simp [skipSpace_cons (show isSpace ',' = false by decide),
    skipSpace_cons (show isSpace '"' = false by decide)]

/-- A member is read with those after it. -/
theorem member_of_value {k : String} {d : Document}
    {ms : List (Except Malformed String × Document)} {close : Close} {rest : Option (List Char)}
    (hd : value depth fuel cs = (d, some left))
    (hms : members depth fuel false left = (ms, close, rest)) :
    member depth (fuel + 1) (Json.renderString k ++ ':' :: cs) =
      ((.ok k, d) :: ms, close, rest) := by
  rw [Json.renderString]
  simp only [List.cons_append, List.append_assoc, List.nil_append]
  rw [member, string_renderString]
  simp only [skipSpace_cons (show isSpace ':' = false by decide), hd, hms]

/-- An object is read with its members. -/
theorem value_object {ms : List (Except Malformed String × Document)} {close : Close}
    {rest : Option (List Char)} (h : members depth fuel true cs = (ms, close, rest)) :
    value (depth + 1) (fuel + 1) ('\x7b' :: cs) = (.object ms close, rest) := by
  rw [value, skipSpace_cons (by decide)]
  simp only [Nat.add_sub_cancel, h]
  rfl

/-! ## Documents -/

theorem word_append (d : Document) (es left : List Char) :
    word d es (es ++ left) = (d, some left) := by
  induction es with
  | nil => rfl
  | cons e es ih => rw [List.cons_append, word, if_pos rfl, ih]

theorem delimited_renderItems (vs : List Json) (left : List Char) :
    Delimited (Json.renderItems vs ++ ']' :: left) := by
  cases vs with
  | nil => exact delimited_bracket _
  | cons v vs => exact delimited_comma _

theorem delimited_renderMembers (ms : List (String × Json)) (left : List Char) :
    Delimited (Json.renderMembers ms ++ '\x7d' :: left) := by
  obtain _ | ⟨⟨k, v⟩, ms⟩ := ms
  · exact delimited_brace _
  · exact delimited_comma _

/-- A text that has room for a document has a character. -/
theorem exists_fuel {n fuel : Nat} {j : Json} (h : j.Fits n) (hf : 2 * j.render.length ≤ fuel) :
    ∃ f, fuel = f + 1 := by
  obtain ⟨c, cs, hcs, -⟩ := render_eq_cons h
  rw [hcs, List.length_cons] at hf
  exact Nat.exists_eq_add_one_of_ne_zero (by omega)

mutual

/-- A document is read as it was written, up to what delimits it. -/
theorem value_render : ∀ (j : Json) (depth fuel : Nat) (left : List Char), j.Fits depth →
    2 * j.render.length ≤ fuel → Delimited left →
    value depth fuel (j.render ++ left) = (ofJson j, some left)
  | .null, _, _, left, h, hf, _ => by
    obtain ⟨fuel, rfl⟩ := exists_fuel h hf
    simp only [Json.render, List.cons_append]
    rw [value, skipSpace_cons (by decide)]
    exact word_append .null ['u', 'l', 'l'] left
  | .bool true, _, _, left, h, hf, _ => by
    obtain ⟨fuel, rfl⟩ := exists_fuel h hf
    simp only [Json.render, List.cons_append]
    rw [value, skipSpace_cons (by decide)]
    exact word_append (.bool true) ['r', 'u', 'e'] left
  | .bool false, _, _, left, h, hf, _ => by
    obtain ⟨fuel, rfl⟩ := exists_fuel h hf
    simp only [Json.render, List.cons_append]
    rw [value, skipSpace_cons (by decide)]
    exact word_append (.bool false) ['a', 'l', 's', 'e'] left
  | .number n, depth, _, _, h, hf, hl => by
    obtain ⟨fuel, rfl⟩ := exists_fuel h hf
    cases h with
    | int hi => exact value_integer hi hl depth fuel
  | .string s, _, _, left, h, hf, _ => by
    obtain ⟨fuel, rfl⟩ := exists_fuel h hf
    simp only [Json.render, Json.renderString, List.cons_append, List.append_assoc]
    rw [value, skipSpace_cons (by decide)]
    exact string_renderString s left
  | .array [], _, fuel, left, h, hf, _ => by
    cases h with
    | @array n _ h =>
      have hf : 4 ≤ fuel := hf
      obtain ⟨fuel, rfl⟩ := Nat.exists_eq_add_of_le' (show 2 ≤ fuel by omega)
      exact value_array (items_close true)
  | .array (v :: vs), _, fuel, left, h, hf, _ => by
    cases h with
    | @array n _ h =>
      simp only [Json.render, List.length_cons, List.length_append, List.length_nil] at hf
      obtain ⟨fuel, rfl⟩ := Nat.exists_eq_add_of_le' (show 3 ≤ fuel by omega)
      have hv := value_render v n fuel _ (h v List.mem_cons_self) (by omega)
        (delimited_renderItems vs left)
      have hvs := items_render vs n fuel left (fun w hw => h w (List.mem_cons_of_mem _ hw))
        (by omega)
      obtain ⟨c, cs, hcs, hs, hc, -⟩ := render_eq_cons (h v List.mem_cons_self)
      have hitem := item_of_value hv hvs
      rw [hcs] at hitem
      simp only [Json.render, List.cons_append, List.append_assoc, List.nil_append, hcs]
      exact value_array ((items_first hs hc).trans hitem)
  | .object [], _, fuel, left, h, hf, _ => by
    cases h with
    | @object n _ h =>
      have hf : 4 ≤ fuel := hf
      obtain ⟨fuel, rfl⟩ := Nat.exists_eq_add_of_le' (show 2 ≤ fuel by omega)
      exact value_object (members_close true)
  | .object ((k, v) :: ms), _, fuel, left, h, hf, _ => by
    cases h with
    | @object n _ h =>
      simp only [Json.render, List.length_cons, List.length_append, List.length_nil] at hf
      obtain ⟨fuel, rfl⟩ := Nat.exists_eq_add_of_le' (show 3 ≤ fuel by omega)
      have hv := value_render v n fuel _ (h (k, v) List.mem_cons_self) (by omega)
        (delimited_renderMembers ms left)
      have hms := members_render ms n fuel left (fun m hm => h m (List.mem_cons_of_mem _ hm))
        (by omega)
      have hmember := member_of_value (k := k) hv hms
      simp only [Json.render, Json.renderString, List.cons_append, List.append_assoc,
        List.nil_append] at hmember ⊢
      exact value_object (members_first.trans hmember)

/-- The items of an array after the first are read as they were written. -/
theorem items_render : ∀ (vs : List Json) (depth fuel : Nat) (left : List Char),
    (∀ v ∈ vs, v.Fits depth) → 2 * (Json.renderItems vs).length + 1 ≤ fuel →
    items depth fuel false (Json.renderItems vs ++ ']' :: left) = (ofItems vs, .closed, some left)
  | [], _, fuel + 1, _, _, _ => items_close false
  | v :: vs, depth, fuel, left, h, hf => by
    simp only [Json.renderItems, List.length_cons, List.length_append] at hf
    obtain ⟨fuel, rfl⟩ := Nat.exists_eq_add_of_le' (show 2 ≤ fuel by omega)
    have hv := value_render v depth fuel _ (h v List.mem_cons_self) (by omega)
      (delimited_renderItems vs left)
    have hvs := items_render vs depth fuel left (fun w hw => h w (List.mem_cons_of_mem _ hw))
      (by omega)
    obtain ⟨c, cs, hcs, hs, hc, -⟩ := render_eq_cons (h v List.mem_cons_self)
    have hitem := item_of_value hv hvs
    rw [hcs] at hitem
    simp only [Json.renderItems, List.cons_append, List.append_assoc, hcs]
    exact (items_further hs hc).trans hitem

/-- The members of an object after the first are read as they were written. -/
theorem members_render : ∀ (ms : List (String × Json)) (depth fuel : Nat) (left : List Char),
    (∀ m ∈ ms, m.2.Fits depth) → 2 * (Json.renderMembers ms).length + 1 ≤ fuel →
    members depth fuel false (Json.renderMembers ms ++ '\x7d' :: left) =
      (ofMembers ms, .closed, some left)
  | [], _, fuel + 1, _, _, _ => members_close false
  | (k, v) :: ms, depth, fuel, left, h, hf => by
    simp only [Json.renderMembers, List.length_cons, List.length_append] at hf
    obtain ⟨fuel, rfl⟩ := Nat.exists_eq_add_of_le' (show 2 ≤ fuel by omega)
    have hv := value_render v depth fuel _ (h (k, v) List.mem_cons_self) (by omega)
      (delimited_renderMembers ms left)
    have hms := members_render ms depth fuel left (fun m hm => h m (List.mem_cons_of_mem _ hm))
      (by omega)
    have hmember := member_of_value (k := k) hv hms
    simp only [Json.renderMembers, Json.renderString, List.cons_append, List.append_assoc,
      List.nil_append] at hmember ⊢
    exact members_further.trans hmember

end

end Document.Parser

/-- The compact text of a document is read as that document, and nothing is left
over. -/
theorem Document.ofText_compact {j : Json} (h : j.Fits Parser.maxDepth) :
    Document.ofText j.compact = (ofJson j, false) := by
  have hread := Parser.value_render j Parser.maxDepth (2 * j.render.length + 2) [] h (by omega)
    Parser.delimited_nil
  rw [List.append_nil] at hread
  simp [Document.ofText, Json.compact, hread]
  rfl

end Interchain
