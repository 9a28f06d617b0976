import Interchain.Config.Expansion
import Mathlib.Data.List.Infix

/-!
# References in texts

A text is read from the left, as characters that stand for themselves and as references.  If
all of its references are closed, it is expanded piece by piece: a reference becomes the value
of its variable, into which nothing more is read, and everything else stays.  A text has at
most one reference that is not closed, which is then the last thing in it, and which is
expanded as if it were closed at the end.
-/

namespace Interchain.Expansion

variable {env : Environment} {a b name : List Char}

/-! ## Texts with closed references -/

/-- Every reference in a text, as it is met from the left behind those before it, has a
closing brace. -/
inductive Closed : List Char → Prop
  | nil : Closed []
  /-- The first character does not begin a reference. -/
  | plain {c : Char} {rest : List Char} (opens : ¬ ['$', '\x7b'] <+: c :: rest)
      (closed : Closed rest) : Closed (c :: rest)
  /-- The name of a reference ends at the first closing brace. -/
  | reference {name rest : List Char} (ends : '\x7d' ∉ name) (closed : Closed rest) :
    Closed (reference name ++ rest)

/-- A reference to a variable of this name is met in a text. -/
def Refers (a name : List Char) : Prop :=
  ∃ before after, Closed before ∧ '\x7d' ∉ name ∧ a = before ++ reference name ++ after

/-- Putting a text in front of another makes no reference of its last character. -/
theorem not_opens_append {c : Char} (h : ¬ ['$', '\x7b'] <+: c :: a)
    (hb : b.head? ≠ some '\x7b') : ¬ ['$', '\x7b'] <+: c :: (a ++ b) := by
  rw [List.cons_prefix_cons] at h ⊢
  rintro ⟨rfl, hnext⟩
  cases a with
  | nil =>
    obtain ⟨rest, rfl⟩ := hnext
    exact hb rfl
  | cons d rest =>
    rw [List.cons_append, List.cons_prefix_cons] at hnext
    exact h ⟨rfl, List.cons_prefix_cons.mpr ⟨hnext.1, List.nil_prefix⟩⟩

/-- A text without the beginning of a reference has none that is not closed. -/
theorem closed_of_no_opening (h : ¬ ['$', '\x7b'] <:+: a) : Closed a := by
  induction a with
  | nil => exact .nil
  | cons c rest ih =>
    rw [List.infix_cons_iff, not_or] at h
    exact .plain h.1 (ih h.2)

/-- What stands behind a character that begins no reference is closed if the whole is. -/
theorem Closed.of_plain {c : Char} (h : Closed (c :: a)) (opens : ¬ ['$', '\x7b'] <+: c :: a) :
    Closed a := by
  generalize hwhole : c :: a = whole at h opens
  cases h with
  | nil => cases hwhole
  | plain _ closed =>
    obtain ⟨-, rfl⟩ := List.cons.inj hwhole
    exact closed
  | reference => exact absurd ⟨_, rfl⟩ opens

/-- A text is split in one way at its first closing brace. -/
theorem brace_unique {x y left right : List Char} (hx : '\x7d' ∉ x) (hy : '\x7d' ∉ y)
    (h : x ++ '\x7d' :: left = y ++ '\x7d' :: right) : left = right := by
  induction x generalizing y with
  | nil =>
    cases y with
    | nil => exact (List.cons.inj h).2
    | cons d y => exact absurd ((List.cons.inj h).1 ▸ List.mem_cons_self) hy
  | cons c x ih =>
    cases y with
    | nil => exact absurd ((List.cons.inj h).1 ▸ List.mem_cons_self) hx
    | cons d y =>
      exact ih (fun hc => hx (List.mem_cons_of_mem _ hc)) (fun hc => hy (List.mem_cons_of_mem _ hc))
        (List.cons.inj h).2

/-- What stands behind a reference is closed if the whole is. -/
theorem Closed.of_reference (ends : '\x7d' ∉ name) (h : Closed (Expansion.reference name ++ a)) :
    Closed a := by
  generalize hwhole : Expansion.reference name ++ a = whole at h
  cases h with
  | nil => cases hwhole
  | plain opens _ => exact absurd (hwhole ▸ ⟨_, rfl⟩) opens
  | @reference name' rest ends' closed =>
    have hnames : name ++ '\x7d' :: a = name' ++ '\x7d' :: rest := by
      simpa [Expansion.reference] using hwhole
    exact brace_unique ends ends' hnames ▸ closed

/-- The beginning of a reference without a closing brace behind it. -/
theorem not_closed_open (ha : Closed a) (hb : '\x7d' ∉ b) :
    ¬ Closed (a ++ '$' :: '\x7b' :: b) := by
  induction ha with
  | nil =>
    intro h
    generalize hwhole : [] ++ '$' :: '\x7b' :: b = whole at h
    cases h with
    | nil => cases hwhole
    | plain opens _ => exact opens (hwhole ▸ ⟨_, rfl⟩)
    | @reference name rest _ _ =>
      have hrest : b = name ++ '\x7d' :: rest := by
        simpa [reference] using hwhole
      exact hb (hrest ▸ List.mem_append_right _ List.mem_cons_self)
  | plain opens _ ih =>
    intro h
    exact ih (h.of_plain (not_opens_append opens (by simp)))
  | reference ends _ ih =>
    intro h
    rw [List.append_assoc] at h
    exact ih (h.of_reference ends)

/-- A text has closed references only, or ends in one that is not closed. -/
theorem closed_or_open : ∀ a : List Char, Closed a ∨ ∃ before left, Closed before ∧
    '\x7d' ∉ left ∧ a = before ++ '$' :: '\x7b' :: left
  | [] => .inl .nil
  | c :: rest => by
    by_cases opens : ['$', '\x7b'] <+: c :: rest
    · obtain ⟨left, hleft⟩ := opens
      by_cases hname : '\x7d' ∈ left
      · -- The reference ends at the first closing brace, and what is behind it is shorter.
        obtain ⟨name, after, rfl, ends⟩ := List.eq_append_cons_of_mem hname
        have hwhole : c :: rest = reference name ++ after := by
          rw [← hleft]
          simp [reference]
        have hshorter : after.length < (c :: rest).length := by
          rw [hwhole, List.length_append, reference, List.length_cons]
          omega
        rw [hwhole]
        rcases closed_or_open after with hafter | ⟨before, left, hbefore, hopen, rfl⟩
        · exact .inl (.reference ends hafter)
        · refine .inr ⟨reference name ++ before, left, .reference ends hbefore, hopen, ?_⟩
          rw [List.append_assoc]
      · exact .inr ⟨[], left, .nil, hname, hleft.symm⟩
    · rcases closed_or_open rest with hrest | ⟨before, left, hbefore, hopen, rfl⟩
      · exact .inl (.plain opens hrest)
      · refine .inr ⟨c :: before, left, .plain ?_ hbefore, hopen, rfl⟩
        rintro ⟨tail, htail⟩
        apply opens
        exact ⟨tail ++ '$' :: '\x7b' :: left, by rw [← List.append_assoc, htail]; rfl⟩
termination_by a => a.length
decreasing_by
  · exact hshorter
  · exact Nat.lt_succ_self _

/-! ## Scanning -/

theorem scan_plain {c : Char} {rest : List Char} (h : ¬ ['$', '\x7b'] <+: c :: rest) :
    scan env none (c :: rest) = c :: scan env none rest := by
  rw [scan]
  rintro rest' rfl rfl
  exact h ⟨rest', rfl⟩

/-- A name is read up to the first closing brace. -/
theorem scan_name (h : '\x7d' ∉ name) (read rest : List Char) :
    scan env (some read) (name ++ '\x7d' :: rest) =
      value env (read.reverse ++ name) ++ scan env none rest := by
  induction name generalizing read with
  | nil => rw [List.nil_append, scan, List.append_nil]
  | cons c name ih =>
    rw [List.mem_cons, not_or] at h
    rw [List.cons_append, scan, ih h.2, List.reverse_cons, List.append_assoc, List.singleton_append]
    exact fun hc => h.1 hc.symm

/-- Without a closing brace a name is read up to the end. -/
theorem scan_left (h : '\x7d' ∉ name) (read : List Char) :
    scan env (some read) name = value env (read.reverse ++ name) := by
  induction name generalizing read with
  | nil => rw [scan, List.append_nil]
  | cons c name ih =>
    rw [List.mem_cons, not_or] at h
    rw [scan, ih h.2, List.reverse_cons, List.append_assoc, List.singleton_append]
    exact fun hc => h.1 hc.symm

theorem scan_reference (h : '\x7d' ∉ name) (rest : List Char) :
    scan env none (reference name ++ rest) = value env name ++ scan env none rest := by
  rw [reference, List.cons_append, List.cons_append, List.append_assoc, scan, List.singleton_append,
    scan_name h]
  rfl

/-- What follows closed references is scanned on its own. -/
theorem scan_append (h : Closed a) (hb : b.head? ≠ some '\x7b') :
    scan env none (a ++ b) = scan env none a ++ scan env none b := by
  induction h with
  | nil => rw [List.nil_append, scan, List.nil_append]
  | plain opens _ ih =>
    rw [List.cons_append, scan_plain (not_opens_append opens hb), ih, scan_plain opens,
      List.cons_append]
  | reference ends _ ih =>
    rw [List.append_assoc, scan_reference ends, ih, scan_reference ends, List.append_assoc]

/-- A text stays as it is if no variable that it refers to is set. -/
theorem scan_eq_self (h : Closed a)
    (hnames : ∀ name, Refers a name → value env name = reference name) :
    scan env none a = a := by
  induction h with
  | nil => rw [scan]
  | @plain c rest opens _ ih =>
    rw [scan_plain opens, ih]
    rintro name ⟨before, after, hbefore, ends, rfl⟩
    refine hnames name ⟨c :: before, after, .plain ?_ hbefore, ends, rfl⟩
    rintro ⟨tail, htail⟩
    apply opens
    exact ⟨tail ++ (reference name ++ after), by rw [← List.append_assoc, htail]; simp⟩
  | @reference name rest ends _ ih =>
    rw [scan_reference ends, hnames name ⟨[], rest, .nil, ends, rfl⟩, ih]
    rintro name' ⟨before, after, hbefore, ends', rfl⟩
    exact hnames name' ⟨reference name ++ before, after, .reference ends hbefore, ends', by simp⟩

/-! ## Texts -/

@[simp] theorem toList_expand (s : String) : (expand env s).toList = scan env none s.toList := by
  rw [expand, String.toList_ofList]

/-- What the reference to a variable becomes: its value, or the reference itself. -/
theorem value_eq_getD (n : String) :
    value env n.toList = ((env n).getD ("$\x7b" ++ n ++ "\x7d")).toList := by
  rw [value, String.ofList_toList]
  cases env n with
  | none => simp [reference]
  | some v => rfl

/-- A text with closed references is expanded piece by piece.  A reference becomes the value
of its variable as it stands, or remains if that is not set; all other text remains. -/
theorem expand_references (env : Environment) :
    (∀ a n b : String, Closed a.toList → '\x7d' ∉ n.toList →
      expand env (a ++ "$\x7b" ++ n ++ "\x7d" ++ b) =
        expand env a ++ (env n).getD ("$\x7b" ++ n ++ "\x7d") ++ expand env b) ∧
      (∀ a : String, ¬ "$\x7b".toList <:+: a.toList → expand env a = a) ∧
      ∀ a : String, Closed a.toList → (∀ n : String, Refers a.toList n.toList → env n = none) →
        expand env a = a := by
  have hself : ∀ a : String, Closed a.toList →
      (∀ n : String, Refers a.toList n.toList → env n = none) → expand env a = a := by
    intro a ha hnames
    rw [← String.toList_inj, toList_expand]
    apply scan_eq_self ha
    intro name hname
    rw [value, hnames (String.ofList name) (by rwa [String.toList_ofList])]
  refine ⟨?_, ?_, hself⟩
  · intro a n b ha hn
    have hwhole : (a ++ "$\x7b" ++ n ++ "\x7d" ++ b).toList =
        a.toList ++ (reference n.toList ++ b.toList) := by
      simp [reference]
    rw [← String.toList_inj, toList_expand, hwhole, scan_append ha (by simp [reference]),
      scan_reference hn, value_eq_getD]
    simp
  · intro a ha
    apply hself a (closed_of_no_opening ha)
    rintro n ⟨before, after, -, -, hsplit⟩
    refine absurd ⟨before, n.toList ++ '\x7d' :: after, ?_⟩ ha
    rw [hsplit]
    simp [reference]

/-- Dollar signs before a reference, a value that looks like a reference, and a name that is
not set. -/
theorem expand_references_sample :
    let env : Environment := fun n =>
      if n = "X" then some "$\x7bY\x7d" else if n = "Y" then some "y" else none
    Closed "$$".toList ∧ expand env "$$$\x7bX\x7d$\x7bY\x7d$" = "$$$\x7bY\x7dy$" ∧
      Closed "$$\x7bX\x7d".toList ∧ expand .empty "$$\x7bX\x7d" = "$$\x7bX\x7d" := by
  intro env
  have hdollars : Closed "$$".toList := closed_of_no_opening (by decide)
  have hreference : Closed "$$\x7bX\x7d".toList :=
    .plain (by decide) (@Closed.reference ['X'] [] (by decide) .nil)
  obtain ⟨hexpand, hplain, -⟩ := expand_references env
  have hx := hexpand "$$" "X" "$\x7bY\x7d$" hdollars (by decide)
  have hy := hexpand "" "Y" "$" .nil (by decide)
  rw [hplain "" (by decide), hplain "$" (by decide)] at hy
  refine ⟨hdollars, ?_, hreference, ?_⟩
  · rw [hplain "$$" (by decide)] at hx
    exact hx.trans (congrArg ("$$" ++ "$\x7bY\x7d" ++ ·) hy)
  · exact (expand_references .empty).2.2 _ hreference fun _ _ => rfl

/-- What a text ends in that is no closed reference is taken to be one: it is expanded as if
the brace stood at the end, so it remains as it is only if its name stands for just that. -/
theorem expand_open (env : Environment) :
    (∀ s : String, ¬ Closed s.toList ↔ ∃ a t : String, Closed a.toList ∧ '\x7d' ∉ t.toList ∧
      s = a ++ "$\x7b" ++ t) ∧
      ∀ a t : String, Closed a.toList → '\x7d' ∉ t.toList →
        expand env (a ++ "$\x7b" ++ t) =
          expand env a ++ (env t).getD ("$\x7b" ++ t ++ "\x7d") ∧
        expand env (a ++ "$\x7b" ++ t) = expand env (a ++ "$\x7b" ++ t ++ "\x7d") ∧
        (expand env (a ++ "$\x7b" ++ t) = expand env a ++ ("$\x7b" ++ t) ↔
          env t = some ("$\x7b" ++ t)) := by
  constructor
  · intro s
    constructor
    · intro h
      obtain ⟨before, left, hbefore, hopen, hsplit⟩ := (closed_or_open s.toList).resolve_left h
      refine ⟨String.ofList before, String.ofList left, ?_, ?_, ?_⟩
      · rwa [String.toList_ofList]
      · rwa [String.toList_ofList]
      · rw [← String.toList_inj, hsplit]
        simp
    · rintro ⟨a, t, ha, ht, rfl⟩
      have hwhole : (a ++ "$\x7b" ++ t).toList = a.toList ++ '$' :: '\x7b' :: t.toList := by
        simp
      rw [hwhole]
      exact not_closed_open ha ht
  · intro a t ha ht
    have hwhole : (a ++ "$\x7b" ++ t).toList = a.toList ++ '$' :: '\x7b' :: t.toList := by
      simp
    have hclosed : (a ++ "$\x7b" ++ t ++ "\x7d").toList =
        a.toList ++ (reference t.toList ++ []) := by
      simp [reference]
    have hopen : expand env (a ++ "$\x7b" ++ t) =
        expand env a ++ (env t).getD ("$\x7b" ++ t ++ "\x7d") := by
      rw [← String.toList_inj, toList_expand, hwhole, scan_append ha (by simp), scan,
        scan_left ht, List.reverse_nil, List.nil_append, value_eq_getD]
      simp
    refine ⟨hopen, ?_, ?_⟩
    · rw [hopen, ← String.toList_inj, toList_expand, hclosed, scan_append ha (by simp [reference]),
        scan_reference ht, value_eq_getD, scan]
      simp
    · rw [hopen, String.append_right_inj]
      cases hvalue : env t with
      | none => simp [← String.toList_inj]
      | some v => simp

/-- An unclosed reference behind closed ones, in an environment in which all names are set. -/
theorem expand_open_sample :
    Closed "$\x7bA\x7d/".toList ∧
      expand (fun n => some n) ("$\x7bA\x7d/" ++ "$\x7b" ++ "B$\x7b") = "A/B$\x7b" ∧
      ¬ Closed ("$\x7bA\x7d/" ++ "$\x7b" ++ "B$\x7b").toList := by
  have hclosed : Closed "$\x7bA\x7d/".toList :=
    @Closed.reference ['A'] ['/'] (by decide) (.plain (by decide) .nil)
  obtain ⟨hiff, hopen⟩ := expand_open fun n => some n
  refine ⟨hclosed, ?_, ?_⟩
  · rw [(hopen _ "B$\x7b" hclosed (by decide)).1]
    rfl
  · exact (hiff _).mpr ⟨_, _, hclosed, by decide, rfl⟩

/-- An address that ends in an unclosed reference gets a brace, or the value of the variable. -/
theorem open_reference_altered :
    expand .empty ("https://s/" ++ "$\x7b" ++ "TOKEN") = "https://s/$\x7bTOKEN\x7d" ∧
      expand (fun _ => some "secret") ("https://s/" ++ "$\x7b" ++ "TOKEN") = "https://s/secret" ∧
      ¬ ∀ (env : Environment) (a t : String), Closed a.toList → '\x7d' ∉ t.toList →
        expand env (a ++ "$\x7b" ++ t) = expand env a ++ ("$\x7b" ++ t) := by
  refine ⟨by decide, by decide, ?_⟩
  intro h
  have hunset := h .empty "https://s/" "TOKEN" (closed_of_no_opening (by decide)) (by decide)
  exact absurd hunset (by decide)

end Interchain.Expansion
