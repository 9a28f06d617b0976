import Interchain.Endpoint.Url
import Mathlib.Data.List.Basic

/-!
# References that end in a word

References to the actions on a contract differ only in the word at their end.  Whatever
stands before it, they resolve to addresses that differ in just that word, be it at the end
of the path, of the query or of the fragment.  So where an address can be sent to, those
with a shorter word can be as well.
-/

namespace Interchain

namespace Split

/-- A text behind a separator is a piece, if it has no separator itself. -/
theorem pieces_append_cons {separator : Char} {word : List Char} (h : separator ∉ word)
    (cs : List Char) :
    pieces separator (cs ++ separator :: word) = pieces separator cs ++ [word] := by
  have hword : pieces separator word = [word] := by
    induction word with
    | nil => rfl
    | cons c word ih =>
      rw [List.mem_cons, not_or] at h
      have hc : c ≠ separator := Ne.symm h.1
      have hrest := ih h.2
      simp only [pieces, List.foldr_cons, if_neg hc] at hrest ⊢
      rw [hrest]
  induction cs with
  | nil => rw [List.nil_append, pieces_cons_self, hword]; rfl
  | cons c cs ih =>
    simp only [pieces, List.cons_append, List.foldr_cons] at ih ⊢
    rw [ih]
    split
    · rfl
    · have hne := pieces_ne_nil separator cs
      simp only [pieces] at hne
      split
      · next heq => simp at heq
      · next heq =>
        cases hp : List.foldr _ _ cs with
        | nil => exact absurd hp hne
        | cons piece rest =>
          rw [hp, List.cons_append, List.cons.injEq] at heq
          obtain ⟨rfl, rfl⟩ := heq
          rfl

end Split

namespace Percent

theorem encode_append (set : Char → Bool) (cs ds : List Char) :
    encode set (cs ++ ds) = encode set cs ++ encode set ds :=
  List.flatMap_append

theorem encode_of_forall {set : Char → Bool} {cs : List Char} (h : ∀ c ∈ cs, set c = false) :
    encode set cs = cs := by
  induction cs with
  | nil => rfl
  | cons c cs ih =>
    have hrest := ih fun d hd => h d (List.mem_cons_of_mem _ hd)
    rw [encode] at hrest ⊢
    rw [List.flatMap_cons, h c List.mem_cons_self, hrest]
    rfl

end Percent

/-! ## Words -/

/-- Lower-case letters of ASCII, as which the actions on a contract are named. -/
structure IsWord (cs : List Char) : Prop where
  ne_nil : cs ≠ []
  isLower : ∀ c ∈ cs, c.isLower = true

/-- A letter is neither dropped from a reference nor encoded in it, and it neither ends a
part of it nor makes a segment that leads elsewhere. -/
theorem letter_spec {c : Char} (h : c.isLower = true) :
    (Url.isEdge c = false ∧ (c ≠ '\t' ∧ c ≠ '\n' ∧ c ≠ '\r')) ∧
      (c ≠ '#' ∧ c ≠ '?' ∧ c ≠ '/' ∧ c ≠ '\\') ∧ (c.toLower ≠ '.' ∧ c.toLower ≠ '%') ∧
      Percent.inPath c = false ∧ Percent.inSpecialQuery c = false ∧
      Percent.inFragment c = false := by
  have hall : ∀ n < 26, (Url.isEdge (Char.ofNat (97 + n)) = false ∧
      (Char.ofNat (97 + n) ≠ '\t' ∧ Char.ofNat (97 + n) ≠ '\n' ∧ Char.ofNat (97 + n) ≠ '\r')) ∧
      (Char.ofNat (97 + n) ≠ '#' ∧ Char.ofNat (97 + n) ≠ '?' ∧ Char.ofNat (97 + n) ≠ '/' ∧
        Char.ofNat (97 + n) ≠ '\\') ∧
      ((Char.ofNat (97 + n)).toLower ≠ '.' ∧ (Char.ofNat (97 + n)).toLower ≠ '%') ∧
      Percent.inPath (Char.ofNat (97 + n)) = false ∧
      Percent.inSpecialQuery (Char.ofNat (97 + n)) = false ∧
      Percent.inFragment (Char.ofNat (97 + n)) = false := by decide
  have hbounds : (decide ('a'.val ≤ c.val) && decide (c.val ≤ 'z'.val)) = true := h
  have hc : 97 ≤ c.toNat ∧ c.toNat ≤ 122 := by
    rw [Bool.and_eq_true, decide_eq_true_eq, decide_eq_true_eq] at hbounds
    exact hbounds
  have hof : Char.ofNat (97 + (c.toNat - 97)) = c := by
    rw [Nat.add_sub_cancel' hc.1, Char.ofNat_toNat]
  simpa only [hof] using hall (c.toNat - 97) (by omega)

namespace IsWord

variable {w : List Char}

theorem notMem (hw : IsWord w) {c : Char} (hc : c.isLower = false) : c ∉ w := by
  intro hmem
  rw [hw.isLower c hmem] at hc
  cases hc

theorem encode_inPath (hw : IsWord w) : Percent.encode Percent.inPath w = w :=
  Percent.encode_of_forall fun c hc => (letter_spec (hw.isLower c hc)).2.2.2.1

end IsWord

namespace Course

variable {rules : PathRules} {w : List Char}

/-- A word leads neither to the same nor to the parent directory. -/
theorem isDoubleDot_word (hw : IsWord w) : isDoubleDot w = false ∧ isSingleDot w = false := by
  obtain ⟨c, cs, rfl⟩ := List.exists_cons_of_ne_nil hw.ne_nil
  obtain ⟨-, -, ⟨hdot, hpercent⟩, -⟩ := letter_spec (hw.isLower c List.mem_cons_self)
  have hlower : Ascii.lower (String.ofList (c :: cs)) =
      String.ofList (c.toLower :: cs.map Char.toLower) := by
    simp [Ascii.lower]
  constructor <;>
  · rw [Bool.eq_false_iff]
    intro hmem
    simp only [isDoubleDot, isSingleDot, hlower, List.contains_iff_mem, List.mem_cons,
      List.not_mem_nil, or_false, ← String.toList_inj, String.toList_ofList] at hmem
    simp [hdot, hpercent] at hmem

/-- A word behind a path is one more segment of it. -/
theorem step_word (hfile : rules.isFile = false) (course : Course) (hw : IsWord w) :
    step rules course w false = { course with path := course.path ++ w } := by
  obtain ⟨hdouble, hsingle⟩ := isDoubleDot_word hw
  simp [step, hfile, hw.encode_inPath, hdouble, hsingle]

/-- The last of several segments is followed after the others. -/
theorem steps_concat (course : Course) (segments : List (List Char)) (last : List Char) :
    steps rules course (segments ++ [last]) =
      step rules (segments.foldl (fun course s => step rules course s true) course) last false := by
  induction segments generalizing course with
  | nil => rfl
  | cons segment rest ih =>
    have hcons : steps rules course (segment :: (rest ++ [last])) =
        steps rules (step rules course segment true) (rest ++ [last]) := by
      cases rest <;> rfl
    rw [List.cons_append, hcons, ih, List.foldl_cons]

/-- A text that ends in a word is followed to a path that ends in it. -/
theorem exists_follow_word (hfile : rules.isFile = false) (path cs : List Char) :
    ∃ front, ∀ w, IsWord w → (follow rules path (cs ++ '/' :: w)).path = front ++ w := by
  let slashed := fun c => if rules.isSlash c then '/' else c
  let course := (Split.pieces '/' (cs.map slashed)).foldl
    (fun course s => step rules course s true) ⟨path, false⟩
  refine ⟨course.path, ?_⟩
  intro w hw
  have hplain : w.map slashed = w := by
    refine (List.map_congr_left fun c hc => ?_).trans (List.map_id w)
    obtain ⟨-, ⟨-, -, hslash, hback⟩, -⟩ := letter_spec (hw.isLower c hc)
    simp [slashed, PathRules.isSlash, hslash, hback]
  have hmark : slashed '/' = '/' := ite_self _
  have hpieces : Split.pieces '/' ((cs ++ '/' :: w).map slashed) =
      Split.pieces '/' (cs.map slashed) ++ [w] := by
    rw [List.map_append, List.map_cons, hplain, hmark]
    exact Split.pieces_append_cons (hw.notMem rfl) _
  have hsteps : steps rules ⟨path, false⟩ (Split.pieces '/' ((cs ++ '/' :: w).map slashed)) =
      { course with path := course.path ++ w } := by
    rw [hpieces, steps_concat, step_word hfile _ hw]
  simp only [follow, hfile, Bool.false_eq_true, if_false]
  exact congrArg Course.path hsteps

end Course

namespace Url

/-! ## Parts of a reference -/

theorem cut_cons (separator c : Char) (cs : List Char) :
    cut separator (c :: cs) =
      if c = separator then ([], some cs)
      else (c :: (cut separator cs).1, (cut separator cs).2) := by
  by_cases hc : c = separator
  · simp [cut, hc]
  · simp only [cut, ne_eq, hc, not_false_eq_true, decide_true, List.dropWhile_cons_of_pos,
      List.takeWhile_cons_of_pos, if_false]
    split <;> rfl

theorem cut_of_notMem {separator : Char} {cs : List Char} (h : separator ∉ cs) :
    cut separator cs = (cs, none) := by
  induction cs with
  | nil => rfl
  | cons c cs ih =>
    rw [List.mem_cons, not_or] at h
    rw [cut_cons, if_neg (Ne.symm h.1), ih h.2]

/-- A text is cut at its first mark whatever stands behind it. -/
theorem exists_cut_append {separator : Char} {cs : List Char} (h : separator ∈ cs) :
    ∃ front rest, ∀ tail, cut separator (cs ++ tail) = (front, some (rest ++ tail)) := by
  induction cs with
  | nil => cases h
  | cons c cs ih =>
    by_cases hc : c = separator
    · refine ⟨[], cs, fun tail => ?_⟩
      rw [List.cons_append, cut_cons, if_pos hc]
    · obtain ⟨front, rest, hcut⟩ := ih ((List.mem_cons.mp h).resolve_left (Ne.symm hc))
      refine ⟨c :: front, rest, fun tail => ?_⟩
      rw [List.cons_append, cut_cons, if_neg hc, hcut]

/-- A reference that begins with a letter and ends in a word keeps both. -/
theorem clean_word {s : String} {c : Char} {cs w : List Char} (hc : isEdge c = false)
    (hw : IsWord w) (hs : s.toList = c :: cs ++ '/' :: w) :
    clean s = (c :: cs).filter (fun c => c ≠ '\t' ∧ c ≠ '\n' ∧ c ≠ '\r') ++ '/' :: w := by
  obtain ⟨front, last, rfl⟩ : ∃ front last, w = front ++ [last] :=
    ⟨_, _, (List.dropLast_append_getLast hw.ne_nil).symm⟩
  have hlast : isEdge last = false :=
    (letter_spec (hw.isLower last (by simp))).1.1
  have hkept : (front ++ [last]).filter (fun c => c ≠ '\t' ∧ c ≠ '\n' ∧ c ≠ '\r') =
      front ++ [last] := by
    rw [List.filter_eq_self]
    intro d hd
    simpa using (letter_spec (hw.isLower d hd)).1.2
  have hfirst : (c :: cs ++ '/' :: (front ++ [last])).dropWhile isEdge =
      c :: cs ++ '/' :: (front ++ [last]) := by
    rw [List.cons_append, List.dropWhile_cons_of_neg (by simp [hc])]
  have hends : (c :: cs ++ '/' :: (front ++ [last])).reverse.dropWhile isEdge =
      (c :: cs ++ '/' :: (front ++ [last])).reverse := by
    have hsplit : c :: cs ++ '/' :: (front ++ [last]) = (c :: cs ++ '/' :: front) ++ [last] := by
      simp
    rw [hsplit, List.reverse_append, List.reverse_singleton, List.singleton_append,
      List.dropWhile_cons_of_neg (by simp [hlast])]
  simp only [clean, hs, hfirst, hends, List.reverse_reverse]
  rw [List.filter_append, List.filter_cons_of_pos (a := '/') (by decide), hkept]

/-! ## Addresses that end in a word -/

/-- The address with a text behind it, in its last part. -/
def extend (u : Url) (w : List Char) : Url :=
  match u.fragment, u.query, u.path with
  | some f, _, _ => { u with fragment := some (f ++ String.ofList w) }
  | none, some q, _ => { u with query := some (q ++ String.ofList w) }
  | none, none, .segments t => { u with path := .segments (t ++ String.ofList w) }
  | none, none, .text t => { u with path := .text (t ++ String.ofList w) }

theorem queryText_append (special : Bool) (cs ds : List Char) :
    queryText special (cs ++ ds) = queryText special cs ++ queryText special ds := by
  simp [queryText, Percent.encode_append]

theorem queryText_word {w : List Char} (hw : IsWord w) (special : Bool) :
    queryText special w = String.ofList w := by
  have hset : ∀ c ∈ w,
      (if special then Percent.inSpecialQuery else Percent.inQuery) c = false := by
    intro c hc
    obtain ⟨-, -, -, -, hquery, -⟩ := letter_spec (hw.isLower c hc)
    cases special
    · exact (Bool.or_eq_false_iff.mp hquery).1
    · exact hquery
  rw [queryText, Percent.encode_of_forall hset]

theorem fragmentText_append (cs ds : List Char) :
    fragmentText (cs ++ ds) = fragmentText cs ++ fragmentText ds := by
  simp [fragmentText, Percent.encode_append]

theorem fragmentText_word {w : List Char} (hw : IsWord w) :
    fragmentText w = String.ofList w := by
  have hset : ∀ c ∈ w, Percent.inFragment c = false := fun c hc =>
    (letter_spec (hw.isLower c hc)).2.2.2.2.2
  rw [fragmentText, Percent.encode_of_forall hset]

/-- The directory that references are followed from. -/
def directory (scheme path : String) : List Char :=
  let parent := Course.pop (pathRules scheme) path.toList
  if parent.isEmpty then ['/'] else parent

/-- What a reference of three parts resolves to. -/
theorem resolve?_parts {base : Url} {s t : String} {front rest : List Char}
    {query fragment : Option (List Char)} (ht : base.path = .segments t)
    (hfragment : cut '#' (clean s) = (rest, fragment)) (hquery : cut '?' rest = (front, query)) :
    base.resolve? s = some { base with
      path := .segments (String.ofList
        (Course.follow (pathRules base.scheme) (directory base.scheme t) front).path)
      query := query.map (queryText (isSpecial base.scheme))
      fragment := fragment.map fragmentText } := by
  simp only [resolve?, ht, hfragment, hquery]
  rfl

/-- References that differ only in the word at their end resolve to addresses that differ
only in that word. -/
theorem exists_resolve?_word {base : Url} {c : Char} (hfile : base.scheme ≠ "file")
    (hc : isEdge c = false) (cs : List Char) (hbase : ∃ t, base.path = .segments t) :
    ∃ u : Url, ∀ (s : String) (w : List Char), IsWord w → s.toList = c :: cs ++ '/' :: w →
      base.resolve? s = some (u.extend w) := by
  obtain ⟨t, ht⟩ := hbase
  have hrules : (pathRules base.scheme).isFile = false := by simpa [pathRules] using hfile
  let front := (c :: cs).filter (fun c => c ≠ '\t' ∧ c ≠ '\n' ∧ c ≠ '\r')
  let special := isSpecial base.scheme
  let path := fun text => UrlPath.segments (String.ofList
    (Course.follow (pathRules base.scheme) (directory base.scheme t) text).path)
  have hclean : ∀ (s : String) (w : List Char), IsWord w → s.toList = c :: cs ++ '/' :: w →
      clean s = front ++ '/' :: w := fun s w hw hs => clean_word hc hw hs
  have hslash : ∀ (text : List Char) (w : List Char),
      text ++ '/' :: w = (text ++ ['/']) ++ w := fun _ _ => by simp
  -- The word ends the fragment, the query or the path, whichever comes last.
  by_cases hfragment : '#' ∈ front
  case pos =>
    obtain ⟨before, behind, hcut⟩ := exists_cut_append hfragment
    let query := cut '?' before
    refine ⟨{ base with
      path := path query.1
      query := query.2.map (queryText special)
      fragment := some (fragmentText (behind ++ ['/'])) }, ?_⟩
    intro s w hw hs
    have hparts : cut '#' (clean s) = (before, some (behind ++ '/' :: w)) := by
      rw [hclean s w hw hs, hcut]
    rw [resolve?_parts ht hparts rfl, Option.map_some, hslash behind, fragmentText_append,
      fragmentText_word hw]
    rfl
  case neg =>
    have hwhole : ∀ (s : String) (w : List Char), IsWord w → s.toList = c :: cs ++ '/' :: w →
        cut '#' (clean s) = (front ++ '/' :: w, none) := by
      intro s w hw hs
      rw [hclean s w hw hs, cut_of_notMem]
      simpa [hfragment] using hw.notMem rfl
    by_cases hquery : '?' ∈ front
    case pos =>
      obtain ⟨before, behind, hcut⟩ := exists_cut_append hquery
      refine ⟨{ base with
        path := path before
        query := some (queryText special (behind ++ ['/']))
        fragment := none }, ?_⟩
      intro s w hw hs
      rw [resolve?_parts ht (hwhole s w hw hs) (hcut _), Option.map_some, hslash behind,
        queryText_append, queryText_word hw]
      rfl
    case neg =>
      obtain ⟨before, hfollow⟩ := Course.exists_follow_word hrules (directory base.scheme t) front
      refine ⟨{ base with
        path := .segments (String.ofList before)
        query := none
        fragment := none }, ?_⟩
      intro s w hw hs
      have hparts : cut '?' (front ++ '/' :: w) = (front ++ '/' :: w, none) := by
        apply cut_of_notMem
        simpa [hquery] using hw.notMem rfl
      rw [resolve?_parts ht (hwhole s w hw hs) hparts, hfollow w hw, String.ofList_append]
      rfl

/-! ## Which addresses can be sent to -/

/-- A word behind a path does not make it look like a host. -/
theorem startsWith_append_word {t : String} {w : List Char} (hw : IsWord w) :
    (t ++ String.ofList w).startsWith "//" = t.startsWith "//" := by
  have hslash : "//".toList = ['/', '/'] := rfl
  have hnot : '/' ∉ w := hw.notMem rfl
  obtain ⟨c, cs, rfl⟩ := List.exists_cons_of_ne_nil hw.ne_nil
  rw [List.mem_cons, not_or] at hnot
  rw [Bool.eq_iff_iff, String.startsWith_string_iff, String.startsWith_string_iff,
    String.toList_append, hslash, String.toList_ofList]
  match t.toList with
  | [] => simp [hnot.1]
  | [a] => simp [hnot.1]
  | a :: b :: rest => simp

theorem anonymous_extend (u : Url) (w : List Char) :
    (u.extend w).anonymous = u.anonymous.extend w := by
  obtain ⟨scheme, user, password, host, port, path, query, fragment⟩ := u
  rw [anonymous, anonymous, apply_ite fun u => extend u w]
  cases fragment <;> cases query <;> cases path <;> rfl

/-- An address is written with its word at the end. -/
theorem render_extend (u : Url) {w : List Char} (hw : IsWord w) :
    (u.extend w).render = u.render ++ String.ofList w := by
  obtain ⟨scheme, user, password, host, port, path, query, fragment⟩ := u
  match fragment, query, path with
  | some f, _, _ => simp only [extend, render, ← String.append_assoc]; rfl
  | none, some q, _ =>
    simp only [extend, render, ← String.append_assoc, String.append_empty]; rfl
  | none, none, .text t =>
    simp only [extend, render, UrlPath.render, ← String.append_assoc, String.append_empty]; rfl
  | none, none, .segments t =>
    have hpath : ∀ hasHost, UrlPath.render (.segments (t ++ String.ofList w)) hasHost =
        UrlPath.render (.segments t) hasHost ++ String.ofList w := by
      intro hasHost
      simp only [UrlPath.render, startsWith_append_word hw]
      split
      · exact (String.append_assoc ..).symm
      · rfl
    simp only [extend, render, hpath, ← String.append_assoc, String.append_empty]; rfl

/-- An address can be sent to with a word if it can be with a longer one. -/
theorem isSendable_extend {u : Url} {v w : List Char} (hv : IsWord v) (hw : IsWord w)
    (hle : (String.ofList w).utf8ByteSize ≤ (String.ofList v).utf8ByteSize)
    (h : (u.extend v).isSendable = true) : (u.extend w).isSendable = true := by
  have hscheme : (u.extend w).scheme = (u.extend v).scheme := by
    unfold extend; split <;> rfl
  have hhost : (u.extend w).host = (u.extend v).host := by
    unfold extend; split <;> rfl
  rw [isSendable, anonymous_extend, render_extend _ hv, String.utf8ByteSize_append] at h
  rw [isSendable, anonymous_extend, render_extend _ hw, String.utf8ByteSize_append]
  simp only [hscheme, hhost, Bool.and_eq_true, decide_eq_true_eq] at h ⊢
  exact ⟨h.1, Nat.le_trans (Nat.add_le_add_left hle _) h.2⟩

end Url

end Interchain
