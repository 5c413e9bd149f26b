import StackWalk.Proofs.Occurrences
import StackWalk.Symbol.Matching

/-!
# StackWalk.Proofs.Symbol.Spelling — the spelling in which names are compared

Before two names are compared, what is only a matter of spelling is taken out of them: the argument list if
both have one, the qualifiers of the standard library, the spaces between template closers.  Each of these
is a replacement that goes through the name once, and here is what that comes to.

* A qualifier `std::` does not count, wherever a name may start (`namesMatch_qualified`).  No replacement
  reaches over the character in front of it, and none starts in it.
* A name may come to nothing: if there is nothing in front of its argument list, or nothing but qualifiers,
  also where they are put into one another (`IsQualifiers`).  What is nothing is the beginning of every name.
  The guard against empty names is asked before and not after, so such a name matches all others
  (`matches_something_iff`).
* In a run of spaced closers `>_>_>_>` the occurrences of `>_>` overlap, and only every second one is closed
  up (`pairedClosers`).  Up to one space the run is read as a plain one, and from two on it is not
  (`closers_match_iff`).
-/

namespace StackWalk.Symbol

open Text

variable {callee current name other u : String} {cs front back run closed : List Char} {c : Char} {n : Nat}

/-! ## What is compared -/

/-- The part of a name that is compared with another one: all of it, but for the argument list if both
have one. -/
def comparedPart (name other : String) : List Char :=
  if name.toList.contains '(' && other.toList.contains '(' then withoutArguments name.toList
  else name.toList

/-- The spelling in which a name is compared with another one. -/
def normalForm (name other : String) : List Char :=
  respell (comparedPart name other)

theorem matchesNormalised_iff {a b : List Char} : matchesNormalised a b = true ↔
    b <+: a ∨ a <+: b ∨ (∃ pair ∈ aliases, pair.1.toList = a ∧ pair.2.toList = b) ∨
      ("IO_file_".toList <+: b ∧ a <:+ b) := by
  simp [matchesNormalised, or_assoc]

theorem namesMatch_iff : namesMatch callee current = true ↔
    callee ≠ "" ∧ current ≠ "" ∧
      matchesNormalised (normalForm callee current) (normalForm current callee) = true := by
  have hcomm : (current.toList.contains '(' && callee.toList.contains '(') =
      (callee.toList.contains '(' && current.toList.contains '(') := Bool.and_comm ..
  unfold namesMatch normalForm comparedPart normalise
  rw [hcomm]
  simp only [List.isEmpty_iff, String.toList_eq_nil_iff, Bool.or_eq_true, Bool.if_false_left,
    Bool.and_eq_true, Bool.not_eq_true', decide_eq_false_iff_not, not_or, and_assoc]

theorem normalForm_of_no_arguments (h : '(' ∉ name.toList) (other : String) :
    normalForm name other = respell name.toList := by
  simp [normalForm, comparedPart, h]

/-- The name without the qualifiers of the standard library. -/
def withoutQualifiers (cs : List Char) : List Char :=
  replaceAll "std::".toList [] (replaceAll "class_std::".toList [] (replaceAll "struct_std::".toList [] cs))

/-- The name with one spelling for the two stream members that are told apart by their names only. -/
def respellMember (cs : List Char) : List Char :=
  replaceAll "snextc".toList "sgetc".toList cs

theorem respell_eq (cs : List Char) :
    respell cs = respellMember (replaceAll ">_>".toList ">>".toList (withoutQualifiers cs)) := rfl

/-! ## Qualifiers -/

/-- No replacement reaches over a character that is in none of the patterns. -/
theorem respell_append_cons (h : ∀ rule ∈ spellings, c ∉ rule.1.toList) (front back : List Char) :
    respell (front ++ c :: back) = respell front ++ c :: respell back := by
  have hne : ∀ rule ∈ spellings, rule.1.toList ≠ [] := by decide
  unfold respell
  generalize spellings = rules at h hne
  induction rules generalizing front back with
  | nil => rfl
  | cons rule rules ih =>
      obtain ⟨hc, hrules⟩ := List.forall_mem_cons.mp h
      obtain ⟨hrule, hne⟩ := List.forall_mem_cons.mp hne
      rw [List.foldl_cons, List.foldl_cons, List.foldl_cons, replaceAll_append_cons hrule hc]
      exact ih _ _ hrules hne

/-- A qualifier at the front is erased.  The longer qualifiers are looked for first, and none of them
starts in it. -/
theorem respell_std (cs : List Char) : respell ("std::".toList ++ cs) = respell cs := by
  have hstruct : IsInert "struct_std::".toList "std::".toList := by decide
  have hclass : IsInert "class_std::".toList "std::".toList := by decide
  have herased : withoutQualifiers ("std::".toList ++ cs) = withoutQualifiers cs := by
    unfold withoutQualifiers
    rw [replaceAll_append hstruct, replaceAll_append hclass, replaceAll_append_self (by decide),
      List.nil_append]
  rw [respell_eq, respell_eq, herased]

/-- The characters behind which a name may start inside of another one. -/
def openers : List Char := ['<', ',', ' ', '*', '&']

theorem respell_qualified (h : ∀ c, front.getLast? = some c → c ∈ openers) (back : List Char) :
    respell (front ++ "std::".toList ++ back) = respell (front ++ back) := by
  have hopeners : ∀ c ∈ openers, ∀ rule ∈ spellings, c ∉ rule.1.toList := by
    simp [openers, spellings]
  rcases List.eq_nil_or_concat front with rfl | ⟨front, c, rfl⟩
  · exact respell_std back
  · have hc := hopeners c (h c (by simp))
    simp only [List.append_assoc, List.cons_append, List.nil_append, List.concat_eq_append]
    rw [respell_append_cons hc, respell_append_cons hc, respell_std]

theorem withoutArguments_append_of_mem (h : '(' ∈ front) (back : List Char) :
    withoutArguments (front ++ back) = withoutArguments front := by
  unfold withoutArguments
  induction front with
  | nil => simp at h
  | cons c front ih =>
      by_cases hc : c = '('
      · simp [hc]
      · have hfront : '(' ∈ front := (List.mem_cons.mp h).resolve_left (Ne.symm hc)
        simpa [hc] using ih hfront

theorem withoutArguments_append_of_not_mem (h : '(' ∉ front) (back : List Char) :
    withoutArguments (front ++ back) = front ++ withoutArguments back := by
  unfold withoutArguments
  rw [List.takeWhile_append_of_pos]
  intro c hc
  simp only [decide_eq_true_eq]
  rintro rfl
  exact h hc

theorem normalForm_qualified (h : ∀ c, u.toList.getLast? = some c → c ∈ openers) (v w : String) :
    normalForm (u ++ "std::" ++ v) w = normalForm (u ++ v) w ∧
      normalForm w (u ++ "std::" ++ v) = normalForm w (u ++ v) := by
  have harguments : (u ++ "std::" ++ v).toList.contains '(' = (u ++ v).toList.contains '(' := by
    simp [String.toList_append]
  unfold normalForm comparedPart
  rw [harguments]
  refine ⟨?_, rfl⟩
  rw [String.toList_append, String.toList_append, String.toList_append]
  split
  case isTrue =>
    by_cases hmem : '(' ∈ u.toList
    · rw [List.append_assoc, withoutArguments_append_of_mem hmem, withoutArguments_append_of_mem hmem]
    · have hstd : '(' ∉ "std::".toList := by decide
      rw [List.append_assoc, withoutArguments_append_of_not_mem hmem,
        withoutArguments_append_of_not_mem hstd, withoutArguments_append_of_not_mem hmem,
        ← List.append_assoc, respell_qualified h]
  case isFalse => exact respell_qualified h v.toList

/-- **A qualifier `std::` does not count**: with and without it a name matches the same names, on either
side, if there is something besides it and it stands where a name may start. -/
theorem namesMatch_qualified {v : String} (huv : u ++ v ≠ "")
    (hu : ∀ c, u.toList.getLast? = some c → c ∈ openers) (w : String) :
    namesMatch (u ++ "std::" ++ v) w = namesMatch (u ++ v) w ∧
      namesMatch w (u ++ "std::" ++ v) = namesMatch w (u ++ v) := by
  obtain ⟨hleft, hright⟩ := normalForm_qualified hu v w
  have hqualified : u ++ "std::" ++ v ≠ "" := by
    intro hempty
    have hlength := congrArg String.length hempty
    simp at hlength
  constructor
  · rw [Bool.eq_iff_iff, namesMatch_iff, namesMatch_iff, hleft, hright]
    simp only [huv, hqualified, ne_eq, not_false_eq_true, true_and]
  · rw [Bool.eq_iff_iff, namesMatch_iff, namesMatch_iff, hleft, hright]
    simp only [huv, hqualified, ne_eq, not_false_eq_true, true_and]

/-- A qualifier inside of template brackets, behind another one and in front of an argument list. -/
theorem vectorOfStrings_qualified :
    namesMatch "class_std::vector<std::string>::at(std::size_t)" "vector<string>::at(int)" = true := by
  have huv : "class_std::vector<" ++ "string>::at(std::size_t)" ≠ "" := by decide
  have hu : ∀ c, "class_std::vector<".toList.getLast? = some c → c ∈ openers := by simp [openers]
  exact (namesMatch_qualified huv hu "vector<string>::at(int)").1.trans (by decide +kernel)

/-! ## Names that come to nothing -/

/-- There are only qualifiers: any number of `std::`, copies of `class_std::` put in anywhere, and copies of
`struct_std::` put in anywhere into that. -/
def IsQualifiers (cs : List Char) : Prop :=
  ∃ inner middle, Stuffed "std::".toList [] inner ∧ Stuffed "class_std::".toList inner middle ∧
    Stuffed "struct_std::".toList middle cs

theorem withoutQualifiers_eq_nil_iff : withoutQualifiers cs = [] ↔ IsQualifiers cs := by
  unfold withoutQualifiers IsQualifiers
  constructor
  · intro h
    have hstruct : Stuffed "struct_std::".toList (replaceAll "struct_std::".toList [] cs) cs :=
      stuffed_replaceAll (by decide) cs
    generalize replaceAll "struct_std::".toList [] cs = middle at h hstruct
    have hclass : Stuffed "class_std::".toList (replaceAll "class_std::".toList [] middle) middle :=
      stuffed_replaceAll (by decide) middle
    generalize replaceAll "class_std::".toList [] middle = inner at h hclass
    have hstd : Stuffed "std::".toList (replaceAll "std::".toList [] inner) inner :=
      stuffed_replaceAll (by decide) inner
    rw [h] at hstd
    exact ⟨inner, middle, hstd, hclass, hstruct⟩
  · rintro ⟨inner, middle, hstd, hclass, hstruct⟩
    -- each of the longer words has a letter that the text it is put into does not have
    have hinner : 'c' ∉ inner := hstd.not_mem (by simp) (by decide)
    have hmiddle : 'r' ∉ middle := hclass.not_mem (hstd.not_mem (by simp) (by decide)) (by decide)
    have habsent : ¬ "struct_std::".toList <:+: middle := not_infix_of_not_mem (by decide) hmiddle
    have habsent' : ¬ "class_std::".toList <:+: inner := not_infix_of_not_mem (by decide) hinner
    rw [hstruct.replaceAll_eq (by decide) (by decide) habsent,
      hclass.replaceAll_eq (by decide) (by decide) habsent',
      hstd.replaceAll_eq (by decide) (by decide) (by decide)]

/-- Only the qualifiers are replaced by nothing. -/
theorem respell_eq_nil_iff : respell cs = [] ↔ IsQualifiers cs := by
  rw [respell_eq, respellMember, replaceAll_eq_nil_iff (by decide) (by decide),
    replaceAll_eq_nil_iff (by decide) (by decide), withoutQualifiers_eq_nil_iff]

/-- **When a match is a match of something.**  Two names match only if both come to something, exactly where
one of them is empty, which nothing matches, or in neither of them there are only qualifiers. -/
theorem matches_something_iff (callee current : String) :
    (namesMatch callee current = true →
        normalForm callee current ≠ [] ∧ normalForm current callee ≠ []) ↔
      callee = "" ∨ current = "" ∨
        (¬ IsQualifiers (comparedPart callee current) ∧
          ¬ IsQualifiers (comparedPart current callee)) := by
  rw [← respell_eq_nil_iff, ← respell_eq_nil_iff]
  constructor
  · intro hsomething
    by_cases hcallee : callee = ""
    · exact Or.inl hcallee
    by_cases hcurrent : current = ""
    · exact Or.inr (Or.inl hcurrent)
    have hmatch (h : matchesNormalised (normalForm callee current) (normalForm current callee) = true) :=
      hsomething (namesMatch_iff.mpr ⟨hcallee, hcurrent, h⟩)
    -- what is nothing is the beginning of the other name
    refine Or.inr (Or.inr ⟨?_, ?_⟩)
    · intro hempty
      refine (hmatch ?_).1 hempty
      rw [normalForm, hempty]
      exact matchesNormalised_iff.mpr (Or.inr (Or.inl List.nil_prefix))
    · intro hempty
      refine (hmatch ?_).2 hempty
      rw [normalForm, normalForm, hempty]
      exact matchesNormalised_iff.mpr (Or.inl List.nil_prefix)
  · rintro (rfl | rfl | hneither) hmatch
    · exact absurd rfl (namesMatch_iff.mp hmatch).1
    · exact absurd rfl (namesMatch_iff.mp hmatch).2.1
    · exact hneither

/-- Two routines of unnamed namespaces match, with nothing in front of their argument lists. -/
theorem unnamedNamespaces_match :
    namesMatch "(anonymous namespace)::parse(char const*)" "(anonymous namespace)::flush(int)" = true ∧
      normalForm "(anonymous namespace)::parse(char const*)" "(anonymous namespace)::flush(int)" = [] ∧
      normalForm "(anonymous namespace)::flush(int)" "(anonymous namespace)::parse(char const*)" = [] := by
  decide +kernel

/-! ## Closers -/

/-- Template closers with spaces between them, which are written as underscores. -/
def spacedClosers (n : Nat) : List Char := '>' :: (List.replicate n ['_', '>']).flatten

/-- As many closers without spaces. -/
def plainClosers (n : Nat) : List Char := '>' :: List.replicate n '>'

/-- What is left of the spaces: the search goes on behind a pair that was closed up, so the next space is
passed over. -/
def pairedClosers : Nat → List Char
  | 0 => ['>']
  | 1 => ['>', '>']
  | n + 2 => '>' :: '>' :: '_' :: pairedClosers n

/-- A run of closers, with or without spaces. -/
structure IsRun (run : List Char) : Prop where
  ne_nil : run ≠ []
  closers : ∀ c ∈ run, c = '>' ∨ c = '_'

/-- What may not stand around a run: what belongs to closers, argument lists or qualifiers. -/
def closerMarks : List Char := ['>', '_', '(', ':']

/-- The text has none of the marks. -/
def IsUnmarked (cs : List Char) : Prop :=
  ∀ mark ∈ closerMarks, mark ∉ cs

instance {cs : List Char} : Decidable (IsUnmarked cs) :=
  List.decidableBAll (fun mark => mark ∉ cs) closerMarks

theorem spacedClosers_succ (n : Nat) : spacedClosers (n + 1) = '>' :: '_' :: spacedClosers n := by
  simp [spacedClosers, List.replicate_succ]

theorem isRun_spacedClosers (n : Nat) : IsRun (spacedClosers n) where
  ne_nil := by simp [spacedClosers]
  closers := by
    intro c hc
    simp only [spacedClosers, List.mem_cons, List.mem_flatten, List.mem_replicate] at hc
    rcases hc with rfl | ⟨_, ⟨-, rfl⟩, hc⟩
    · exact Or.inl rfl
    · simpa [or_comm] using hc

theorem isRun_plainClosers (n : Nat) : IsRun (plainClosers n) where
  ne_nil := by simp [plainClosers]
  closers := by
    intro c hc
    rcases List.mem_cons.mp hc with rfl | hc
    · exact Or.inl rfl
    · exact Or.inl (List.eq_of_mem_replicate hc)

theorem isRun_pairedClosers (n : Nat) : IsRun (pairedClosers n) := by
  induction n using pairedClosers.induct with
  | case1 => exact isRun_plainClosers 0
  | case2 => exact isRun_plainClosers 1
  | case3 n ih =>
      refine ⟨by simp [pairedClosers], ?_⟩
      intro c hc
      simp only [pairedClosers, List.mem_cons] at hc
      rcases hc with rfl | rfl | rfl | hc
      · exact Or.inl rfl
      · exact Or.inl rfl
      · exact Or.inr rfl
      · exact ih.closers c hc

theorem IsRun.not_mem (h : IsRun run) (hcloser : c ≠ '>') (hspace : c ≠ '_') : c ∉ run := fun hc =>
  (h.closers c hc).elim hcloser hspace

/-- Every second space is closed up. -/
theorem replaceAll_spacedClosers (h : '>' ∉ back) (n : Nat) :
    replaceAll ">_>".toList ">>".toList (spacedClosers n ++ back) = pairedClosers n ++ back := by
  have hback : replaceAll ">_>".toList ">>".toList back = back :=
    replaceAll_eq_self (not_infix_of_not_mem (by decide) h)
  induction n using pairedClosers.induct with
  | case1 =>
      have hlast : ¬ ">_>".toList <+: '>' :: back := fun hstart =>
        h ((List.cons_prefix_cons.mp hstart).2.mem (by decide))
      exact (replaceAll_cons hlast).trans (congrArg ('>' :: ·) hback)
  | case2 =>
      have hrun : spacedClosers 1 ++ back = ">_>".toList ++ back := rfl
      rw [hrun, replaceAll_append_self (by decide), hback]
      rfl
  | case3 n ih =>
      have hrun : spacedClosers (n + 2) ++ back = ">_>".toList ++ '_' :: (spacedClosers n ++ back) := by
        rw [spacedClosers_succ, spacedClosers_succ]
        rfl
      have hspace : ¬ ">_>".toList <+: '_' :: (spacedClosers n ++ back) := fun hstart =>
        absurd (List.cons_prefix_cons.mp hstart).1 (by decide)
      rw [hrun, replaceAll_append_self (by decide), replaceAll_cons hspace, ih]
      rfl

theorem withoutQualifiers_eq_self (h : ':' ∉ cs) : withoutQualifiers cs = cs := by
  have habsent (word : List Char) (hword : ':' ∈ word) : replaceAll word [] cs = cs :=
    replaceAll_eq_self (not_infix_of_not_mem hword h)
  unfold withoutQualifiers
  rw [habsent _ (by decide), habsent _ (by decide), habsent _ (by decide)]

/-- A run is respelled by itself. -/
theorem respell_run (hfront : IsUnmarked front) (hback : IsUnmarked back) (hrun : IsRun run)
    (hclosed : IsRun closed)
    (h : replaceAll ">_>".toList ">>".toList (run ++ back) = closed ++ back) :
    respell (front ++ run ++ back) = respellMember front ++ closed ++ respellMember back := by
  have hcolon : ':' ∉ front ++ run ++ back := by
    have hfront := hfront ':' (by decide)
    have hback := hback ':' (by decide)
    have hrun := hrun.not_mem (c := ':') (by decide) (by decide)
    simp [hfront, hback, hrun]
  have hinert : IsInert ">_>".toList front := isInert_of_first (hfront '>' (by decide)) _
  have hmember : ∀ c ∈ closed, c ∉ "snextc".toList := by
    intro c hc
    rcases hclosed.closers c hc with rfl | rfl
    · decide
    · decide
  rw [respell_eq, withoutQualifiers_eq_self hcolon, List.append_assoc, replaceAll_append hinert, h,
    ← List.append_assoc]
  exact replaceAll_append_append (by decide) hclosed.ne_nil hmember front back

theorem respell_spacedClosers (hfront : IsUnmarked front) (hback : IsUnmarked back) (n : Nat) :
    respell (front ++ spacedClosers n ++ back) =
      respellMember front ++ pairedClosers n ++ respellMember back :=
  respell_run hfront hback (isRun_spacedClosers n) (isRun_pairedClosers n)
    (replaceAll_spacedClosers (hback '>' (by decide)) n)

theorem respell_plainClosers (hfront : IsUnmarked front) (hback : IsUnmarked back) (n : Nat) :
    respell (front ++ plainClosers n ++ back) =
      respellMember front ++ plainClosers n ++ respellMember back := by
  have hspace : '_' ∉ plainClosers n ++ back := by
    have hback := hback '_' (by decide)
    simp [plainClosers, hback]
  exact respell_run hfront hback (isRun_plainClosers n) (isRun_plainClosers n)
    (replaceAll_eq_self (not_infix_of_not_mem (by decide) hspace))

/-- A run that keeps a space does not match the plain one. -/
theorem not_matchesNormalised_pairedClosers (hfront : IsUnmarked front) (hback : IsUnmarked back) (n : Nat) :
    ¬ matchesNormalised (respellMember front ++ pairedClosers (n + 2) ++ respellMember back)
        (respellMember front ++ plainClosers (n + 2) ++ respellMember back) = true := by
  rw [matchesNormalised_iff]
  rintro (hstart | hstart | ⟨pair, hpair, hcallee, -⟩ | ⟨hwrapper, -⟩)
  · rw [List.append_assoc, List.append_assoc, List.prefix_append_right_inj] at hstart
    simp [plainClosers, pairedClosers, List.replicate_succ] at hstart
  · rw [List.append_assoc, List.append_assoc, List.prefix_append_right_inj] at hstart
    simp [plainClosers, pairedClosers, List.replicate_succ] at hstart
  · have haliases : ∀ pair ∈ aliases, '>' ∉ pair.1.toList := by decide
    have hcloser := haliases pair hpair
    rw [hcallee] at hcloser
    simp [pairedClosers] at hcloser
  · have hmember (cs : List Char) (hcs : IsUnmarked cs) : '_' ∉ respellMember cs :=
      not_mem_replaceAll (by decide) (hcs '_' (by decide)) (by decide)
    have hspace := hwrapper.mem (show '_' ∈ "IO_file_".toList by decide)
    simp [plainClosers, hmember _ hfront, hmember _ hback] at hspace

/-- **A run of closers is read as a plain one exactly if there is at most one space in it**, whatever stands
around it: from the second space on, the run keeps spaces and does not match. -/
theorem closers_match_iff (hfront : IsUnmarked front) (hback : IsUnmarked back) (n : Nat) :
    namesMatch (String.ofList (front ++ spacedClosers n ++ back))
        (String.ofList (front ++ plainClosers n ++ back)) = true ↔ n ≤ 1 := by
  have hsome (run : List Char) (hrun : IsRun run) : String.ofList (front ++ run ++ back) ≠ "" := by
    have hne := hrun.ne_nil
    simp [← String.toList_inj, hne]
  have hlist (run : List Char) (hrun : IsRun run) :
      '(' ∉ (String.ofList (front ++ run ++ back)).toList := by
    have hfront := hfront '(' (by decide)
    have hback := hback '(' (by decide)
    have hrun := hrun.not_mem (c := '(') (by decide) (by decide)
    simp [hfront, hback, hrun]
  have hspaced := isRun_spacedClosers n
  have hplain := isRun_plainClosers n
  rw [namesMatch_iff, normalForm_of_no_arguments (hlist _ hspaced),
    normalForm_of_no_arguments (hlist _ hplain), String.toList_ofList, String.toList_ofList,
    respell_spacedClosers hfront hback, respell_plainClosers hfront hback]
  constructor
  · rintro ⟨-, -, hmatch⟩
    refine Nat.not_lt.mp fun hmany => ?_
    obtain ⟨k, rfl⟩ : ∃ k, n = k + 2 := ⟨n - 2, by omega⟩
    exact not_matchesNormalised_pairedClosers hfront hback k hmatch
  · intro hfew
    have hsame : pairedClosers n = plainClosers n := by
      rcases Nat.le_one_iff_eq_zero_or_eq_one.mp hfew with rfl | rfl
      · rfl
      · rfl
    rw [hsame]
    exact ⟨hsome _ hspaced, hsome _ hplain, matchesNormalised_iff.mpr (Or.inl List.prefix_rfl)⟩

/-- One space is closed up. -/
theorem listOfVectors_match : namesMatch "list<vector<int>_>" "list<vector<int>>" = true := by
  have hfront : IsUnmarked "list<vector<int".toList := by decide
  have hback : IsUnmarked [] := by decide
  exact (closers_match_iff hfront hback 1).mpr (Nat.le_refl 1)

/-- The second of two spaces is kept. -/
theorem mapOfLists_not_match :
    namesMatch "map<list<set<int>_>_>" "map<list<set<int>>>" = false ∧
      normalForm "map<list<set<int>_>_>" "map<list<set<int>>>" = "map<list<set<int>>_>".toList := by
  decide +kernel

end StackWalk.Symbol
