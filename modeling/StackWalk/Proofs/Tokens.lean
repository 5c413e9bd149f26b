import Mathlib.Data.Bool.AllAny
import StackWalk.Text.Blank
import StackWalk.Text.Case
import StackWalk.Text.Search

/-!
# StackWalk.Proofs.Tokens — tokens and the white space around them

A text that is put together from tokens comes apart into them again.  White space at its ends is taken off
by trimming (`trim_between`), its first token is the one that was put first (`tokens_append_cons`), and a
search for something that has been put in front finds it there (`after?_append`, `splitAtFirst?_append`).
-/

namespace StackWalk.Text

variable {cs front back rest space space' : List Char} {c b mark : Char}

/-! ## White space -/

/-- There is nothing but white space. -/
def IsSpace (cs : List Char) : Prop :=
  ∀ c ∈ cs, isBlank c = true

/-- There is no white space at all. -/
def IsSolid (cs : List Char) : Prop :=
  ∀ c ∈ cs, isBlank c = false

/-- There is something, and no white space at either end of it. -/
structure IsTrimmed (cs : List Char) : Prop where
  ne_nil : cs ≠ []
  first : ∀ c, cs.head? = some c → isBlank c = false
  last : ∀ c, cs.getLast? = some c → isBlank c = false

instance : Decidable (IsSpace cs) :=
  decidable_of_iff (cs.all isBlank = true) List.all_eq_true

instance : Decidable (IsSolid cs) :=
  decidable_of_iff (cs.all fun c => isBlank c = false) List.all_iff_forall_prop

instance : Decidable (IsTrimmed cs) :=
  decidable_of_iff
    (cs ≠ [] ∧ cs.head?.all (isBlank · = false) = true ∧ cs.getLast?.all (isBlank · = false) = true) <| by
    simp only [Option.all_eq_true, decide_eq_true_eq]
    exact ⟨fun ⟨hne, hfirst, hlast⟩ => ⟨hne, hfirst, hlast⟩, fun h => ⟨h.ne_nil, h.first, h.last⟩⟩

theorem isSpace_nil : IsSpace [] := by
  simp [IsSpace]

theorem IsSolid.append (h : IsSolid front) (h' : IsSolid back) : IsSolid (front ++ back) := by
  intro c hc
  rcases List.mem_append.mp hc with hc | hc
  · exact h c hc
  · exact h' c hc

theorem isSolid_replicate (h : isBlank c = false) (n : Nat) : IsSolid (List.replicate n c) := by
  intro c' hc'
  rw [List.eq_of_mem_replicate hc']
  exact h

theorem IsSolid.not_mem_space (h : IsSolid cs) (hspace : IsSpace space) (hc : c ∈ space) : c ∉ cs := by
  intro hmem
  have hblank := hspace c hc
  rw [h c hmem] at hblank
  cases hblank

/-- What has a token in it is not only white space. -/
theorem IsSolid.not_isSpace (h : IsSolid front) (hne : front ≠ []) (hin : front ⊆ cs) : ¬ IsSpace cs := by
  obtain ⟨c, hc⟩ := List.exists_mem_of_ne_nil front hne
  exact fun hspace => h.not_mem_space hspace (hin hc) hc

theorem IsSolid.isTrimmed (h : IsSolid cs) (hne : cs ≠ []) : IsTrimmed cs where
  ne_nil := hne
  first := by
    intro c hc
    exact h c (List.mem_of_head? hc)
  last := by
    intro c hc
    exact h c (List.mem_of_getLast? hc)

/-- What stands between two trimmed texts does not matter. -/
theorem IsTrimmed.append (h : IsTrimmed front) (h' : IsTrimmed back) (middle : List Char) :
    IsTrimmed (front ++ middle ++ back) where
  ne_nil := by simp [h.ne_nil]
  first := by
    intro c hc
    apply h.first
    simpa [h.ne_nil] using hc
  last := by
    intro c hc
    apply h'.last
    simpa [h'.ne_nil] using hc

/-! ## Trimming -/

theorem trimStart_append (h : IsSpace space) : trimStart (space ++ cs) = trimStart cs := by
  unfold trimStart
  rw [List.dropWhile_append_of_pos h]

theorem trimStart_of_first (h : ∀ c, cs.head? = some c → isBlank c = false) : trimStart cs = cs := by
  cases cs with
  | nil => rfl
  | cons c cs => simp [trimStart, h c rfl]

theorem trimEnd_append (h : IsSpace space) : trimEnd (cs ++ space) = trimEnd cs := by
  have hreverse : ∀ c ∈ space.reverse, isBlank c = true := by
    intro c hc
    exact h c (List.mem_reverse.mp hc)
  unfold trimEnd
  rw [List.reverse_append, List.dropWhile_append_of_pos hreverse]

theorem trimEnd_of_last (h : ∀ c, cs.getLast? = some c → isBlank c = false) : trimEnd cs = cs := by
  have hreverse : trimStart cs.reverse = cs.reverse := by
    apply trimStart_of_first
    intro c hc
    apply h
    rw [← List.head?_reverse]
    exact hc
  show (trimStart cs.reverse).reverse = cs
  rw [hreverse, List.reverse_reverse]

theorem IsTrimmed.trim_between (h : IsTrimmed cs) (hspace : IsSpace space) (hspace' : IsSpace space') :
    trim (space ++ cs ++ space') = cs := by
  have hstart : trimStart (space ++ cs ++ space') = cs ++ space' := by
    rw [List.append_assoc, trimStart_append hspace]
    apply trimStart_of_first
    intro c hc
    apply h.first
    simpa [h.ne_nil] using hc
  unfold trim
  rw [hstart, trimEnd_append hspace', trimEnd_of_last h.last]

theorem IsTrimmed.trim (h : IsTrimmed cs) : trim cs = cs := by
  simpa using h.trim_between isSpace_nil isSpace_nil

theorem IsTrimmed.trim_cons (h : IsTrimmed cs) (hblank : isBlank b = true) : Text.trim (b :: cs) = cs := by
  have hspace : IsSpace [b] := by simpa [IsSpace] using hblank
  simpa using h.trim_between hspace isSpace_nil

/-- A trimmed text starts where its first token does. -/
theorem exists_trim_eq_cons (cs : List Char) (hspace : IsSpace space) (hc : isBlank c = false) :
    ∃ rest, trim (space ++ c :: cs) = c :: rest := by
  have hstart : trimStart (space ++ c :: cs) = c :: cs := by
    rw [trimStart_append hspace]
    apply trimStart_of_first
    rintro _ ⟨rfl⟩
    exact hc
  unfold trim trimEnd
  rw [hstart, List.reverse_cons, List.dropWhile_append]
  split
  · exact ⟨[], by simp [hc]⟩
  · exact ⟨(cs.reverse.dropWhile isBlank).reverse, by simp⟩

/-- A trim does not touch what is not white space. -/
theorem filter_trim (cs : List Char) :
    (trim cs).filter (fun c => !isBlank c) = cs.filter fun c => !isBlank c := by
  have hstart (cs : List Char) :
      (trimStart cs).filter (fun c => !isBlank c) = cs.filter fun c => !isBlank c := by
    induction cs with
    | nil => rfl
    | cons c cs ih =>
        unfold trimStart at ih ⊢
        cases hc : isBlank c with
        | true => simpa [hc] using ih
        | false => simp [hc]
  unfold trim trimEnd
  rw [List.filter_reverse]
  show ((trimStart (trimStart cs).reverse).filter _).reverse = _
  rw [hstart, List.filter_reverse, List.reverse_reverse, hstart]

theorem trim_space_append (h : IsSpace space) (cs : List Char) : trim (space ++ cs) = trim cs := by
  unfold trim
  rw [trimStart_append h]

theorem trim_append_space (h : IsSpace space) (cs : List Char) : trim (cs ++ space) = trim cs := by
  unfold trim trimStart
  rw [List.dropWhile_append]
  split
  case isTrue hblank =>
    have hspace : trimStart (space ++ []) = [] := trimStart_append h
    rw [trimStart, List.append_nil] at hspace
    rw [List.isEmpty_iff.mp hblank, hspace]
  case isFalse => exact trimEnd_append h

/-- A text is its trim with white space around it. -/
theorem exists_eq_trim (cs : List Char) :
    ∃ space space', IsSpace space ∧ IsSpace space' ∧ cs = space ++ trim cs ++ space' := by
  have hsplit (cs : List Char) : ∃ space, IsSpace space ∧ cs = space ++ trimStart cs :=
    ⟨cs.takeWhile isBlank, List.all_eq_true.mp List.all_takeWhile,
      (List.takeWhile_append_dropWhile ..).symm⟩
  obtain ⟨space, hspace, hstart⟩ := hsplit cs
  obtain ⟨space', hspace', hend⟩ := hsplit (trimStart cs).reverse
  have hend := congrArg List.reverse hend
  rw [List.reverse_reverse, List.reverse_append] at hend
  refine ⟨space, space'.reverse, hspace, fun c hc => hspace' c (List.mem_reverse.mp hc), ?_⟩
  rw [List.append_assoc]
  exact hstart.trans (congrArg (space ++ ·) hend)

/-! ## Tokens -/

theorem pieces_append_cons {p : Char → Bool} (h : ∀ c ∈ front, p c = false) (hb : p b = true) :
    pieces p (front ++ b :: cs) = front :: pieces p cs := by
  induction front with
  | nil => simp [pieces, hb]
  | cons c front ih =>
      have hc := h c (List.mem_cons_self ..)
      have hfront := ih fun c' hc' => h c' (List.mem_cons_of_mem c hc')
      simp [pieces, hc, hfront]

theorem pieces_of_forall {p : Char → Bool} (h : ∀ c ∈ cs, p c = false) : pieces p cs = [cs] := by
  induction cs with
  | nil => rfl
  | cons c cs ih =>
      have hc := h c (List.mem_cons_self ..)
      have hcs := ih fun c' hc' => h c' (List.mem_cons_of_mem c hc')
      simp [pieces, hc, hcs]

/-- A token that is followed by white space is the first one. -/
theorem tokens_append_cons (h : IsSolid front) (hne : front ≠ []) (hb : isBlank b = true) :
    tokens (front ++ b :: cs) = front :: tokens cs := by
  simp [tokens, pieces_append_cons h hb, hne]

theorem tokens_of_isSolid (h : IsSolid cs) (hne : cs ≠ []) : tokens cs = [cs] := by
  simp [tokens, pieces_of_forall h, hne]

/-- The first token starts where the text does. -/
theorem exists_head?_tokens (cs : List Char) (hc : isBlank c = false) :
    ∃ rest, (tokens (c :: cs)).head? = some (c :: rest) := by
  obtain ⟨piece, others, hpieces⟩ := List.exists_cons_of_ne_nil (pieces_ne_nil isBlank cs)
  refine ⟨piece, ?_⟩
  simp [tokens, pieces, hc, hpieces]

theorem tokens_space_append (h : IsSpace space) (cs : List Char) : tokens (space ++ cs) = tokens cs := by
  induction space with
  | nil => rfl
  | cons b space ih =>
      obtain ⟨hb, hspace⟩ := List.forall_mem_cons.mp h
      rw [← ih hspace]
      simp [tokens, pieces, hb]

theorem pieces_concat {p : Char → Bool} (hb : p b = true) (cs : List Char) :
    pieces p (cs ++ [b]) = pieces p cs ++ [[]] := by
  induction cs with
  | nil => simp [pieces, hb]
  | cons c cs ih =>
      obtain ⟨piece, others, hpieces⟩ := List.exists_cons_of_ne_nil (pieces_ne_nil p cs)
      rw [hpieces] at ih
      simp only [List.cons_append, pieces, ih, hpieces]
      split
      · rfl
      · rfl

theorem tokens_append_space (h : IsSpace space) (cs : List Char) : tokens (cs ++ space) = tokens cs := by
  induction space generalizing cs with
  | nil => rw [List.append_nil]
  | cons b space ih =>
      obtain ⟨hb, hspace⟩ := List.forall_mem_cons.mp h
      rw [List.append_cons, ih hspace]
      simp [tokens, pieces_concat hb]

theorem tokens_trim (cs : List Char) : tokens (trim cs) = tokens cs := by
  obtain ⟨space, space', hspace, hspace', hcs⟩ := exists_eq_trim cs
  conv => rhs; rw [hcs, tokens_append_space hspace', tokens_space_append hspace]

/-- A text starts with a run of characters that satisfy `p`. -/
theorem exists_run (p : Char → Bool) (cs : List Char) : ∃ front rest, (∀ c ∈ front, p c = true) ∧
    (∀ c, rest.head? = some c → p c = false) ∧ cs = front ++ rest := by
  induction cs with
  | nil => exact ⟨[], [], by simp, by simp, rfl⟩
  | cons c cs ih =>
      cases hc : p c with
      | true =>
          obtain ⟨front, rest, hfront, hrest, rfl⟩ := ih
          exact ⟨c :: front, rest, List.forall_mem_cons.mpr ⟨hc, hfront⟩, hrest, rfl⟩
      | false => exact ⟨[], c :: cs, by simp, by simpa using hc, rfl⟩

/-- A text is white space, or it starts with a token behind white space. -/
theorem isSpace_or_first_token (cs : List Char) :
    IsSpace cs ∧ tokens cs = [] ∨
      ∃ space token rest, IsSpace space ∧ IsSolid token ∧ token ≠ [] ∧ cs = space ++ token ++ rest ∧
        tokens cs = token :: tokens rest := by
  obtain ⟨space, cs, hspace, hfirst, rfl⟩ := exists_run isBlank cs
  obtain ⟨token, rest, htoken, hrest, rfl⟩ := exists_run (fun c => !isBlank c) cs
  have hsolid : IsSolid token := fun c hc => by simpa using htoken c hc
  rw [tokens_space_append hspace]
  by_cases hne : token = []
  · -- what comes after the white space starts with neither
    subst hne
    have hnil : rest = [] := by
      cases rest with
      | nil => rfl
      | cons c rest => exact absurd (hfirst c rfl) (by simpa using hrest c rfl)
    subst hnil
    exact Or.inl ⟨by rwa [List.append_nil, List.append_nil], rfl⟩
  · refine Or.inr ⟨space, token, rest, ?_⟩
    cases rest with
    | nil =>
        rw [List.append_nil, List.append_nil]
        exact ⟨hspace, hsolid, hne, rfl, tokens_of_isSolid hsolid hne⟩
    | cons b rest =>
        have hb : isBlank b = true := by simpa using hrest b rfl
        have htail : tokens (b :: rest) = tokens rest := by simp [tokens, pieces, hb]
        rw [htail]
        exact ⟨hspace, hsolid, hne, (List.append_assoc ..).symm, tokens_append_cons hsolid hne hb⟩

/-- The tokens of a text stand in it. -/
theorem mem_tokens {token : List Char} (h : token ∈ tokens cs) : token <:+: cs ∧ IsSolid token := by
  induction hn : cs.length using Nat.strongRecOn generalizing cs with
  | ind n ih =>
      rcases isSpace_or_first_token cs with
        ⟨-, hnone⟩ | ⟨space, first, rest, -, hsolid, hne, rfl, htokens⟩
      · rw [hnone] at h
        cases h
      · rw [htokens] at h
        rcases List.mem_cons.mp h with rfl | h
        · exact ⟨⟨space, rest, rfl⟩, hsolid⟩
        · have hlength := List.length_pos_iff.mpr hne
          rw [List.length_append, List.length_append] at hn
          obtain ⟨hwithin, hsolid⟩ := ih rest.length (by omega) h rfl
          exact ⟨hwithin.trans (List.suffix_append ..).isInfix, hsolid⟩

/-! ## Search -/

theorem isPrefixOf?_append (front rest : List Char) : front.isPrefixOf? (front ++ rest) = some rest := by
  induction front with
  | nil => cases rest <;> rfl
  | cons c front ih =>
      show (if c == c then front.isPrefixOf? (front ++ rest) else none) = some rest
      rw [if_pos (beq_self_eq_true c), ih]

/-- What stands in front is the first occurrence. -/
theorem after?_append (front rest : List Char) : after? front (front ++ rest) = some rest := by
  have hprefix := isPrefixOf?_append front rest
  cases htext : front ++ rest with
  | nil =>
      rw [htext] at hprefix
      simpa [after?] using hprefix
  | cons c cs =>
      rw [htext] at hprefix
      simp [after?, hprefix]

theorem splitAtFirst?_append (h : mark ∉ front) :
    splitAtFirst? mark (front ++ mark :: back) = some (front, back) := by
  induction front with
  | nil => simp [splitAtFirst?]
  | cons c front ih =>
      obtain ⟨hc, hfront⟩ := not_or.mp (mt List.mem_cons.mpr h)
      simp [splitAtFirst?, Ne.symm hc, ih hfront]

theorem splitAtFirst?_eq_none (h : mark ∉ cs) : splitAtFirst? mark cs = none := by
  induction cs with
  | nil => rfl
  | cons c cs ih =>
      obtain ⟨hc, hcs⟩ := not_or.mp (mt List.mem_cons.mpr h)
      simp [splitAtFirst?, Ne.symm hc, ih hcs]

theorem splitAtLast?_concat (front : List Char) (mark : Char) :
    splitAtLast? mark (front ++ [mark]) = some (front, []) := by
  simp [splitAtLast?, splitAtFirst?]

/-! ## Letter case -/

@[simp]
theorem length_foldCase (cs : List Char) : (foldCase cs).length = cs.length := by
  simp [foldCase]

@[simp]
theorem foldCase_append (front back : List Char) :
    foldCase (front ++ back) = foldCase front ++ foldCase back := by
  simp [foldCase]

/-- The letters `A` to `Z` go 32 places up. -/
theorem toNat_toLower (hlow : 65 ≤ c.toNat) (hhigh : c.toNat ≤ 90) : c.toLower.toNat = c.toNat + 32 := by
  have hupper : c.val ≥ 'A'.val ∧ c.val ≤ 'Z'.val :=
    ⟨UInt32.le_iff_toNat_le.mpr hlow, UInt32.le_iff_toNat_le.mpr hhigh⟩
  have hsame : c.val.toNat = c.toNat := rfl
  unfold Char.toLower
  rw [dif_pos hupper]
  show (c.val + 32).toNat = c.val.toNat + 32
  rw [UInt32.toNat_add]
  show (c.val.toNat + 32) % 2 ^ 32 = c.val.toNat + 32
  omega

theorem toLower_of_not_upper (h : ¬ (65 ≤ c.toNat ∧ c.toNat ≤ 90)) : c.toLower = c := by
  have hother : ¬ (c.val ≥ 'A'.val ∧ c.val ≤ 'Z'.val) := fun ⟨hlow, hhigh⟩ =>
    h ⟨UInt32.le_iff_toNat_le.mp hlow, UInt32.le_iff_toNat_le.mp hhigh⟩
  unfold Char.toLower
  rw [dif_neg hother]

/-- A character is kept, or it is one of the letters `A` to `Z` and goes 32 places up. -/
theorem toLower_cases (c : Char) :
    c.toLower = c ∨ 65 ≤ c.toNat ∧ c.toNat ≤ 90 ∧ c.toLower.toNat = c.toNat + 32 := by
  by_cases h : 65 ≤ c.toNat ∧ c.toNat ≤ 90
  · exact Or.inr ⟨h.1, h.2, toNat_toLower h.1 h.2⟩
  · exact Or.inl (toLower_of_not_upper h)

/-- A lower-case letter comes from either of its two cases. -/
theorem eq_or_eq_of_toLower {lower : Char} (upper : Char) (h : c.toLower = lower)
    (hcode : lower.toNat = upper.toNat + 32) : c = lower ∨ c = upper := by
  rcases toLower_cases c with hsame | ⟨-, -, hup⟩
  · exact Or.inl (hsame.symm.trans h)
  · rw [h] at hup
    exact Or.inr (Char.toNat_inj.mp (by omega))

@[simp]
theorem toLower_toLower (c : Char) : c.toLower.toLower = c.toLower := by
  rcases toLower_cases c with h | ⟨hlow, hhigh, h⟩
  · rw [h, h]
  · rcases toLower_cases c.toLower with h' | ⟨_, hhigh', _⟩
    · exact h'
    · omega

@[simp]
theorem foldCase_foldCase (cs : List Char) : foldCase (foldCase cs) = foldCase cs := by
  simp [foldCase]

/-- No character between the letters `A` and `z` is white space. -/
theorem isBlank_of_between (hlow : 65 ≤ c.toNat) (hhigh : c.toNat ≤ 122) : isBlank c = false := by
  simp only [isBlank, Bool.or_eq_false_iff, Bool.and_eq_false_iff, decide_eq_false_iff_not,
    beq_eq_false_iff_ne]
  omega

/-- White space has no case. -/
theorem isBlank_toLower (c : Char) : isBlank c.toLower = isBlank c := by
  rcases toLower_cases c with h | ⟨hlow, hhigh, h⟩
  · rw [h]
  · rw [isBlank_of_between hlow (by omega), isBlank_of_between (by omega) (by omega)]

/-- A character that has no case is not in a text if it is not in the folded text. -/
theorem not_mem_of_foldCase (hmark : mark.toLower = mark) (h : mark ∉ foldCase cs) : mark ∉ cs := by
  intro hmem
  apply h
  rw [← hmark]
  exact List.mem_map_of_mem hmem

theorem isSolid_of_foldCase (h : IsSolid (foldCase cs)) : IsSolid cs := by
  intro c hc
  rw [← isBlank_toLower]
  exact h c.toLower (List.mem_map_of_mem hc)

theorem isTrimmed_of_foldCase (h : IsTrimmed (foldCase cs)) : IsTrimmed cs where
  ne_nil := by
    rintro rfl
    exact h.ne_nil rfl
  first := by
    intro c hc
    rw [← isBlank_toLower]
    apply h.first
    simp [foldCase, hc]
  last := by
    intro c hc
    rw [← isBlank_toLower]
    apply h.last
    simp [foldCase, hc]

end StackWalk.Text
