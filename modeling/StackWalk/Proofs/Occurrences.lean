import Mathlib.Data.List.Infix
import StackWalk.Proofs.Tokens

/-!
# StackWalk.Proofs.Occurrences — a word in a text, found and replaced

A search goes through a text from left to right, and so does a replacement, which goes on behind each
occurrence.  Both are told what they do by where an occurrence starts: one equation for a place where one
does and one for a place where none does (`replaceAll_append_self`, `replaceAll_cons`), and
`replacing_induction` follows the replacement.  From this come the places where a text may be cut in two
without a change to the result: at a character that the pattern does not have (`replaceAll_append_cons`) and
behind a text in which no occurrence starts (`IsInert`).

To erase a word is to undo that copies of it were put in.  `Stuffed word cs cs'` says that `cs'` is `cs` with
copies of the word in it.  What is erased can always be put back (`stuffed_replaceAll`).  Conversely what was
put in is erased again (`Stuffed.replaceAll_eq`) if the word was not in the text before and does not overlap
with itself: then the letters on both sides of a copy never make up a copy with letters of it.
-/

namespace StackWalk.Text

variable {pattern new word cs cs' front back : List Char} {c first : Char}

/-! ## Where an occurrence starts -/

theorem replaceFrom_eq (pattern new : List Char) (skip : Nat) (cs : List Char) :
    replaceFrom pattern new skip cs = replaceAll pattern new (cs.drop skip) := by
  induction cs generalizing skip with
  | nil => rw [List.drop_nil, replaceAll, replaceFrom, replaceFrom]
  | cons c cs ih =>
      cases skip with
      | zero => rfl
      | succ skip => exact ih skip

@[simp]
theorem replaceAll_nil (pattern new : List Char) : replaceAll pattern new [] = [] := by
  rw [replaceAll, replaceFrom]

/-- An occurrence is replaced, and the search goes on behind it. -/
theorem replaceAll_append_self (hne : pattern ≠ []) (rest : List Char) :
    replaceAll pattern new (pattern ++ rest) = new ++ replaceAll pattern new rest := by
  obtain ⟨c, cs, rfl⟩ := List.exists_cons_of_ne_nil hne
  have hstands : (c :: cs).isPrefixOf (c :: (cs ++ rest)) = true := by
    rw [List.isPrefixOf_iff_prefix]
    exact List.prefix_append (c :: cs) rest
  rw [List.cons_append, replaceAll, replaceFrom, if_pos hstands, replaceFrom_eq]
  simp

/-- A character where no occurrence starts is kept. -/
theorem replaceAll_cons (h : ¬ pattern <+: c :: cs) :
    replaceAll pattern new (c :: cs) = c :: replaceAll pattern new cs := by
  have hstands : ¬ pattern.isPrefixOf (c :: cs) = true := by rwa [List.isPrefixOf_iff_prefix]
  rw [replaceAll, replaceFrom, if_neg hstands, replaceAll]

/-- An induction that goes through a text as the replacement does. -/
theorem replacing_induction {motive : List Char → Prop} (hne : pattern ≠ []) (nil : motive [])
    (replaced : ∀ rest, motive rest → motive (pattern ++ rest))
    (kept : ∀ c cs, ¬ pattern <+: c :: cs → motive cs → motive (c :: cs)) (cs : List Char) :
    motive cs := by
  induction hn : cs.length using Nat.strongRecOn generalizing cs with
  | _ n ih =>
      by_cases hstands : pattern <+: cs
      · obtain ⟨rest, rfl⟩ := hstands
        have hpattern := List.length_pos_iff.mpr hne
        rw [List.length_append] at hn
        exact replaced rest (ih rest.length (by omega) rest rfl)
      · cases cs with
        | nil => exact nil
        | cons c cs =>
            rw [List.length_cons] at hn
            exact kept c cs hstands (ih cs.length (by omega) cs rfl)

/-! ## Cuts -/

theorem prefix_of_prefix_append_cons (h : pattern <+: front ++ c :: back) (hc : c ∉ pattern) :
    pattern <+: front := by
  rcases List.prefix_or_prefix_of_prefix h (List.prefix_append front (c :: back)) with
    hfront | ⟨rest, rfl⟩
  · exact hfront
  · rw [List.prefix_append_right_inj] at h
    cases rest with
    | nil => simp
    | cons d rest =>
        obtain ⟨rfl, -⟩ := List.cons_prefix_cons.mp h
        simp at hc

/-- No occurrence reaches over a character that the pattern does not have. -/
theorem replaceAll_append_cons (hne : pattern ≠ []) (hc : c ∉ pattern) (front back : List Char) :
    replaceAll pattern new (front ++ c :: back) =
      replaceAll pattern new front ++ c :: replaceAll pattern new back := by
  induction front using replacing_induction hne with
  | nil =>
      have hstands : ¬ pattern <+: c :: back := by
        intro h
        have hnil : pattern <+: [] := prefix_of_prefix_append_cons h hc
        exact hne (List.prefix_nil.mp hnil)
      rw [List.nil_append, replaceAll_cons hstands, replaceAll_nil, List.nil_append]
  | replaced rest ih =>
      rw [List.append_assoc, replaceAll_append_self hne, ih, replaceAll_append_self hne, List.append_assoc]
  | kept d front hstands ih =>
      have hstands' : ¬ pattern <+: d :: front ++ c :: back := fun h =>
        hstands (prefix_of_prefix_append_cons h hc)
      rw [List.cons_append] at hstands'
      rw [List.cons_append, replaceAll_cons hstands', ih, replaceAll_cons hstands, List.cons_append]

/-- No occurrence of the pattern starts in the text, whatever follows it. -/
def IsInert (pattern front : List Char) : Prop :=
  ∀ n < front.length, ¬ front.drop n <+: pattern ∧ ¬ pattern <+: front.drop n

instance : Decidable (IsInert pattern front) :=
  inferInstanceAs
    (Decidable (∀ n < front.length, ¬ front.drop n <+: pattern ∧ ¬ pattern <+: front.drop n))

theorem IsInert.cons (hshort : ¬ c :: front <+: pattern) (hlong : ¬ pattern <+: c :: front)
    (h : IsInert pattern front) : IsInert pattern (c :: front) := by
  intro n hn
  cases n with
  | zero => exact ⟨hshort, hlong⟩
  | succ n => exact h n (by simpa using hn)

theorem IsInert.tail (h : IsInert pattern (c :: front)) : IsInert pattern front := by
  intro n hn
  simpa using h (n + 1) (by simpa using hn)

theorem IsInert.not_start (h : IsInert pattern (c :: front)) (back : List Char) :
    ¬ pattern <+: c :: (front ++ back) := by
  obtain ⟨hshort, hlong⟩ := h 0 (by simp)
  intro hstart
  rcases List.prefix_or_prefix_of_prefix hstart (List.prefix_append (c :: front) back) with h | h
  · exact hlong h
  · exact hshort h

theorem isInert_of_first (h : first ∉ front) (pattern : List Char) :
    IsInert (first :: pattern) front := by
  intro n hn
  obtain ⟨c, rest, hrest⟩ := List.exists_cons_of_ne_nil (mt List.drop_eq_nil_iff.mp (Nat.not_le.mpr hn))
  have hc : c ∈ front := List.mem_of_mem_drop (i := n) (by simp [hrest])
  have hother : c ≠ first := by
    rintro rfl
    exact h hc
  rw [hrest]
  simp [List.cons_prefix_cons, hother, Ne.symm hother]

theorem replaceAll_append (h : IsInert pattern front) (back : List Char) :
    replaceAll pattern new (front ++ back) = front ++ replaceAll pattern new back := by
  induction front with
  | nil => rfl
  | cons c front ih => rw [List.cons_append, replaceAll_cons (h.not_start back), ih h.tail, List.cons_append]

/-- A text of characters that the pattern does not have stays as it is, and separates what is around it. -/
theorem replaceAll_append_append {middle : List Char} (hne : pattern ≠ []) (hmiddle : middle ≠ [])
    (h : ∀ c ∈ middle, c ∉ pattern) (front back : List Char) :
    replaceAll pattern new (front ++ middle ++ back) =
      replaceAll pattern new front ++ middle ++ replaceAll pattern new back := by
  obtain ⟨c, middle, rfl⟩ := List.exists_cons_of_ne_nil hmiddle
  obtain ⟨first, pattern, rfl⟩ := List.exists_cons_of_ne_nil hne
  obtain ⟨hc, hrest⟩ := List.forall_mem_cons.mp h
  have hinert : IsInert (first :: pattern) middle := isInert_of_first
    (fun hfirst => hrest first hfirst (List.mem_cons_self ..)) pattern
  rw [List.append_assoc, List.cons_append, replaceAll_append_cons hne hc, replaceAll_append hinert,
    List.append_assoc, List.cons_append]

theorem not_infix_of_not_mem (hc : c ∈ pattern) (h : c ∉ cs) : ¬ pattern <:+: cs := fun hwithin =>
  h (hwithin.mem hc)

theorem replaceAll_eq_self (h : ¬ pattern <:+: cs) : replaceAll pattern new cs = cs := by
  induction cs with
  | nil => simp
  | cons c cs ih =>
      obtain ⟨hstands, hrest⟩ := not_or.mp (mt List.infix_cons_iff.mpr h)
      rw [replaceAll_cons hstands, ih hrest]

/-- A replacement by something leaves something of every text. -/
theorem replaceAll_eq_nil_iff (hne : pattern ≠ []) (hnew : new ≠ []) :
    replaceAll pattern new cs = [] ↔ cs = [] := by
  induction cs using replacing_induction hne with
  | nil => simp
  | replaced rest => simp [replaceAll_append_self hne, hne, hnew]
  | kept c cs hstands => simp [replaceAll_cons hstands]

theorem not_mem_replaceAll (hne : pattern ≠ []) (hcs : c ∉ cs) (hnew : c ∉ new) :
    c ∉ replaceAll pattern new cs := by
  induction cs using replacing_induction hne with
  | nil => simp
  | replaced rest ih =>
      rw [replaceAll_append_self hne]
      have hrest : c ∉ rest := fun hc => hcs (List.mem_append_right pattern hc)
      exact fun hc => (List.mem_append.mp hc).elim hnew (ih hrest)
  | kept d cs hstands ih =>
      obtain ⟨hd, hcs⟩ := not_or.mp (mt List.mem_cons.mpr hcs)
      rw [replaceAll_cons hstands]
      exact fun hc => (List.mem_cons.mp hc).elim hd (ih hcs)

/-! ## The first occurrence -/

theorem after?_cons (h : ¬ pattern <+: c :: cs) : after? pattern (c :: cs) = after? pattern cs := by
  have hnone : pattern.isPrefixOf? (c :: cs) = none := by
    rw [Option.eq_none_iff_forall_ne_some]
    intro rest hrest
    exact h ⟨rest, List.isPrefixOf?_eq_some_iff_append_eq.mp hrest⟩
  rw [after?, hnone]

theorem after?_nil (cs : List Char) : after? [] cs = some cs :=
  after?_append [] cs

theorem after?_append_of_isInert (h : IsInert pattern front) (back : List Char) :
    after? pattern (front ++ back) = after? pattern back := by
  induction front with
  | nil => rfl
  | cons c front ih => rw [List.cons_append, after?_cons (h.not_start back), ih h.tail]

/-- What follows a text does not matter to the first occurrence in it. -/
theorem exists_after?_of_within (h : pattern <:+: front) :
    ∃ before behind, front = before ++ pattern ++ behind ∧
      ∀ back, after? pattern (front ++ back) = some (behind ++ back) := by
  induction front with
  | nil =>
      obtain rfl := List.infix_nil.mp h
      exact ⟨[], [], rfl, after?_append []⟩
  | cons c front ih =>
      by_cases hstands : pattern <+: c :: front
      · obtain ⟨behind, hbehind⟩ := hstands
        refine ⟨[], behind, hbehind.symm, fun back => ?_⟩
        rw [← hbehind, List.append_assoc]
        exact after?_append pattern (behind ++ back)
      · have hwithin := (List.infix_cons_iff.mp h).resolve_left hstands
        obtain ⟨before, behind, hfront, hafter⟩ := ih hwithin
        refine ⟨c :: before, behind, congrArg (c :: ·) hfront, fun back => ?_⟩
        have hstands' : ¬ pattern <+: c :: (front ++ back) := fun hstart =>
          hstands (List.prefix_of_prefix_length_le hstart (List.prefix_append (c :: front) back)
            (Nat.le_succ_of_le hwithin.length_le))
        rw [List.cons_append, after?_cons hstands', hafter]

/-! ## Copies of a word -/

/-- The second text is the first one with copies of the word put into it. -/
inductive Stuffed (word : List Char) : List Char → List Char → Prop
  | nil : Stuffed word [] []
  | keep {cs cs' : List Char} (c : Char) (hrest : Stuffed word cs cs') : Stuffed word (c :: cs) (c :: cs')
  | put {cs cs' : List Char} (hrest : Stuffed word cs cs') : Stuffed word cs (word ++ cs')

/-- No part of the word is both its beginning and its end. -/
def IsBorderless (word : List Char) : Prop :=
  ∀ n < word.length, word.take n <:+ word → n = 0

instance : Decidable (IsBorderless word) :=
  inferInstanceAs (Decidable (∀ n < word.length, word.take n <:+ word → n = 0))

/-- What is erased can be put back. -/
theorem stuffed_replaceAll (hne : word ≠ []) (cs : List Char) :
    Stuffed word (replaceAll word [] cs) cs := by
  induction cs using replacing_induction hne with
  | nil => simpa using Stuffed.nil
  | replaced rest ih =>
      rw [replaceAll_append_self hne, List.nil_append]
      exact ih.put
  | kept c cs hstands ih =>
      rw [replaceAll_cons hstands]
      exact ih.keep c

theorem Stuffed.not_mem (h : Stuffed word cs cs') (hcs : c ∉ cs) (hword : c ∉ word) : c ∉ cs' := by
  induction h with
  | nil => exact hcs
  | keep d hrest ih =>
      obtain ⟨hd, hcs⟩ := not_or.mp (mt List.mem_cons.mpr hcs)
      exact fun hc => (List.mem_cons.mp hc).elim hd (ih hcs)
  | put hrest ih => exact fun hc => (List.mem_append.mp hc).elim hword (ih hcs)

/-- The end of an occurrence does not come from a copy. -/
theorem Stuffed.prefix_of_suffix {ending : List Char} (h : Stuffed word cs cs')
    (hword : IsBorderless word) (hstart : ending <+: cs') (hsuffix : ending <:+ word)
    (hlength : ending.length < word.length) : ending <+: cs := by
  induction h generalizing ending with
  | nil => exact hstart
  | keep c hrest ih =>
      cases ending with
      | nil => exact List.nil_prefix
      | cons d ending =>
          obtain ⟨rfl, hending⟩ := List.cons_prefix_cons.mp hstart
          have hshorter : ending.length < word.length := by
            rw [List.length_cons] at hlength
            omega
          exact List.cons_prefix_cons.mpr
            ⟨rfl, ih hending ((List.suffix_cons d ending).trans hsuffix) hshorter⟩
  | put hrest =>
      have hborder : ending <+: word :=
        List.prefix_of_prefix_length_le hstart (List.prefix_append ..) (Nat.le_of_lt hlength)
      have htake : ending = word.take ending.length := List.prefix_iff_eq_take.mp hborder
      have hzero : ending.length = 0 := hword _ hlength (htake ▸ hsuffix)
      rw [List.eq_nil_of_length_eq_zero hzero]
      exact List.nil_prefix

/-- What was put in is erased, if the word was not in the text and has no border. -/
theorem Stuffed.replaceAll_eq (h : Stuffed word cs cs') (hword : IsBorderless word) (hne : word ≠ [])
    (habsent : ¬ word <:+: cs) : replaceAll word [] cs' = cs := by
  induction h with
  | nil => simp
  | @keep cs cs' c hrest ih =>
      obtain ⟨hstands, habsent⟩ := not_or.mp (mt List.infix_cons_iff.mpr habsent)
      have hstands' : ¬ word <+: c :: cs' := by
        intro hstart
        obtain ⟨d, ending, rfl⟩ := List.exists_cons_of_ne_nil hne
        obtain ⟨rfl, hending⟩ := List.cons_prefix_cons.mp hstart
        have hkept := hrest.prefix_of_suffix hword hending (List.suffix_cons ..) (by simp)
        exact hstands (List.cons_prefix_cons.mpr ⟨rfl, hkept⟩)
      rw [replaceAll_cons hstands', ih habsent]
  | put hrest ih => rw [replaceAll_append_self hne, List.nil_append, ih habsent]

end StackWalk.Text
