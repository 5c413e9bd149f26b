import StackWalk.Instruction.Disassembly
import StackWalk.Proofs.Tokens

/-!
# StackWalk.Proofs.Instruction.Parts — an instruction's text put together and taken apart

A disassembler writes a mnemonic, a space, and the operands between commas.  `ofText_written` says that
such a text comes apart into what it was put together from: any number of operands, with any commas inside
of their brackets.

What an operand needs for this is `IsOperand`.  The depth in brackets is one number for square brackets and
braces together; it has to be back at zero where the operand ends, and at a comma it has to be something
else.  Then a cut that reaches the operand at depth zero goes past it in one piece
(`cutAtCommas_append_comma`), whatever the depth was in between.
-/

namespace StackWalk.Disassembly

open Text

/-! ## Texts of instructions -/

/-- How many brackets and braces more are opened than closed in the first `n` characters. -/
def depthAt (cs : List Char) (n : Nat) : Int :=
  ((cs.take n).countP fun c => c = '[' ∨ c = '\x7b') - ((cs.take n).countP fun c => c = ']' ∨ c = '\x7d')

/-- A mnemonic is a token, and no modifier. -/
structure IsMnemonic (m : List Char) : Prop where
  ne_nil : m ≠ []
  solid : IsSolid m
  plain : isOneOf Architecture.modifiers m = false

/-- An operand as it is written: without white space at its ends, with as many brackets closed as opened,
and with no comma outside of them. -/
structure IsOperand (op : List Char) : Prop where
  trimmed : IsTrimmed op
  closed : depthAt op op.length = 0
  commas : ∀ n, op[n]? = some ',' → depthAt op n ≠ 0

instance {m : List Char} : Decidable (IsMnemonic m) :=
  decidable_of_iff (m ≠ [] ∧ IsSolid m ∧ isOneOf Architecture.modifiers m = false)
    ⟨fun ⟨hne, hsolid, hplain⟩ => ⟨hne, hsolid, hplain⟩, fun h => ⟨h.ne_nil, h.solid, h.plain⟩⟩

instance {op : List Char} : Decidable (IsOperand op) :=
  decidable_of_iff
    (IsTrimmed op ∧ depthAt op op.length = 0 ∧ ∀ n < op.length, op[n]? = some ',' → depthAt op n ≠ 0)
    ⟨fun ⟨htrimmed, hclosed, hcommas⟩ =>
      ⟨htrimmed, hclosed, fun n hn => hcommas n (List.getElem?_eq_some_iff.mp hn).1 hn⟩,
      fun h => ⟨h.trimmed, h.closed, fun n _ => h.commas n⟩⟩

/-- The operands with a comma and a space between them. -/
def listed (ops : List (List Char)) : List Char :=
  joinWith [',', ' '] ops

/-- A mnemonic and its operands; without operands there is no space behind it. -/
def written (m : List Char) (ops : List (List Char)) : List Char :=
  if ops = [] then m else m ++ ' ' :: listed ops

variable {m op piece rest cs front inner back : List Char} {ops : List (List Char)} {c : Char} {depth : Int}

/-! ## Depth -/

@[simp]
theorem depthAt_zero (cs : List Char) : depthAt cs 0 = 0 := by
  simp [depthAt]

@[simp]
theorem depthAt_cons_succ (c : Char) (cs : List Char) (n : Nat) :
    depthAt (c :: cs) (n + 1) = nesting c + depthAt cs n := by
  simp only [depthAt, List.take_succ_cons, List.countP_cons, nesting]
  by_cases hopen : c = '[' ∨ c = '\x7b'
  · have hclose : ¬ (c = ']' ∨ c = '\x7d') := by
      rcases hopen with rfl | rfl <;> decide
    simp only [hopen, hclose, decide_true, decide_false, if_true, if_false, Bool.false_eq_true]
    omega
  · by_cases hclose : c = ']' ∨ c = '\x7d'
    · simp only [hopen, hclose, decide_true, decide_false, if_true, if_false, Bool.false_eq_true]
      omega
    · simp only [hopen, hclose, decide_false, if_false, Bool.false_eq_true]
      omega

/-! ## Flat texts -/

/-- The characters that the cut into operands looks at. -/
def marks : List Char := [',', '[', '\x7b', ']', '\x7d']

/-- The text has neither commas nor brackets. -/
def IsFlat (cs : List Char) : Prop :=
  ∀ mark ∈ marks, mark ∉ cs

instance {cs : List Char} : Decidable (IsFlat cs) :=
  decidable_of_iff (marks.all fun mark => mark ∉ cs) List.all_iff_forall_prop

theorem IsFlat.append (h : IsFlat front) (h' : IsFlat back) : IsFlat (front ++ back) := by
  intro mark hmark hmem
  rcases List.mem_append.mp hmem with hmem | hmem
  · exact h mark hmark hmem
  · exact h' mark hmark hmem

theorem isFlat_of_foldCase (h : IsFlat (foldCase cs)) : IsFlat cs := by
  have hcase : ∀ mark ∈ marks, mark.toLower = mark := List.all_iff_forall_prop.mp (by decide)
  intro mark hmark
  exact not_mem_of_foldCase (hcase mark hmark) (h mark hmark)

theorem IsFlat.nesting_eq_zero (h : IsFlat (c :: cs)) : nesting c = 0 := by
  have hc : c ∉ marks := fun hmark => h c hmark (List.mem_cons_self ..)
  simp only [marks, List.mem_cons, List.not_mem_nil, or_false, not_or] at hc
  obtain ⟨-, hopen, hopen', hclose, hclose'⟩ := hc
  simp [nesting, hopen, hopen', hclose, hclose']

theorem IsFlat.depthAt_eq_zero (h : IsFlat cs) (n : Nat) : depthAt cs n = 0 := by
  induction cs generalizing n with
  | nil => simp [depthAt]
  | cons c cs ih =>
      cases n with
      | zero => exact depthAt_zero _
      | succ n =>
          have hrest : IsFlat cs := fun mark hmark hmem => h mark hmark (List.mem_cons_of_mem c hmem)
          rw [depthAt_cons_succ, h.nesting_eq_zero, ih hrest, Int.add_zero]

theorem depthAt_length_append (front back : List Char) :
    depthAt (front ++ back) (front ++ back).length = depthAt front front.length + depthAt back back.length := by
  simp only [depthAt, List.take_length, List.countP_append]
  omega

theorem IsFlat.isOperand (h : IsFlat op) (htrimmed : IsTrimmed op) : IsOperand op where
  trimmed := htrimmed
  closed := h.depthAt_eq_zero op.length
  commas := by
    intro n hn
    exact absurd (List.mem_of_getElem? hn) (h ',' (by decide))

/-- A flat text in brackets, with a flat text in front of it, is one operand. -/
theorem IsFlat.isOperand_brackets (h : IsFlat front) (hinner : IsFlat inner)
    (htrimmed : IsTrimmed (front ++ ('[' :: inner ++ [']']))) :
    IsOperand (front ++ ('[' :: inner ++ [']'])) where
  trimmed := htrimmed
  closed := by
    have hopen : depthAt ['['] 1 = 1 := by decide
    have hclose : depthAt [']'] 1 = -1 := by decide
    have hbrackets : '[' :: inner ++ [']'] = ['['] ++ inner ++ [']'] := rfl
    rw [hbrackets, depthAt_length_append, depthAt_length_append, depthAt_length_append,
      h.depthAt_eq_zero, hinner.depthAt_eq_zero]
    show 0 + (depthAt ['['] 1 + 0 + depthAt [']'] 1) = 0
    rw [hopen, hclose]
    rfl
  commas := by
    intro n hn
    have hfront := h ',' (by decide)
    have hcomma := hinner ',' (by decide)
    have hmem := List.mem_of_getElem? hn
    simp [hfront, hcomma] at hmem

/-! ## The cut -/

/-- A piece that has no comma at depth zero is not cut, and what follows is cut at the depth behind it. -/
theorem cutAtCommas_append (hcommas : ∀ n, piece[n]? = some ',' → depth + depthAt piece n ≠ 0) :
    cutAtCommas depth (piece ++ rest) =
      match cutAtCommas (depth + depthAt piece piece.length) rest with
      | [] => [piece]
      | next :: others => (piece ++ next) :: others := by
  induction piece generalizing depth with
  | nil =>
      obtain ⟨next, others, hcut⟩ := List.exists_cons_of_ne_nil (cutAtCommas_ne_nil depth rest)
      simp [hcut]
  | cons c piece ih =>
      have hfirst : ¬ (c = ',' ∧ depth = 0) := by
        rintro ⟨rfl, hdepth⟩
        exact hcommas 0 rfl (by simpa using hdepth)
      have hpiece : ∀ n, piece[n]? = some ',' → depth + nesting c + depthAt piece n ≠ 0 := by
        intro n hn
        have := hcommas (n + 1) hn
        rw [depthAt_cons_succ] at this
        omega
      have hdepth : depth + depthAt (c :: piece) (c :: piece).length =
          depth + nesting c + depthAt piece piece.length := by
        rw [List.length_cons, depthAt_cons_succ]
        omega
      obtain ⟨next, others, hcut⟩ := List.exists_cons_of_ne_nil
        (cutAtCommas_ne_nil (depth + nesting c + depthAt piece piece.length) rest)
      rw [List.cons_append, cutAtCommas, if_neg hfirst, ih hpiece, hdepth, hcut]
      rfl

/-- A cut at depth zero goes past an operand, and what follows is cut at depth zero again. -/
theorem IsOperand.cutAtCommas_append (h : IsOperand op) (rest : List Char) :
    Disassembly.cutAtCommas 0 (op ++ rest) =
      match Disassembly.cutAtCommas 0 rest with
      | [] => [op]
      | next :: others => (op ++ next) :: others := by
  have hcommas : ∀ n, op[n]? = some ',' → 0 + depthAt op n ≠ 0 := by
    intro n hn
    rw [Int.zero_add]
    exact h.commas n hn
  rw [Disassembly.cutAtCommas_append hcommas, h.closed, Int.add_zero]

/-- The last operand is one piece. -/
theorem IsOperand.cutAtCommas (h : IsOperand op) : cutAtCommas 0 op = [op] := by
  have hcut := h.cutAtCommas_append []
  simpa [Disassembly.cutAtCommas] using hcut

/-- An operand in front of a comma is one piece, and the next one starts behind the comma. -/
theorem IsOperand.cutAtCommas_append_comma (h : IsOperand op) :
    Disassembly.cutAtCommas 0 (op ++ ',' :: rest) = op :: Disassembly.cutAtCommas 0 rest := by
  rw [h.cutAtCommas_append]
  simp [Disassembly.cutAtCommas]

/-- A space is no comma: it stays in front of its piece. -/
theorem cutAtCommas_space {next : List Char} {others : List (List Char)}
    (h : cutAtCommas 0 rest = next :: others) :
    cutAtCommas 0 (' ' :: rest) = (' ' :: next) :: others := by
  simp [cutAtCommas, nesting, h]

theorem cutAtCommas_listed (h : ∀ op' ∈ op :: ops, IsOperand op') :
    cutAtCommas 0 (listed (op :: ops)) = op :: ops.map (' ' :: ·) := by
  induction ops generalizing op with
  | nil => exact (h op (List.mem_cons_self ..)).cutAtCommas
  | cons op' ops ih =>
      have hop := h op (List.mem_cons_self ..)
      have hops := ih fun op'' hop'' => h op'' (List.mem_cons_of_mem op hop'')
      have hlisted : listed (op :: op' :: ops) = op ++ ',' :: ' ' :: listed (op' :: ops) := by
        simp [listed, joinWith]
      rw [hlisted, hop.cutAtCommas_append_comma, cutAtCommas_space hops]
      rfl

/-! ## The parts -/

/-- The operands of a list are its operands. -/
theorem operandsOf_listed (h : ∀ op ∈ ops, IsOperand op) : operandsOf (listed ops) = ops := by
  cases ops with
  | nil => rfl
  | cons op ops =>
      have htrim : ∀ op' ∈ op :: ops, trim op' = op' := fun op' hop' => (h op' hop').trimmed.trim
      have hspace : ∀ op' ∈ ops, trim (' ' :: op') = op' := fun op' hop' =>
        (h op' (List.mem_cons_of_mem op hop')).trimmed.trim_cons rfl
      have hmap : (op :: ops.map (' ' :: ·)).map trim = op :: ops := by
        rw [List.map_cons, List.map_map, htrim op (List.mem_cons_self ..)]
        exact congrArg (op :: ·) ((List.map_congr_left hspace).trans (List.map_id ops))
      unfold operandsOf
      rw [cutAtCommas_listed h, hmap, List.filter_eq_self]
      intro op' hop'
      simpa using (h op' hop').trimmed.ne_nil

theorem isTrimmed_listed (h : ∀ op' ∈ op :: ops, IsOperand op') : IsTrimmed (listed (op :: ops)) := by
  induction ops generalizing op with
  | nil => exact (h op (List.mem_cons_self ..)).trimmed
  | cons op' ops ih =>
      have hop := (h op (List.mem_cons_self ..)).trimmed
      have hops := ih fun op'' hop'' => h op'' (List.mem_cons_of_mem op hop'')
      exact hop.append hops [',', ' ']

/-- The mnemonic is the first token that counts, whether operands follow or not. -/
theorem IsMnemonic.mnemonicIn_written (hm : IsMnemonic m) (ops : List (List Char)) :
    Architecture.mnemonicIn (written m ops) = m := by
  have hfirst : ∃ others, tokens (written m ops) = m :: others := by
    unfold written
    split
    · exact ⟨[], tokens_of_isSolid hm.solid hm.ne_nil⟩
    · exact ⟨_, tokens_append_cons hm.solid hm.ne_nil rfl⟩
  obtain ⟨others, htokens⟩ := hfirst
  simp [Architecture.mnemonicIn, htokens, hm.plain]

theorem isTrimmed_written (hm : IsMnemonic m) (h : ∀ op ∈ ops, IsOperand op) :
    IsTrimmed (written m ops) := by
  have hmnemonic := hm.solid.isTrimmed hm.ne_nil
  cases ops with
  | nil => exact hmnemonic
  | cons op ops => simpa [written] using hmnemonic.append (isTrimmed_listed h) [' ']

/-- What follows the mnemonic are the operands. -/
theorem trim_after_written (m : List Char) (h : ∀ op ∈ ops, IsOperand op) :
    trim ((after? m (written m ops)).getD []) = listed ops := by
  cases ops with
  | nil =>
      have hafter := after?_append m []
      rw [List.append_nil] at hafter
      simp only [written, if_true, hafter]
      rfl
  | cons op ops =>
      have hwritten : written m (op :: ops) = m ++ ' ' :: listed (op :: ops) := by
        simp [written]
      rw [hwritten, after?_append, Option.getD_some]
      exact (isTrimmed_listed h).trim_cons rfl

theorem parts_written (hm : IsMnemonic m) (hops : ∀ op ∈ ops, IsOperand op) :
    ofText (String.ofList (written m ops)) = ⟨written m ops, m, ops⟩ := by
  unfold ofText
  simp only [String.toList_ofList, (isTrimmed_written hm hops).trim, hm.mnemonicIn_written,
    trim_after_written m hops, operandsOf_listed hops]

end StackWalk.Disassembly
