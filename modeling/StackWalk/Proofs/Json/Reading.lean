import StackWalk.Json.Printer
import StackWalk.Json.Reader
import StackWalk.Proofs.Numeral

/-!
# StackWalk.Proofs.Json.Reading — what is written is read back

A value is written by one recursion and read by another one, and they meet at the tokens.  Each kind of token
is read back in front of any text, numbers only in front of a text that ends them; white space in front of a
token does not matter; and the items of an array and the members of an object are then read one by one.  The
bound of the reader is twice the length of the text, which is enough because every nested call starts behind at
least one character.
-/

namespace StackWalk.Json

variable {c : Char} {cs rest spaces : List Char} {bound depth : Nat} {layout : Layout}

/-! ## White space -/

/-- Nothing but white space. -/
def AllSpace (cs : List Char) : Prop :=
  ∀ c ∈ cs, isSpace c = true

theorem isSpace_iff : isSpace c = true ↔ c = ' ' ∨ c = '\n' ∨ c = '\t' ∨ c = '\r' := by
  simp [isSpace, or_assoc]

theorem skipSpace_append (h : AllSpace spaces) : skipSpace (spaces ++ cs) = skipSpace cs :=
  List.dropWhile_append_of_pos h

theorem skipSpace_cons (h : isSpace c = false) : skipSpace (c :: cs) = c :: cs :=
  List.dropWhile_cons_of_neg (by simp [h])

theorem skipSpace_append_cons (hspaces : AllSpace spaces) (hc : isSpace c = false) :
    skipSpace (spaces ++ c :: cs) = c :: cs := by
  rw [skipSpace_append hspaces, skipSpace_cons hc]

theorem readValue_append (h : AllSpace spaces) : readValue bound (spaces ++ cs) = readValue bound cs := by
  cases bound with
  | zero => rfl
  | succ bound => simp only [readValue, skipSpace_append h]

/-- A layout that adds nothing but white space. -/
structure Layout.IsBlank (layout : Layout) : Prop where
  line : ∀ depth, AllSpace (layout.line depth)
  colon : ∃ spaces, layout.colon = ':' :: spaces ∧ AllSpace spaces

theorem Layout.isBlank_pretty : Layout.pretty.IsBlank where
  line depth := by
    intro c h
    rcases List.mem_cons.mp h with rfl | h
    · rfl
    · rw [List.eq_of_mem_replicate h]
      rfl
  colon := ⟨[' '], rfl, by simp [AllSpace, isSpace]⟩

theorem Layout.isBlank_compact : Layout.compact.IsBlank where
  line depth := by simp [compact, AllSpace]
  colon := ⟨[], rfl, by simp [AllSpace]⟩

/-! ## Strings -/

theorem fourHexDigits_of_lt {n : Nat} (h : n < 0x100) :
    fourHexDigits '0' '0' (Nat.digitChar (n / 16)) (Nat.digitChar (n % 16)) = some n := by
  have zero : Text.digitValue? 16 '0' = some 0 := Text.digitValue?_digitChar (d := 0) (by decide) (by decide)
  have high : Text.digitValue? 16 (Nat.digitChar (n / 16)) = some (n / 16) :=
    Text.digitValue?_digitChar (by decide) (by omega)
  have low : Text.digitValue? 16 (Nat.digitChar (n % 16)) = some (n % 16) :=
    Text.digitValue?_digitChar (by decide) (by omega)
  have whole : n / 16 * 16 + n % 16 = n := Nat.div_add_mod' n 16
  simp [fourHexDigits, zero, high, low, whole]

/-- A written character is read as the character. -/
theorem scanString_escapeChar (c : Char) (front rest : List Char) :
    scanString none none front (escapeChar c ++ rest) = scanString none none (c :: front) rest := by
  by_cases hquote : c = '"'
  · subst hquote; rfl
  by_cases hbackslash : c = '\\'
  · subst hbackslash; rfl
  by_cases hb : c = '\x08'
  · subst hb; rfl
  by_cases hf : c = '\x0c'
  · subst hf; rfl
  by_cases hn : c = '\n'
  · subst hn; rfl
  by_cases hr : c = '\r'
  · subst hr; rfl
  by_cases ht : c = '\t'
  · subst ht; rfl
  simp only [escapeChar, hquote, hbackslash, hb, hf, hn, hr, ht, if_false]
  split
  case isTrue hcontrol =>
    -- A control character has no surrogate's number, so four digits give it back.
    have digits := fourHexDigits_of_lt (show c.toNat < 0x100 by omega)
    have low : isLowSurrogate c.toNat = false := by simp [isLowSurrogate]; omega
    have high : isHighSurrogate c.toNat = false := by simp [isHighSurrogate]; omega
    simp [twoHexDigits, scanString, digits, low, high]
  case isFalse hplain =>
    simp [scanString, hbackslash, hplain, flawAt]

theorem scanString_escaped (cs front rest : List Char) :
    scanString none none front (cs.flatMap escapeChar ++ '"' :: rest) =
      .text (front.reverse ++ cs) rest := by
  induction cs generalizing front with
  | nil => simp [scanString, flawAt]
  | cons c cs ih =>
    rw [List.flatMap_cons, List.append_assoc, scanString_escapeChar, ih]
    simp

theorem readValue_writeString (cs rest : List Char) :
    readValue (bound + 1) (writeString cs ++ rest) = (.string (String.ofList cs), rest) := by
  have quote : isSpace '"' = false := rfl
  have scanned := scanString_escaped cs [] rest
  simp [writeString, readValue, skipSpace_cons quote, readString, scanned]

/-! ## Numbers -/

/-- A text that ends a number in front of it: it starts with white space, a comma or a closing bracket,
if at all. -/
def Delimited (cs : List Char) : Prop :=
  ∀ c ∈ cs.head?, isSpace c = true ∨ c = ',' ∨ c = ']' ∨ c = '}'

theorem delimited_append (hspaces : AllSpace spaces) (h : Delimited cs) : Delimited (spaces ++ cs) := by
  cases spaces with
  | nil => exact h
  | cons c spaces =>
    intro d hd
    obtain rfl : c = d := by simpa using hd
    exact .inl (hspaces c List.mem_cons_self)

theorem Delimited.cases (h : Delimited (c :: cs)) :
    Text.isDigit c = false ∧ c ≠ '.' ∧ c ≠ 'e' ∧ c ≠ 'E' := by
  rcases h c rfl with h | rfl | rfl | rfl
  · rcases isSpace_iff.mp h with rfl | rfl | rfl | rfl <;> decide
  all_goals decide

/-- Neither a fraction nor an exponent follows. -/
theorem Delimited.scanFraction (h : Delimited rest) (isNegative : Bool) (whole : List Char) :
    scanFraction isNegative whole rest = .numeral ⟨isNegative, whole, none, none⟩ rest := by
  cases rest with
  | nil => rfl
  | cons c rest => simp [Json.scanFraction, scanPower, h.cases]

theorem Delimited.takeWhile_isDigit (h : Delimited rest) (hcs : ∀ c ∈ cs, Text.isDigit c = true) :
    (cs ++ rest).takeWhile Text.isDigit = cs := by
  rw [List.takeWhile_append_of_pos hcs]
  cases rest with
  | nil => simp
  | cons c rest => simp [h.cases.1]

theorem Delimited.dropWhile_isDigit (h : Delimited rest) (hcs : ∀ c ∈ cs, Text.isDigit c = true) :
    (cs ++ rest).dropWhile Text.isDigit = rest := by
  rw [List.dropWhile_append_of_pos hcs]
  cases rest with
  | nil => rfl
  | cons c rest => simp [h.cases.1]

/-- Digits without a leading zero are taken apart as an integer. -/
theorem scanWhole_digits {digits : List Char} (isNegative : Bool) (hne : digits ≠ [])
    (hdigits : ∀ c ∈ digits, Text.isDigit c = true) (hzero : digits.head? = some '0' → digits = ['0'])
    (hrest : Delimited rest) :
    scanWhole isNegative (digits ++ rest) = .numeral ⟨isNegative, digits, none, none⟩ rest := by
  obtain ⟨first, more, rfl⟩ := List.exists_cons_of_ne_nil hne
  by_cases hfirst : first = '0'
  · subst hfirst
    obtain rfl : more = [] := by simpa using hzero rfl
    cases rest with
    | nil => rfl
    | cons c rest => simp [scanWhole, hrest.cases.1, hrest.scanFraction]
  · rw [scanWhole, hrest.takeWhile_isDigit hdigits]
    · rw [hrest.dropWhile_isDigit hdigits]
      exact hrest.scanFraction isNegative (first :: more)
    · simp [hfirst]

/-- The integers of 64 bits: they are written in one way only. -/
def Number.IsInteger : Number → Prop
  | .natural _ => True
  | .negative magnitude => 0 < magnitude.toNat ∧ magnitude.toNat ≤ 0x8000_0000_0000_0000
  | .real _ => False

theorem naturalOf_decimalDigits (n : Nat) : naturalOf (Text.decimalDigits n) = n :=
  Nat.ofDigitChars_eq_foldl.symm.trans Nat.ofDigitChars_ten_toDigits

theorem scanWhole_decimalDigits (isNegative : Bool) (n : Nat) (hrest : Delimited rest) :
    scanWhole isNegative (Text.decimalDigits n ++ rest) =
      .numeral ⟨isNegative, Text.decimalDigits n, none, none⟩ rest := by
  refine scanWhole_digits isNegative Nat.toDigits_ne_nil (fun c => Text.isDigit_of_mem_decimalDigits) ?_ hrest
  intro h
  obtain rfl := Text.eq_zero_of_head?_toDigits (by decide) h
  rfl

theorem exists_cons_decimalDigits (n : Nat) :
    ∃ c cs, Text.decimalDigits n = c :: cs ∧ Text.isDigit c = true := by
  obtain ⟨c, cs, h⟩ := List.exists_cons_of_ne_nil (Nat.toDigits_ne_nil (b := 10) (n := n))
  refine ⟨c, cs, h, Text.isDigit_of_mem_decimalDigits (n := n) ?_⟩
  rw [Text.decimalDigits, h]
  exact List.mem_cons_self

/-- What a digit or a sign is not. -/
theorem plain_of_isDigit (h : c = '-' ∨ Text.isDigit c = true) :
    isSpace c = false ∧ c ≠ ']' ∧ c ≠ '{' ∧ c ≠ '[' ∧ c ≠ '"' := by
  rcases h with rfl | h
  · decide
  refine ⟨Bool.eq_false_iff.mpr fun hspace => ?_, ?_, ?_, ?_, ?_⟩
  · rcases isSpace_iff.mp hspace with rfl | rfl | rfl | rfl <;> exact absurd h (by decide)
  all_goals
    rintro rfl
    exact absurd h (by decide)

theorem exists_cons_text {n : Number} (h : n.IsInteger) :
    ∃ c cs, n.text = c :: cs ∧ (c = '-' ∨ Text.isDigit c = true) := by
  cases n with
  | natural value =>
    obtain ⟨c, cs, hcons, hdigit⟩ := exists_cons_decimalDigits value.toNat
    exact ⟨c, cs, hcons, .inr hdigit⟩
  | negative magnitude => exact ⟨'-', _, rfl, .inl rfl⟩
  | real bits => exact h.elim

theorem readNumber_text {n : Number} (h : n.IsInteger) (hrest : Delimited rest) :
    readNumber (n.text ++ rest) = (.number n, rest) := by
  cases n with
  | natural value =>
    have scanned : scanNumeral (Text.decimalDigits value.toNat ++ rest) =
        scanWhole false (Text.decimalDigits value.toNat ++ rest) := by
      obtain ⟨c, cs, hcons, hdigit⟩ := exists_cons_decimalDigits value.toNat
      have hsign : c ≠ '-' := by
        rintro rfl
        exact absurd hdigit (by decide)
      simp [hcons, scanNumeral, hsign]
    have small : value.toNat < Text.wordBound := value.toNat_lt
    simp [readNumber, Number.text, scanned, scanWhole_decimalDigits false _ hrest, Numeral.value?,
      naturalOf_decimalDigits, small]
  | negative magnitude =>
    obtain ⟨hpos, hmin⟩ := h
    simp [readNumber, Number.text, scanNumeral, scanWhole_decimalDigits true _ hrest, Numeral.value?,
      naturalOf_decimalDigits, hpos, hmin]
  | real bits => exact h.elim

theorem readValue_number (h : c = '-' ∨ Text.isDigit c = true) :
    readValue (bound + 1) (c :: cs) = readNumber (c :: cs) := by
  obtain ⟨hspace, -, hbrace, hbracket, hquote⟩ := plain_of_isDigit h
  simp only [readValue, skipSpace_cons hspace, hbrace, hbracket, hquote, h, if_false, if_true]

/-! ## Values -/

/-- A value all of whose numbers are integers. -/
inductive Exact : Json → Prop
  | null : Exact .null
  | bool (value : Bool) : Exact (.bool value)
  | number {n : Number} (h : n.IsInteger) : Exact (.number n)
  | string (text : String) : Exact (.string text)
  | array {items : List Json} (h : ∀ item ∈ items, Exact item) : Exact (.array items)
  | object {members : List (String × Json)} (h : ∀ m ∈ members, Exact m.2) : Exact (.object members)

/-- A written value starts with a token that opens a value. -/
theorem Exact.exists_cons_write {v : Json} (h : Exact v) (layout : Layout) (depth : Nat) :
    ∃ c cs, write layout depth v = c :: cs ∧ isSpace c = false ∧ c ≠ ']' := by
  cases h with
  | null => exact ⟨_, _, rfl, by decide, by decide⟩
  | bool value => cases value <;> exact ⟨_, _, rfl, by decide, by decide⟩
  | @number n h =>
    obtain ⟨c, cs, hcons, hc⟩ := exists_cons_text h
    obtain ⟨hspace, hbracket, -⟩ := plain_of_isDigit hc
    exact ⟨c, cs, by rw [write, hcons], hspace, hbracket⟩
  | string text => exact ⟨_, _, rfl, by decide, by decide⟩
  | @array items h => cases items <;> exact ⟨_, _, rfl, by decide, by decide⟩
  | @object members h => cases members <;> exact ⟨_, _, rfl, by decide, by decide⟩

/-- The value is read back wherever it is written, in front of a text that ends it. -/
def ReadsBack (layout : Layout) (v : Json) : Prop :=
  ∀ depth bound rest, Delimited rest → 2 * (write layout depth v).length ≤ bound + 1 →
    readValue (bound + 1) (write layout depth v ++ rest) = (.ofValue v, rest)

theorem readsBack_null : ReadsBack layout .null := by
  intro depth bound rest _ _
  simp [write, readValue, skipSpace_cons (show isSpace 'n' = false from rfl), Text.isDigit, readLiteral,
    Document.ofValue]

theorem readsBack_bool (value : Bool) : ReadsBack layout (.bool value) := by
  intro depth bound rest _ _
  cases value
  · simp [write, readValue, skipSpace_cons (show isSpace 'f' = false from rfl), Text.isDigit, readLiteral,
      Document.ofValue]
  · simp [write, readValue, skipSpace_cons (show isSpace 't' = false from rfl), Text.isDigit, readLiteral,
      Document.ofValue]

theorem readsBack_number {n : Number} (h : n.IsInteger) : ReadsBack layout (.number n) := by
  intro depth bound rest hrest _
  obtain ⟨c, cs, hcons, hc⟩ := exists_cons_text h
  have read := readNumber_text h hrest
  rw [hcons, List.cons_append] at read
  rw [write, hcons, List.cons_append, readValue_number hc, read, Document.ofValue]

theorem readsBack_string (text : String) : ReadsBack layout (.string text) := by
  intro depth bound rest _ _
  simp [write, readValue_writeString, Document.ofValue]

/-! ## Arrays -/

theorem readItems_append (h : AllSpace spaces) : readItems bound (spaces ++ cs) = readItems bound cs := by
  cases bound with
  | zero => rfl
  | succ bound => simp only [readItems, readValue_append h]

/-- The items of an array are read one by one, up to the closing bracket. -/
theorem readItems_write (hlayout : layout.IsBlank) (depth bound : Nat) (rest : List Char)
    {close : List Char} (hclose : AllSpace close) (items : List Json) (hexact : ∀ v ∈ items, Exact v)
    (hreads : ∀ v ∈ items, ReadsBack layout v) (item : Json) (hitem : ReadsBack layout item)
    (hbound : 2 * ((write layout depth item).length + (writeItems layout depth items).length) ≤ bound) :
    readItems (bound + 2)
        (write layout depth item ++ (writeItems layout depth items ++ (close ++ ']' :: rest))) =
      (Document.ofItems (item :: items), none, rest) := by
  induction items generalizing item bound with
  | nil =>
    have ended : Delimited (close ++ ']' :: rest) := delimited_append hclose (by simp [Delimited])
    have read := hitem depth bound _ ended (by omega)
    simp [writeItems, readItems, read, skipSpace_append_cons hclose (show isSpace ']' = false from rfl),
      Document.ofItems]
  | cons next items ih =>
    simp only [writeItems, List.length_cons, List.length_append, List.cons_append, List.append_assoc]
      at hbound ⊢
    obtain ⟨bound, rfl⟩ : ∃ b, bound = b + 1 := ⟨bound - 1, by omega⟩
    have others := ih bound (fun v hv => hexact v (List.mem_cons_of_mem _ hv))
      (fun v hv => hreads v (List.mem_cons_of_mem _ hv)) next (hreads next List.mem_cons_self) (by omega)
    rw [← readItems_append (hlayout.line depth)] at others
    -- Behind the comma the next item starts, which is no closing bracket.
    obtain ⟨c, cs, hcons, hspace, hbracket⟩ :=
      (hexact next List.mem_cons_self).exists_cons_write layout depth
    have start : skipSpace (layout.line depth ++ (write layout depth next ++
        (writeItems layout depth items ++ (close ++ ']' :: rest)))) =
        c :: (cs ++ (writeItems layout depth items ++ (close ++ ']' :: rest))) := by
      rw [hcons, List.cons_append, skipSpace_append_cons (hlayout.line depth) hspace]
    generalize layout.line depth ++ (write layout depth next ++ (writeItems layout depth items ++
      (close ++ ']' :: rest))) = tail at others start ⊢
    have read := hitem depth (bound + 1) (',' :: tail) (by simp [Delimited]) (by omega)
    rw [readItems, read]
    simp [skipSpace_cons (show isSpace ',' = false from rfl), start, hbracket, others, Document.ofItems]

theorem readsBack_array (hlayout : layout.IsBlank) {items : List Json} (hexact : ∀ v ∈ items, Exact v)
    (hreads : ∀ v ∈ items, ReadsBack layout v) : ReadsBack layout (.array items) := by
  intro depth bound rest _ hbound
  have bracket : isSpace '[' = false := rfl
  cases items with
  | nil =>
    simp [write, readValue, skipSpace_cons bracket, skipSpace_cons (show isSpace ']' = false from rfl),
      Document.ofValue, Document.ofItems]
  | cons item items =>
    simp only [write, List.length_cons, List.length_append, List.cons_append, List.append_assoc,
      List.nil_append, List.length_nil] at hbound ⊢
    obtain ⟨bound, rfl⟩ : ∃ b, bound = b + 2 := ⟨bound - 2, by omega⟩
    have read := readItems_write hlayout (depth + 1) bound rest (hlayout.line depth) items
      (fun v hv => hexact v (List.mem_cons_of_mem _ hv)) (fun v hv => hreads v (List.mem_cons_of_mem _ hv))
      item (hreads item List.mem_cons_self) (by omega)
    obtain ⟨c, cs, hcons, hspace, hclosing⟩ :=
      (hexact item List.mem_cons_self).exists_cons_write layout (depth + 1)
    rw [hcons, List.cons_append] at read ⊢
    rw [readValue, skipSpace_cons bracket]
    simp [skipSpace_append_cons (hlayout.line (depth + 1)) hspace, hclosing, read, Document.ofValue]

/-! ## Objects -/

/-- The members of an object are read one by one, up to the closing brace. -/
theorem readMembers_write (hlayout : layout.IsBlank) (depth bound : Nat) (rest : List Char)
    {close : List Char} (hclose : AllSpace close) (members : List (String × Json))
    (hreads : ∀ m ∈ members, ReadsBack layout m.2) (key : String) (value : Json)
    (hvalue : ReadsBack layout value) (isFirst : Bool) (hspaces : AllSpace spaces)
    (hbound : 2 * ((write layout depth value).length + (writeMembers layout depth members).length) ≤ bound) :
    readMembers (bound + 2) isFirst
        (spaces ++ (writeString key.toList ++ (layout.colon ++ (write layout depth value ++
          (writeMembers layout depth members ++ (close ++ '}' :: rest)))))) =
      (Document.ofMembers ((key, value) :: members), none, rest) := by
  obtain ⟨gap, hcolon, hgap⟩ := hlayout.colon
  have colon : isSpace ':' = false := rfl
  induction members generalizing key value isFirst spaces bound with
  | nil =>
    have ended : Delimited (close ++ '}' :: rest) := delimited_append hclose (by simp [Delimited])
    have read := hvalue depth bound _ ended (by omega)
    rw [writeMembers, List.nil_append, hcolon, List.cons_append, readMembers, readValue_append hspaces,
      readValue_writeString]
    simp [skipSpace_cons colon, readValue_append hgap, read,
      skipSpace_append_cons hclose (show isSpace '}' = false from rfl), Document.ofMembers]
  | cons next members ih =>
    obtain ⟨nextKey, nextValue⟩ := next
    simp only [writeMembers, List.length_cons, List.length_append, List.cons_append, List.append_assoc]
      at hbound ⊢
    obtain ⟨bound, rfl⟩ : ∃ b, bound = b + 1 := ⟨bound - 1, by omega⟩
    -- The value ends at the comma, and the other members start behind it.
    have others := ih bound (fun m hm => hreads m (List.mem_cons_of_mem _ hm)) nextKey nextValue
      (hreads _ List.mem_cons_self) false (hlayout.line depth) (by omega)
    generalize layout.line depth ++ (writeString nextKey.toList ++ (layout.colon ++
      (write layout depth nextValue ++ (writeMembers layout depth members ++ (close ++ '}' :: rest))))) =
        tail at others ⊢
    have read := hvalue depth (bound + 1) (',' :: tail) (by simp [Delimited]) (by omega)
    rw [hcolon, List.cons_append, readMembers, readValue_append hspaces, readValue_writeString]
    simp [skipSpace_cons colon, readValue_append hgap, read,
      skipSpace_cons (show isSpace ',' = false from rfl), others, Document.ofMembers]

theorem readsBack_object (hlayout : layout.IsBlank) {members : List (String × Json)}
    (hreads : ∀ m ∈ members, ReadsBack layout m.2) : ReadsBack layout (.object members) := by
  intro depth bound rest _ hbound
  have brace : isSpace '{' = false := rfl
  cases members with
  | nil =>
    simp [write, readValue, skipSpace_cons brace, skipSpace_cons (show isSpace '}' = false from rfl),
      Document.ofValue, Document.ofMembers]
  | cons member members =>
    obtain ⟨key, value⟩ := member
    simp only [write, List.length_cons, List.length_append, List.cons_append, List.append_assoc,
      List.nil_append, List.length_nil] at hbound ⊢
    obtain ⟨bound, rfl⟩ : ∃ b, bound = b + 2 := ⟨bound - 2, by omega⟩
    have read := readMembers_write hlayout (depth + 1) bound rest (hlayout.line depth) members
      (fun m hm => hreads m (List.mem_cons_of_mem _ hm)) key value (hreads _ List.mem_cons_self) true
      (show AllSpace [] by simp [AllSpace]) (by omega)
    simp only [writeString, List.nil_append, List.cons_append, List.append_assoc] at read ⊢
    rw [readValue, skipSpace_cons brace]
    simp [skipSpace_append_cons (hlayout.line (depth + 1)) (show isSpace '"' = false from rfl),
      read, Document.ofValue]

/-! ## Documents -/

/-- Every value without other numbers than integers is read back. -/
theorem Exact.readsBack (hlayout : layout.IsBlank) {v : Json} (h : Exact v) : ReadsBack layout v := by
  induction h with
  | null => exact readsBack_null
  | bool value => exact readsBack_bool value
  | number h => exact readsBack_number h
  | string text => exact readsBack_string text
  | array h ih => exact readsBack_array hlayout h ih
  | object h ih => exact readsBack_object hlayout ih

/-- A document that was written is read back, and nothing follows it. -/
theorem Exact.readDocument_write (hlayout : layout.IsBlank) {v : Json} (h : Exact v) :
    readDocument (String.ofList (write layout 0 v)) = (.ofValue v, false) := by
  have read := h.readsBack hlayout 0 (2 * (write layout 0 v).length + 1) [] (by simp [Delimited]) (by omega)
  rw [List.append_nil] at read
  simp [readDocument, read, skipSpace]

theorem Exact.readDocument_pretty {v : Json} (h : Exact v) :
    readDocument v.pretty = (.ofValue v, false) :=
  h.readDocument_write Layout.isBlank_pretty

theorem Exact.readDocument_compact {v : Json} (h : Exact v) :
    readDocument v.compact = (.ofValue v, false) :=
  h.readDocument_write Layout.isBlank_compact

end StackWalk.Json
