import Mathlib.Order.Interval.Finset.Nat
import StackWalk.CallSite
import StackWalk.Proofs.Address
import StackWalk.Proofs.Tables

/-!
# StackWalk.Proofs.CallSite.Window — which call is found in front of a value

Where instructions vary in length, a call that has left a value on the stack can start at any of several
offsets in front of it.  They are tried from the shortest one on.  An offset is `Open` as long as every
address passed so far is code; the first one that is not, or the end of the window, ends the search.  At
an open offset `Calls` says what has to be found there.

`before_exact` says that nothing else matters: a call is found exactly if there is one at an open offset,
it is the one at the least such offset, and what is counted on the way are the offsets in front of it that
cannot be decoded.  In `Searched` the same is said of a search from any offset on, which is what a step
from one offset to the next keeps.

Counting goes one up at a time, from whatever earlier searches have left, and stops at the largest word.
Because it only goes up, stopping on the way and stopping at the end come to the same: `Counts`.
-/

namespace StackWalk.CallSite

/-! ## Offsets -/

/-- The address `k` bytes in front of a value. -/
def inFront (v : Address) (k : Nat) : Address := v - UInt64.ofNat k

/-- The last offset at which a call is looked for: four words and a byte. -/
def lastOffset (arch : Architecture) : Nat := 4 * arch.wordSize.toNat + 1

/-- The address at the offset `k` exists, and all addresses from the offset `o` on to it are code. -/
def Open (t : Target) (v : Address) (o k : Nat) : Prop :=
  k ≤ v.toNat ∧ ∀ j ∈ Finset.Icc o k, t.isCode (inFront v j) = true

instance (t : Target) (v : Address) (o k : Nat) : Decidable (Open t v o k) :=
  inferInstanceAs (Decidable (_ ∧ _))

/-- The instruction at the offset `k` is a near call of that length, and its target is code as far as it
is written in the instruction. -/
structure Calls (arch : Architecture) (t : Target) (v : Address) (k : Nat) (i : Instruction) : Prop where
  decoded : t.decode (inFront v k) = some i
  length : i.length.toNat = k
  call : arch.isCall i.text = true
  near : (Disassembly.ofText i.text).isFar = false
  target : ∀ target, (Disassembly.ofText i.text).target? = some (.direct target) →
    t.isCode target = true

/-- The number of offsets of a set at which nothing can be decoded. -/
def undecoded (t : Target) (v : Address) (offsets : Finset Nat) : Nat :=
  (offsets.filter fun k => t.decode (inFront v k) = none).card

section Offsets

variable {arch : Architecture} {t : Target} {v : Address} {o k : Nat} {i : Instruction}

theorem lastOffset_lt (arch : Architecture) : lastOffset arch < 34 := by
  cases arch <;> decide

theorem below?_ofNat (hk : k < 2 ^ 64) :
    v.below? (UInt64.ofNat k) = if k ≤ v.toNat then some (inFront v k) else none := by
  have hle : UInt64.ofNat k ≤ v.value ↔ k ≤ v.toNat := by
    rw [UInt64.le_iff_toNat_le, UInt64.toNat_ofNat_of_lt' hk]
    rfl
  unfold Address.below?
  simp only [hle]
  rfl

/-- An instruction ends at the value exactly if it is as long as its offset. -/
theorem inFront_add_eq_iff (hk : k < 2 ^ 64) (length : UInt64) :
    inFront v k + length = v ↔ length.toNat = k := by
  have hlength : length = UInt64.ofNat k ↔ length.toNat = k := by
    rw [← UInt64.toNat_inj, UInt64.toNat_ofNat_of_lt' hk]
  rw [← hlength]
  exact Address.sub_add_eq_self_iff v (UInt64.ofNat k) length

theorem targetIsCode_iff {d : Disassembly} : targetIsCode t d = true ↔
    ∀ target, d.target? = some (.direct target) → t.isCode target = true := by
  unfold targetIsCode
  split
  case h_1 target heq => simp [heq]
  case h_2 hother =>
    exact iff_of_true rfl fun target heq => absurd heq (hother target)

theorem endsAt_iff (hk : k < 2 ^ 64) (hdecode : t.decode (inFront v k) = some i) :
    endsAt arch t v (inFront v k) i = true ↔ Calls arch t v k i := by
  simp only [endsAt, Bool.and_eq_true, Bool.not_eq_true', beq_iff_eq, inFront_add_eq_iff hk,
    targetIsCode_iff]
  constructor
  · rintro ⟨⟨⟨hlength, hcall⟩, hnear⟩, htarget⟩
    exact ⟨hdecode, hlength, hcall, hnear, htarget⟩
  · intro h
    exact ⟨⟨⟨h.length, h.call⟩, h.near⟩, h.target⟩

theorem Open.here (h : Open t v o k) (hok : o ≤ k) : Open t v o o :=
  ⟨Nat.le_trans hok h.1, fun j hj => h.2 j (Finset.mem_Icc.mpr (by
    have := Finset.mem_Icc.mp hj
    omega))⟩

theorem open_here_iff : Open t v o o ↔ o ≤ v.toNat ∧ t.isCode (inFront v o) = true := by
  simp [Open]

/-- Behind an open offset the same offsets are open from the next one on. -/
theorem open_succ_iff (hhere : Open t v o o) : Open t v (o + 1) k ↔ Open t v o k := by
  have hcode := (open_here_iff.mp hhere).2
  refine and_congr_right fun _ => ⟨fun h j hj => ?_, fun h j hj => h j ?_⟩
  · obtain ⟨hoj, hjk⟩ := Finset.mem_Icc.mp hj
    rcases Nat.eq_or_lt_of_le hoj with rfl | hlt
    · exact hcode
    · exact h j (Finset.mem_Icc.mpr ⟨hlt, hjk⟩)
  · have := Finset.mem_Icc.mp hj
    exact Finset.mem_Icc.mpr (by omega)

/-- What is counted on from an offset is what is counted there and behind it. -/
theorem undecoded_insert {offsets : Finset Nat} (ho : o ∉ offsets) :
    undecoded t v (insert o offsets) =
      undecoded t v offsets + if t.decode (inFront v o) = none then 1 else 0 := by
  unfold undecoded
  rw [Finset.filter_insert]
  split
  case isTrue => rw [Finset.card_insert_of_notMem fun h => ho (Finset.mem_filter.mp h).1]
  case isFalse => rfl

end Offsets

/-! ## The counter -/

namespace Lookup

/-- The search moves the counter up by `n`, or to its largest value where there is less room than that. -/
def Counts (found : Lookup) (n : Nat) : Prop :=
  ∀ failures, (found.counter failures).toNat = min (failures.toNat + n) 0xFFFF_FFFF

/-- What a search gives on whose way `n` addresses could not be decoded. -/
def counting (site : Option CallSite) (n : Nat) : Lookup :=
  ⟨site, countFailure^[n]⟩

theorem behindFailure_counting (site : Option CallSite) (n : Nat) :
    (counting site n).behindFailure = counting site (n + 1) := rfl

/-- A counter that stops at its largest value after each failure is as high as one that stops once. -/
theorem counts_counting (site : Option CallSite) (n : Nat) : (counting site n).Counts n := by
  induction n with
  | zero =>
      intro failures
      have := failures.toNat_lt
      change failures.toNat = _
      omega
  | succ n ih =>
      intro failures
      have hnext := toNat_countFailure failures
      rw [← behindFailure_counting]
      exact (ih (countFailure failures)).trans (by rw [hnext]; omega)

end Lookup

/-! ## The search -/

/-- The open offsets from `o` up to `last`. -/
def openOffsets (t : Target) (v : Address) (o last : Nat) : Finset Nat :=
  (Finset.Icc o last).filter fun k => Open t v o k

/-- What a search from the offset `o` up to `last` may give. -/
inductive Searched (arch : Architecture) (t : Target) (v : Address) (last o : Nat) : Lookup → Prop
  /-- The first call at an open offset. -/
  | found {k : Nat} {i : Instruction} (hopen : k ∈ openOffsets t v o last) (hcalls : Calls arch t v k i)
      (hfirst : ∀ j ∈ Finset.Ico o k, ∀ i, ¬ Calls arch t v j i) :
      Searched arch t v last o (.counting (some ⟨inFront v k, i⟩) (undecoded t v (Finset.Ico o k)))
  /-- There is no call at any open offset. -/
  | missed (hnone : ∀ k ∈ openOffsets t v o last, ∀ i, ¬ Calls arch t v k i) :
      Searched arch t v last o (.counting none (undecoded t v (openOffsets t v o last)))

section Search

variable {arch : Architecture} {t : Target} {v : Address} {last o k : Nat}

theorem mem_openOffsets : k ∈ openOffsets t v o last ↔ o ≤ k ∧ k ≤ last ∧ Open t v o k := by
  rw [openOffsets, Finset.mem_filter, Finset.mem_Icc, and_assoc]

theorem openOffsets_eq_empty (h : last < o ∨ ¬ Open t v o o) : openOffsets t v o last = ∅ := by
  refine Finset.eq_empty_of_forall_notMem fun k hk => ?_
  obtain ⟨hok, hlast, hopen⟩ := mem_openOffsets.mp hk
  exact h.elim (fun hlt => by omega) fun hclosed => hclosed (hopen.here hok)

theorem openOffsets_eq_insert (hhere : Open t v o o) (hlast : o ≤ last) :
    openOffsets t v o last = insert o (openOffsets t v (o + 1) last) := by
  ext k
  rw [Finset.mem_insert, mem_openOffsets, mem_openOffsets]
  constructor
  · rintro ⟨hok, hkl, hopen⟩
    rcases Nat.eq_or_lt_of_le hok with rfl | hlt
    · exact .inl rfl
    · exact .inr ⟨hlt, hkl, (open_succ_iff hhere).mpr hopen⟩
  · rintro (rfl | ⟨hlt, hkl, hopen⟩)
    · exact ⟨Nat.le_refl _, hlast, hhere⟩
    · exact ⟨Nat.le_of_lt hlt, hkl, (open_succ_iff hhere).mp hopen⟩

/-- A search that cannot go on has found nothing. -/
theorem Searched.nothing (h : last < o ∨ ¬ Open t v o o) : Searched arch t v last o .nothing := by
  have hempty := openOffsets_eq_empty h
  have missed : Searched arch t v last o (.counting none (undecoded t v (openOffsets t v o last))) :=
    .missed (by rw [hempty]; exact fun k hk => absurd hk (Finset.notMem_empty k))
  rw [hempty] at missed
  exact missed

/-- A call at the first offset is found. -/
theorem Searched.here {i : Instruction} (hhere : Open t v o o) (hlast : o ≤ last)
    (hcalls : Calls arch t v o i) : Searched arch t v last o ⟨some ⟨inFront v o, i⟩, id⟩ := by
  have found := Searched.found (mem_openOffsets.mpr ⟨Nat.le_refl o, hlast, hhere⟩) hcalls
    (fun j hj => absurd hj (by simp))
  rwa [Finset.Ico_self] at found

/-- What has been counted behind an offset, with what is counted there. -/
theorem counting_insert {site : Option CallSite} {offsets : Finset Nat} (ho : o ∉ offsets) :
    (if t.decode (inFront v o) = none then
        (Lookup.counting site (undecoded t v offsets)).behindFailure
      else .counting site (undecoded t v offsets)) =
      .counting site (undecoded t v (insert o offsets)) := by
  rw [undecoded_insert ho]
  split
  case isTrue => rw [Lookup.behindFailure_counting]
  case isFalse => rfl

/-- An offset without a call is passed, and counted if nothing can be decoded there. -/
theorem Searched.pass {found : Lookup} (hhere : Open t v o o) (hlast : o ≤ last)
    (hno : ∀ i, ¬ Calls arch t v o i) (h : Searched arch t v last (o + 1) found) :
    Searched arch t v last o
      (if t.decode (inFront v o) = none then found.behindFailure else found) := by
  have hinsert := openOffsets_eq_insert hhere hlast
  cases h with
  | @found k i hopen hcalls hfirst =>
      have hlt : o < k := (mem_openOffsets.mp hopen).1
      have hIco : insert o (Finset.Ico (o + 1) k) = Finset.Ico o k := by
        ext j
        rw [Finset.mem_insert, Finset.mem_Ico, Finset.mem_Ico]
        omega
      have hfirst : ∀ j ∈ Finset.Ico o k, ∀ i, ¬ Calls arch t v j i := by
        intro j hj
        rw [← hIco, Finset.mem_insert] at hj
        rcases hj with rfl | hj
        · exact hno
        · exact hfirst j hj
      rw [counting_insert (by simp), hIco]
      exact .found (hinsert ▸ Finset.mem_insert_of_mem hopen) hcalls hfirst
  | missed hnone =>
      rw [counting_insert (by simp [mem_openOffsets]), ← hinsert]
      refine .missed fun k hk => ?_
      rw [hinsert, Finset.mem_insert] at hk
      rcases hk with rfl | hk
      · exact hno
      · exact hnone k hk

/-- The search gives the first call at an open offset. -/
theorem searchBack_searched (count : Nat) (hcount : o + count = last + 1) (hlast : last < 2 ^ 32) :
    Searched arch t v last o (searchBack arch t v count (UInt64.ofNat o)) := by
  induction count generalizing o with
  | zero => exact .nothing (.inl (by omega))
  | succ count ih =>
      have ho : o < 2 ^ 64 := by omega
      have rest := @ih (o + 1) (by omega)
      rw [UInt64.ofNat_add] at rest
      rw [searchBack, below?_ofNat ho]
      by_cases hle : o ≤ v.toNat
      case neg =>
        rw [if_neg hle]
        exact .nothing (.inr fun hopen => hle hopen.1)
      rw [if_pos hle]
      dsimp only
      by_cases hcode : t.isCode (inFront v o) = true
      case neg =>
        rw [if_pos (by simpa using hcode)]
        exact .nothing (.inr fun hopen => hcode (open_here_iff.mp hopen).2)
      rw [if_neg (by simpa using hcode)]
      have hhere : Open t v o o := open_here_iff.mpr ⟨hle, hcode⟩
      cases hdecode : t.decode (inFront v o) with
      | none =>
          have passed := rest.pass hhere (by omega) fun i h => by
            rw [h.decoded] at hdecode
            cases hdecode
          rwa [if_pos hdecode] at passed
      | some i =>
          dsimp only
          split
          case isTrue hends => exact .here hhere (by omega) ((endsAt_iff ho hdecode).mp hends)
          case isFalse hends =>
            have passed := rest.pass hhere (by omega) fun i' h => by
              obtain rfl : i = i' := Option.some.inj (hdecode.symm.trans h.decoded)
              exact hends ((endsAt_iff ho hdecode).mpr h)
            rwa [if_neg (by rw [hdecode]; nofun)] at passed

end Search

/-! ## Calls in front of a value -/

/-- An offset at which a call that leaves the value on the stack can be found: it lies in the window, all
addresses from two bytes in front of the value on to it are code, and there is a near call of that length
whose target, as far as it is written, is code. -/
def CallAt (arch : Architecture) (t : Target) (v : Address) (k : Nat) : Prop :=
  k ∈ openOffsets t v 2 (lastOffset arch) ∧ ∃ i, Calls arch t v k i

section Before

variable {arch : Architecture}

/-- A value that may be a return address is looked for in the way of its architecture. -/
theorem before_eq_look {t : Target} {v : Address} (hhigh : 10 < v.toNat) (hcode : t.isCode v = true) :
    before arch t v =
      match arch.instructionWidth? with
      | some width => lookBack arch t v width
      | none => searchBack arch t v (4 * arch.wordSize.toNat) 2 := by
  have hlow : ¬ v.value ≤ lowestAddresses := by
    rw [UInt64.le_iff_toNat_le]
    exact Nat.not_le.mpr hhigh
  exact if_neg (by simp [hlow, hcode])

/-- Where instructions vary in length, it is searched for from two bytes on. -/
theorem before_searched (varies : arch = .x86 ∨ arch = .x86_64) {t : Target} {v : Address}
    (hhigh : 10 < v.toNat) (hcode : t.isCode v = true) :
    Searched arch t v (lastOffset arch) 2 (before arch t v) := by
  have hwidth : arch.instructionWidth? = none := by rcases varies with rfl | rfl <;> rfl
  have hlast := lastOffset_lt arch
  rw [before_eq_look hhigh hcode, hwidth]
  exact searchBack_searched (4 * arch.wordSize.toNat) (by unfold lastOffset; omega) (by omega)

theorem before_eq_nothing {t : Target} {v : Address} (h : ¬ (10 < v.toNat ∧ t.isCode v = true)) :
    before arch t v = .nothing := by
  have hlow : v.value ≤ lowestAddresses ↔ ¬ 10 < v.toNat := by
    rw [UInt64.le_iff_toNat_le, Nat.not_lt]
    exact Iff.rfl
  unfold before
  rw [if_pos]
  rw [Bool.or_eq_true, decide_eq_true_eq, hlow, Bool.not_eq_true', ← Bool.not_eq_true,
    ← not_and_or]
  exact h

/-- What has been found from two bytes on, said of offsets in the window. -/
theorem Searched.exact {t : Target} {v : Address} {found : Lookup}
    (h : Searched arch t v (lastOffset arch) 2 found) :
    (∃ k i, IsLeast {k | CallAt arch t v k} k ∧ Calls arch t v k i ∧
        found = .counting (some ⟨inFront v k, i⟩) (undecoded t v (Finset.Icc 2 k))) ∨
      (∀ k, ¬ CallAt arch t v k) ∧
        found = .counting none (undecoded t v (openOffsets t v 2 (lastOffset arch))) := by
  cases h with
  | missed hnone => exact .inr ⟨fun k ⟨hk, i, hi⟩ => hnone k hk i hi, rfl⟩
  | @found k i hopen hcalls hfirst =>
      refine .inl ⟨k, i, ⟨⟨hopen, i, hcalls⟩, fun j ⟨hj, i', hi'⟩ => ?_⟩, hcalls, ?_⟩
      · refine Nat.le_of_not_lt fun hlt => hfirst j ?_ i' hi'
        exact Finset.mem_Ico.mpr ⟨(mem_openOffsets.mp hj).1, hlt⟩
      · -- at the call itself there is something to decode
        have hIcc : Finset.Icc 2 k = insert k (Finset.Ico 2 k) :=
          (Finset.Ico_insert_right (mem_openOffsets.mp hopen).1).symm
        rw [hIcc, undecoded_insert (by simp), if_neg (by rw [hcalls.decoded]; nofun), Nat.add_zero]

theorem returnAddress_of_calls {t : Target} {v : Address} {k : Nat} {i : Instruction}
    (hk : k < 2 ^ 64) (h : Calls arch t v k i) : (⟨inFront v k, i⟩ : CallSite).returnAddress = v :=
  (inFront_add_eq_iff hk i.length).mpr h.length

/-- **The call in front of a value.**  Where instructions vary in length, a call is found in front of a
value exactly if the value is above the lowest addresses and is code, and there is a call at some offset.
It is the call at the least such offset, it leaves the value on the stack, and the counter goes up by the
number of offsets up to it that cannot be decoded.  Where there is none, it goes up by the number of
offsets that cannot be decoded in front of the first address that is not code, or of the end of the window;
and nothing is counted where the value is low or not code. -/
theorem before_exact (varies : arch = .x86 ∨ arch = .x86_64) (t : Target) (v : Address) :
    ((∃ site, (before arch t v).site = some site) ↔
      10 < v.toNat ∧ t.isCode v = true ∧ ∃ k, CallAt arch t v k) ∧
    (∀ site, (before arch t v).site = some site → ∃ k, IsLeast {k | CallAt arch t v k} k ∧
      site.address = inFront v k ∧ Calls arch t v k site.instruction ∧ site.returnAddress = v ∧
      (before arch t v).Counts (undecoded t v (Finset.Icc 2 k))) ∧
    (10 < v.toNat → t.isCode v = true → (∀ k, ¬ CallAt arch t v k) →
      (before arch t v).site = none ∧
        (before arch t v).Counts (undecoded t v (openOffsets t v 2 (lastOffset arch)))) ∧
    (¬ (10 < v.toNat ∧ t.isCode v = true) → before arch t v = .nothing) := by
  by_cases htried : 10 < v.toNat ∧ t.isCode v = true
  case neg =>
    rw [before_eq_nothing htried]
    refine ⟨iff_of_false ?_ ?_, ?_, fun hhigh hcode => absurd ⟨hhigh, hcode⟩ htried, fun _ => rfl⟩
    · rintro ⟨site, hsite⟩
      cases hsite
    · exact fun ⟨hhigh, hcode, _⟩ => htried ⟨hhigh, hcode⟩
    · intro site hsite
      cases hsite
  case pos =>
    obtain ⟨hhigh, hcode⟩ := htried
    rcases (before_searched varies hhigh hcode).exact with ⟨k, i, hleast, hcalls, hfound⟩ | ⟨hno, hfound⟩
    · have hk : k < 2 ^ 64 := by
        have := (mem_openOffsets.mp hleast.1.1).2.1
        have := lastOffset_lt arch
        omega
      rw [hfound]
      refine ⟨iff_of_true ⟨_, rfl⟩ ⟨hhigh, hcode, k, hleast.1⟩, fun site hsite => ?_,
        fun _ _ hno => absurd hleast.1 (hno k), fun h => absurd ⟨hhigh, hcode⟩ h⟩
      obtain rfl := Option.some.inj hsite
      exact ⟨k, hleast, rfl, hcalls, returnAddress_of_calls hk hcalls,
        Lookup.counts_counting _ _⟩
    · rw [hfound]
      refine ⟨iff_of_false ?_ ?_, ?_, fun _ _ _ => ⟨rfl, Lookup.counts_counting _ _⟩,
        fun h => absurd ⟨hhigh, hcode⟩ h⟩
      · rintro ⟨site, hsite⟩
        cases hsite
      · exact fun ⟨_, _, k, hk⟩ => hno k hk
      · intro site hsite
        cases hsite

end Before

/-- In front of `0x1010` nothing can be decoded at the first offset, the second shows a far call and the
third no call; then comes a near call. -/
def farAndNearCall : Tables where
  images := [(.ofPath "app", .main, 0x1000, 0x2000)]
  routines := []
  code := [(0x100B, ⟨5, "call 0x1100"⟩), (0x100C, ⟨4, "nop"⟩), (0x100D, ⟨3, "call far [rax]"⟩)]
  words := []

/-- The near call is found in front of `0x1010`, and one failure is counted.  In front of `0x1008` there is
none; the search ends at the first address of the image, behind seven failures, of which a counter that is
nearly full takes three. -/
theorem farAndNearCall_exact :
    ((before .x86_64 farAndNearCall.target ⟨0x1010⟩).site = some ⟨⟨0x100B⟩, ⟨5, "call 0x1100"⟩⟩ ∧
      (∃ k, IsLeast {k | CallAt .x86_64 farAndNearCall.target ⟨0x1010⟩ k} k ∧
        (⟨0x100B⟩ : Address) = inFront ⟨0x1010⟩ k) ∧
      (before .x86_64 farAndNearCall.target ⟨0x1010⟩).Counts 1) ∧
    (before .x86_64 farAndNearCall.target ⟨0x1008⟩).site = none ∧
      (before .x86_64 farAndNearCall.target ⟨0x1008⟩).failures = 7 ∧
      ((before .x86_64 farAndNearCall.target ⟨0x1008⟩).counter 0xFFFF_FFFC).toNat = 0xFFFF_FFFF := by
  have found : (before .x86_64 farAndNearCall.target ⟨0x1010⟩).site =
      some ⟨⟨0x100B⟩, ⟨5, "call 0x1100"⟩⟩ := by decide +kernel
  obtain ⟨-, hsome, -, -⟩ := before_exact (.inr rfl) farAndNearCall.target ⟨0x1010⟩
  obtain ⟨k, hleast, haddress, hcalls, -, hcounts⟩ := hsome _ found
  -- the offset is the length of the call
  obtain rfl : 5 = k := hcalls.length
  have one : undecoded farAndNearCall.target ⟨0x1010⟩ (Finset.Icc 2 5) = 1 := by decide +kernel
  rw [one] at hcounts
  have undecodable : ∀ k ∈ openOffsets farAndNearCall.target ⟨0x1008⟩ 2 (lastOffset .x86_64),
      farAndNearCall.target.decode (inFront ⟨0x1008⟩ k) = none := by decide +kernel
  have noCall : ∀ k, ¬ CallAt .x86_64 farAndNearCall.target ⟨0x1008⟩ k := by
    rintro k ⟨hk, i, hi⟩
    have hdecoded := hi.decoded
    rw [undecodable k hk] at hdecoded
    cases hdecoded
  obtain ⟨-, -, hnone, -⟩ := before_exact (.inr rfl) farAndNearCall.target ⟨0x1008⟩
  obtain ⟨missed, hmissed⟩ := hnone (by decide) (by decide +kernel) noCall
  have seven : undecoded farAndNearCall.target ⟨0x1008⟩
      (openOffsets farAndNearCall.target ⟨0x1008⟩ 2 (lastOffset .x86_64)) = 7 := by decide +kernel
  rw [seven] at hmissed
  exact ⟨⟨found, ⟨5, hleast, haddress⟩, hcounts⟩, missed, hmissed 0, hmissed 0xFFFF_FFFC⟩

end StackWalk.CallSite
