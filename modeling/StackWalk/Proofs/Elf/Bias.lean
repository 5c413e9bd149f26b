import StackWalk.Elf
import StackWalk.Proofs.Symbol.History

/-!
# StackWalk.Proofs.Elf.Bias — an image loaded at another place

All addresses in an image are relative to the place where it is loaded.  A bias moves them, and does
nothing else: the image is refused for the same reason or for none, the routines are the same in the same
order, and the import slots have the same names (`load_translates`).  How an image is read plays no part in
this, so it is shown of any reader (`loadWith_translates`).

An addition wraps around, so a bias moves one address in a circle with all others.  What is found in a
circle is not so simple: a routine that is moved over the end of the address space comes to lie below the
others, and one that is moved up to the end is cut off there.  Where neither a routine nor the address in
question comes that far (`Clears`), the order of the entries is kept and the ends move with them, so what is
found at the moved address is the moved routine (`Clears.routineAt?_eq`).
-/

namespace StackWalk.Address

variable {a b : Address} {bias : UInt64}

theorem add_zero (a : Address) : a + (0 : UInt64) = a := by
  show Address.mk (a.value + 0) = a
  rw [UInt64.add_zero]

/-- No two addresses are moved to one place. -/
theorem add_left_inj : a + bias = b + bias ↔ a = b := by
  constructor
  · intro h
    have hvalue : a.value + bias = b.value + bias := congrArg Address.value h
    obtain ⟨x⟩ := a
    obtain ⟨y⟩ := b
    exact congrArg Address.mk ((UInt64.add_left_inj bias).mp hvalue)
  · rintro rfl
    rfl

/-- The order is kept where nothing is moved over the end. -/
theorem add_le_add_iff (ha : a.toNat + bias.toNat < last.toNat) (hb : b.toNat + bias.toNat < last.toNat) :
    a + bias ≤ b + bias ↔ a ≤ b := by
  have hlast : last.toNat = 0xFFFF_FFFF_FFFF_FFFF := rfl
  rw [le_iff_toNat, le_iff_toNat, toNat_add_of_lt (by omega), toNat_add_of_lt (by omega)]
  omega

theorem add_lt_add_iff (ha : a.toNat + bias.toNat < last.toNat) (hb : b.toNat + bias.toNat < last.toNat) :
    a + bias < b + bias ↔ a < b := by
  rw [← not_le, ← not_le, add_le_add_iff hb ha]

end StackWalk.Address

namespace StackWalk.Symbol

variable {routines : List Routine} {a : Address} {bias : UInt64} {f : Routine}

/-! ## Records -/

theorem Routine.moved_zero (r : Routine) : r.moved 0 = r := by
  simp [moved, Address.add_zero]

theorem Import.moved_zero (i : Import) : i.moved 0 = i := by
  simp [moved, Address.add_zero]

theorem Routine.moved_injective : Function.Injective (Routine.moved bias) := by
  rintro ⟨start, size, name⟩ ⟨start', size', name'⟩ h
  simpa [moved, Address.add_left_inj] using h

/-- The first routine with an entry is still the first. -/
theorem first?_moved (routines : List Routine) (entry : Address) :
    first? (routines.map (.moved bias)) (entry + bias) = (first? routines entry).map (.moved bias) := by
  have hstart : ((fun r : Routine => decide (r.start = entry + bias)) ∘ Routine.moved bias) =
      fun r => decide (r.start = entry) := by
    funext r
    simp [Routine.moved, Address.add_left_inj]
  rw [first?, first?, List.find?_map, hstart]

/-- An import slot has its name where it has been moved to, also if it has come over the end. -/
theorem getElem?_ofRecords_moved (imports : List Import) (a : Address) :
    (ImportMap.ofRecords (imports.map (.moved bias)))[a + bias]? = (ImportMap.ofRecords imports)[a]? := by
  have haddress : ((fun i : Import => decide (i.address = a + bias)) ∘ Import.moved bias) =
      fun i => decide (i.address = a) := by
    funext i
    simp [Import.moved, Address.add_left_inj]
  rw [getElem?_importMap, getElem?_importMap, Records.importName?, Records.importName?, ← List.map_reverse,
    List.find?_map, haddress, Option.map_map]
  rfl

/-! ## What is found -/

/-- The bias moves nothing to the last address or over it: no entry, no end of a routine, and not the address
in question. -/
structure Clears (routines : List Routine) (bias : UInt64) (a : Address) : Prop where
  entries : ∀ r ∈ routines, r.start.toNat + bias.toNat < Address.last.toNat
  ends : ∀ r ∈ routines, r.start.toNat + r.size.toNat + bias.toNat < Address.last.toNat
  address : a.toNat + bias.toNat < Address.last.toNat

/-- The routine that starts last is still the one. -/
theorem Clears.startsLast_iff (h : Clears routines bias a) (hf : f ∈ routines) :
    StartsLast (routines.map (.moved bias)) (a + bias) (f.moved bias) ↔ StartsLast routines a f := by
  have hupTo (r : Routine) (hr : r ∈ routines) : (r.moved bias).start ≤ a + bias ↔ r.start ≤ a :=
    Address.add_le_add_iff (h.entries r hr) h.address
  have horder (r : Routine) (hr : r ∈ routines) :
      (r.moved bias).start ≤ (f.moved bias).start ↔ r.start ≤ f.start :=
    Address.add_le_add_iff (h.entries r hr) (h.entries f hf)
  have hfirst : first? (routines.map (.moved bias)) (f.moved bias).start = some (f.moved bias) ↔
      first? routines f.start = some f := by
    show first? (routines.map (.moved bias)) (f.start + bias) = some (f.moved bias) ↔ _
    rw [first?_moved]
    exact (Option.map_injective Routine.moved_injective).eq_iff (b := some f)
  constructor
  · intro hlast
    refine ⟨hfirst.mp hlast.first, (hupTo f hf).mp hlast.le, fun r hr hra => ?_⟩
    exact (horder r hr).mp (hlast.greatest _ (List.mem_map_of_mem hr) ((hupTo r hr).mpr hra))
  · intro hlast
    refine ⟨hfirst.mpr hlast.first, (hupTo f hf).mpr hlast.le, fun r' hr' hra => ?_⟩
    obtain ⟨r, hr, rfl⟩ := List.mem_map.mp hr'
    exact (horder r hr).mpr (hlast.greatest r hr ((hupTo r hr).mp hra))

/-- Where a routine ends is moved with it. -/
theorem Clears.reaches_iff (h : Clears routines bias a) (hf : f ∈ routines) :
    Reaches (routines.map (.moved bias)) (a + bias) (f.moved bias) ↔ Reaches routines a f := by
  have hlast : Address.last.toNat = 0xFFFF_FFFF_FFFF_FFFF := rfl
  have haddress := h.address
  have hend := h.ends f hf
  unfold Reaches
  show (if 0 < f.size then a + bias < (f.start + bias).aboveOrLast f.size else _) ↔ _
  split
  · rw [Address.lt_iff_toNat, Address.lt_iff_toNat, Address.toNat_aboveOrLast, Address.toNat_aboveOrLast,
      Address.toNat_add_of_lt (by omega), Address.toNat_add_of_lt (by omega)]
    omega
  · have habove : (∃ r ∈ routines.map (Routine.moved bias), (f.moved bias).start < r.start) ↔
        ∃ r ∈ routines, f.start < r.start := by
      simp only [List.mem_map, exists_exists_and_eq_and]
      refine exists_congr fun r => and_congr_right fun hr => ?_
      exact Address.add_lt_add_iff (h.entries f hf) (h.entries r hr)
    have hbelow : a + bias < Address.last ↔ a < Address.last := by
      rw [Address.lt_iff_toNat, Address.lt_iff_toNat, Address.toNat_add_of_lt (by omega)]
      omega
    rw [habove, hbelow]

/-- What is found at the moved address is the moved routine. -/
theorem Clears.routineAt?_eq {t u : Table} (h : Clears t.routines bias a)
    (hmoved : u.routines = t.routines.map (.moved bias)) :
    u.index.routineAt? (a + bias) = (t.index.routineAt? a).map (.moved bias) := by
  have found (f : Routine) : t.index.routineAt? a = some f ↔ _ := t.lists_sortedRoutines.routineAt?_eq_some_iff
  have hlists := u.lists_sortedRoutines
  rw [hmoved] at hlists
  have found' (f : Routine) : u.index.routineAt? (a + bias) = some f ↔ _ := hlists.routineAt?_eq_some_iff
  refine Option.ext fun g => ?_
  rw [Option.map_eq_some_iff, found']
  constructor
  · rintro ⟨hlast, hreach⟩
    obtain ⟨f, hf, rfl⟩ := List.mem_map.mp (mem_of_first? hlast.first)
    exact ⟨f, (found f).mpr ⟨(h.startsLast_iff hf).mp hlast, (h.reaches_iff hf).mp hreach⟩, rfl⟩
  · rintro ⟨f, hfound, rfl⟩
    obtain ⟨hlast, hreach⟩ := (found f).mp hfound
    have hf := mem_of_first? hlast.first
    exact ⟨(h.startsLast_iff hf).mpr hlast, (h.reaches_iff hf).mpr hreach⟩

end StackWalk.Symbol

namespace StackWalk.Elf

open StackWalk.Symbol

section Reader

variable {ε : Type} {reader : ByteArray → Except ε Contents} {image : ByteArray} {bias : UInt64}

/-- What an image holds does not depend on where it is loaded. -/
theorem loadWith_eq_ok_iff {t : Table} :
    loadWith reader image bias = .ok t ↔
      ∃ contents, reader image = .ok contents ∧ contents.table bias = t := by
  unfold loadWith
  cases reader image with
  | error flaw => simp [Except.map]
  | ok contents => simp [Except.map]

theorem loadWith_eq_error_iff {flaw : ε} :
    loadWith reader image bias = .error flaw ↔ reader image = .error flaw := by
  unfold loadWith
  cases reader image with
  | error flaw => simp [Except.map]
  | ok contents => simp [Except.map]

theorem Contents.routines_table (contents : Contents) (bias : UInt64) :
    (contents.table bias).routines = (contents.table 0).routines.map (.moved bias) := by
  simp [table, Table.ofRecords, Routine.moved_zero]

theorem Contents.getElem?_imports_table (contents : Contents) (bias : UInt64) (a : Address) :
    (contents.table bias).imports[a + bias]? = (contents.table 0).imports[a]? := by
  have hzero : contents.imports.map (Import.moved 0) = contents.imports :=
    List.map_id'' Import.moved_zero contents.imports
  simp only [table, Table.ofRecords, hzero, getElem?_ofRecords_moved]

/-- Nothing is asked of the reader but that it is given the image and not the bias. -/
theorem loadWith_translates (reader : ByteArray → Except ε Contents) (image : ByteArray) (bias : UInt64) :
    (∀ flaw, loadWith reader image bias = .error flaw ↔ loadWith reader image 0 = .error flaw) ∧
      ∀ t, loadWith reader image 0 = .ok t → ∃ u, loadWith reader image bias = .ok u ∧
        u.routines = t.routines.map (.moved bias) ∧
        (∀ a : Address, u.imports[a + bias]? = t.imports[a]?) ∧
        ∀ a, Clears t.routines bias a →
          u.index.routineAt? (a + bias) = (t.index.routineAt? a).map (.moved bias) := by
  refine ⟨fun flaw => by rw [loadWith_eq_error_iff, loadWith_eq_error_iff], fun t ht => ?_⟩
  obtain ⟨contents, hread, rfl⟩ := loadWith_eq_ok_iff.mp ht
  exact ⟨contents.table bias, loadWith_eq_ok_iff.mpr ⟨contents, hread, rfl⟩,
    contents.routines_table bias, contents.getElem?_imports_table bias,
    fun a hclears => hclears.routineAt?_eq (contents.routines_table bias)⟩

end Reader

/-- **A bias moves what an image holds and does nothing else.**  With it the image is refused for the same
flaw as without.  If it is not refused, the routines are the moved ones in their order, each import slot has
its name where it has been moved to, and what is found at a moved address is the moved routine, as long as
nothing comes to the end of the address space. -/
theorem load_translates (image : ByteArray) (bias : UInt64) :
    (∀ flaw, load image bias = .error flaw ↔ load image 0 = .error flaw) ∧
      ∀ t, load image 0 = .ok t → ∃ u, load image bias = .ok u ∧
        u.routines = t.routines.map (.moved bias) ∧
        (∀ a : Address, u.imports[a + bias]? = t.imports[a]?) ∧
        ∀ a, Clears t.routines bias a →
          u.index.routineAt? (a + bias) = (t.index.routineAt? a).map (.moved bias) :=
  loadWith_translates read image bias

/-! ### A small shared object -/

/-- Numbers of four bytes, the lowest byte first. -/
def quads (ns : List Nat) : List UInt8 :=
  ns.flatMap fun n => [.ofNat n, .ofNat (n / 0x100), .ofNat (n / 0x1_0000), .ofNat (n / 0x100_0000)]

/-- Texts of ASCII characters, each with a zero behind it. -/
def terminated (texts : List String) : List UInt8 :=
  texts.flatMap fun (text : String) => text.toList.map (fun c => .ofNat c.toNat) ++ [0]

/-- A shared object of 32 bits with the routine `go` and the slot of the import `io`. -/
def smallImage : ByteArray :=
  let header := Header.magic ++ [1, 1, 1, 0, 0, 0, 0, 0, 0, 0, 0, 0] ++
    quads [0x3_0003, 1, 0, 0, 52, 0, 52, 0x28_0000, 0x2_0004]
  let sections :=
    quads [0, 0, 0, 0, 0, 0, 0, 0, 0, 0] ++
    quads [0, Section.dynamicSymbolsKind, 0, 0, 212, 48, 2, 0, 4, 16] ++
    quads [0, Section.stringsKind, 0, 0, 268, 7, 0, 0, 1, 0] ++
    quads [0, Section.relocationsKind, 0, 0, 260, 8, 1, 0, 4, 8]
  let symbols := quads [0, 0, 0, 0] ++ quads [1, 0x1000, 0, 0x1_0012] ++ quads [4, 0, 0, 0x12]
  let relocations := quads [0x4000, 0x207]
  let names := terminated ["", "go", "io"]
  ⟨(header ++ sections ++ symbols ++ relocations ++ names).toArray⟩

/-- What the shared object holds. -/
def smallContents : Contents where
  routines := [⟨⟨0x1000⟩, 0, "go"⟩]
  imports := [⟨⟨0x4000⟩, "io"⟩]

theorem read_smallImage : read smallImage = .ok smallContents := by
  have hrecords : (read smallImage).toOption.map (fun contents => (contents.routines, contents.imports)) =
      some (smallContents.routines, smallContents.imports) := by decide +kernel
  cases hread : read smallImage with
  | error flaw => simp [hread, Except.toOption] at hrecords
  | ok contents =>
    obtain ⟨routines, imports⟩ := contents
    obtain ⟨rfl, rfl⟩ : routines = smallContents.routines ∧ imports = smallContents.imports := by
      simpa [hread, Except.toOption] using hrecords
    rfl

/-- The shared object where a loader puts it: the routine without a size is found up to the end. -/
theorem smallImage_translates :
    ∃ u, load smallImage 0x7F00_0000_0000 = .ok u ∧
      u.index.routineAt? ⟨0x7F00_0000_1030⟩ = some ⟨⟨0x7F00_0000_1000⟩, 0, "go"⟩ ∧
      u.imports[(⟨0x7F00_0000_4000⟩ : Address)]? = some "io" := by
  obtain ⟨u, hload, -, himports, hfound⟩ := (load_translates smallImage 0x7F00_0000_0000).2
    (smallContents.table 0) (loadWith_eq_ok_iff.mpr ⟨smallContents, read_smallImage, rfl⟩)
  have hclears : Clears (smallContents.table 0).routines 0x7F00_0000_0000 ⟨0x1030⟩ :=
    ⟨by decide, by decide, by decide⟩
  exact ⟨u, hload, (hfound ⟨0x1030⟩ hclears).trans (by decide +kernel),
    (himports ⟨0x4000⟩).trans (by decide +kernel)⟩

end StackWalk.Elf
