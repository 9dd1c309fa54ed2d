import Mathlib.Data.List.Nodup
import OnePass.Catalog.BuiltIn
import OnePass.Catalog.Table
import OnePass.Proofs.Word

/-
**Well-formed catalogs.**

A table is checked entry by entry against the instructions in front of it.  What the checks leave of
a table is a well-formed catalog: its words have between one and sixty-four bits, its mnemonics are
distinct, not empty and free of layout, and its opcodes are words.

Main definitions:

* `OnePass.Table.Entry.Fits` — an entry that a catalog takes in;
* `OnePass.Catalog.WellFormed` — what holds of a catalog that was built from a table.

Main results:

* `OnePass.Catalog.register_eq_ok_iff` — an entry is taken in exactly if it fits, and is then the
  last instruction;
* `OnePass.Table.wellFormed_of_build` — **every catalog that a table gives is well formed**;
* `OnePass.Table.eq_of_build` — its instructions are those of the entries, in their order;
* `OnePass.Catalog.find?_eq_some_iff` — a look-up finds the one instruction with a mnemonic.
-/

set_option relaxedAutoImplicit false
set_option autoImplicit false

namespace OnePass

/-! ### The order of mnemonics -/

namespace Bytes

theorem le_cons_iff {a b : UInt8} {s t : Bytes} :
    le (a :: s) (b :: t) = true ↔ a.toNat < b.toNat ∨ a = b ∧ le s t = true := by
  simp [le, UInt8.lt_iff_toNat_lt]

theorem le_total (s t : Bytes) : (le s t || le t s) = true := by
  induction s generalizing t with
  | nil => rfl
  | cons a s ih =>
      cases t with
      | nil => rfl
      | cons b t =>
          rw [Bool.or_eq_true, le_cons_iff, le_cons_iff]
          rcases Nat.lt_trichotomy a.toNat b.toNat with hlt | heq | hlt
          · exact Or.inl (Or.inl hlt)
          · obtain rfl : a = b := UInt8.toNat_inj.1 heq
            rcases Bool.or_eq_true_iff.1 (ih t) with hle | hle
            · exact Or.inl (Or.inr ⟨rfl, hle⟩)
            · exact Or.inr (Or.inr ⟨rfl, hle⟩)
          · exact Or.inr (Or.inl hlt)

theorem le_trans {s t u : Bytes} (hst : le s t = true) (htu : le t u = true) :
    le s u = true := by
  induction s generalizing t u with
  | nil => rfl
  | cons a s ih =>
      cases t with
      | nil => cases hst
      | cons b t =>
          cases u with
          | nil => cases htu
          | cons c u =>
              rw [le_cons_iff] at hst htu ⊢
              rcases hst with hab | ⟨rfl, hst⟩
              · rcases htu with hbc | ⟨rfl, -⟩
                · exact Or.inl (Nat.lt_trans hab hbc)
                · exact Or.inl hab
              · rcases htu with hbc | ⟨rfl, htu⟩
                · exact Or.inl hbc
                · exact Or.inr ⟨rfl, ih hst htu⟩

theorem le_antisymm {s t : Bytes} (hst : le s t = true) (hts : le t s = true) : s = t := by
  induction s generalizing t with
  | nil =>
      cases t with
      | nil => rfl
      | cons b t => cases hts
  | cons a s ih =>
      cases t with
      | nil => cases hst
      | cons b t =>
          rw [le_cons_iff] at hst hts
          rcases hst with hab | ⟨rfl, hst⟩
          · rcases hts with hba | ⟨rfl, -⟩
            · omega
            · omega
          · rcases hts with hba | ⟨-, hts⟩
            · omega
            · rw [ih hst hts]
end Bytes

/-! ### Entries -/

namespace Table.Entry

/-- The instruction that an entry describes. -/
def instruction (entry : Entry) : Instruction :=
  ⟨entry.mnemonic, entry.opcode, entry.args.toNat⟩

/-- An entry that fits behind the instructions of a catalog. -/
structure Fits (entry : Entry) (catalog : Catalog) : Prop where
  /-- The instruction has a name. -/
  mnemonic_ne_nil : entry.mnemonic ≠ []
  /-- A source can spell the name. -/
  not_isLayout : ∀ b ∈ entry.mnemonic, ¬ isLayout b
  /-- The name is not taken. -/
  ne_mnemonic : ∀ i ∈ catalog.instructions, i.mnemonic ≠ entry.mnemonic
  /-- The opcode is a word. -/
  opcode_ofWidth : Word.OfWidth catalog.wordSize entry.opcode
  /-- The number of operands is a number of words. -/
  args_nonneg : 0 ≤ entry.args

end Table.Entry

/-- The instruction that no table describes. -/
def Instruction.blank : Instruction := ⟨[], [], 0⟩

namespace Catalog

/-! ### Looking up a mnemonic -/

theorem mnemonic_of_find? {catalog : Catalog} {token : Bytes} {i : Instruction}
    (h : catalog.find? token = some i) : i.mnemonic = token := by
  simpa using List.find?_some h

theorem mem_of_find? {catalog : Catalog} {token : Bytes} {i : Instruction}
    (h : catalog.find? token = some i) : i ∈ catalog.instructions :=
  List.mem_of_find?_eq_some h

/-- What a look-up finds is found under its own mnemonic. -/
theorem find?_mnemonic {catalog : Catalog} {token : Bytes} {i : Instruction}
    (h : catalog.find? token = some i) : catalog.find? i.mnemonic = some i := by
  rw [mnemonic_of_find? h, h]

theorem knows_eq_false_iff {catalog : Catalog} {token : Bytes} :
    catalog.knows token = false ↔ ∀ i ∈ catalog.instructions, i.mnemonic ≠ token := by
  simp [knows]

/-! ### One more entry -/

/-- **An entry is taken in exactly if it fits**, and is then the last instruction. -/
theorem register_eq_ok_iff {catalog catalog' : Catalog} {entry : Table.Entry} :
    catalog.register entry = .ok catalog' ↔
      entry.Fits catalog ∧
        catalog' =
          { catalog with instructions := catalog.instructions ++ [entry.instruction] } := by
  unfold register
  -- The checks stand one behind the other; each of them is one field of `Fits`.
  constructor
  · intro h
    split at h
    · cases h
    · next hname =>
      split at h
      · cases h
      · next hlayout =>
        split at h
        · cases h
        · next hknown =>
          split at h
          · cases h
          · next hopcode =>
            split at h
            · cases h
            · next hargs =>
              rw [not_or, Classical.not_not, Classical.not_not] at hopcode
              refine ⟨⟨hname, ?_, ?_, ⟨hopcode.1, ?_⟩, by omega⟩, (Except.ok.inj h).symm⟩
              · simpa using hlayout
              · exact knows_eq_false_iff.1 (Bool.eq_false_iff.2 hknown)
              · exact Word.trimDigits_eq_nil_iff.1 hopcode.2
  · rintro ⟨⟨hname, hlayout, hfresh, ⟨hlength, hdigits⟩, hargs⟩, rfl⟩
    have htrim : Word.trimDigits entry.opcode = [] := Word.trimDigits_eq_nil_iff.2 hdigits
    have hknown : catalog.knows entry.mnemonic = false := knows_eq_false_iff.2 hfresh
    rw [if_neg hname, if_neg (by simpa using hlayout), if_neg (by simp [hknown]),
      if_neg (by simp [hlength, htrim]), if_neg (by omega)]
    rfl

/-! ### Catalogs built from a table -/

/-- What holds of a catalog that was built from a table. -/
structure WellFormed (catalog : Catalog) : Prop where
  /-- A word has a bit. -/
  wordSize_pos : 0 < catalog.wordSize
  /-- A word does not have too many bits. -/
  wordSize_le : catalog.wordSize ≤ Table.maxWordSize
  /-- Every instruction has a name. -/
  mnemonic_ne_nil : ∀ i ∈ catalog.instructions, i.mnemonic ≠ []
  /-- A source can spell every name. -/
  not_isLayout : ∀ i ∈ catalog.instructions, ∀ b ∈ i.mnemonic, ¬ Table.isLayout b
  /-- No name is used twice. -/
  nodup_mnemonics : (catalog.instructions.map (·.mnemonic)).Nodup
  /-- Every opcode is a word. -/
  opcode_ofWidth : ∀ i ∈ catalog.instructions, Word.OfWidth catalog.wordSize i.opcode

/-- A catalog without instructions is well formed if its words have a size that is supported. -/
theorem wellFormed_nil {name : Bytes} {size : Nat} (hpos : 0 < size)
    (hle : size ≤ Table.maxWordSize) : WellFormed ⟨name, size, []⟩ := by
  refine ⟨hpos, hle, ?_, ?_, ?_, ?_⟩ <;> simp

/-- Taking in an entry keeps a catalog well formed. -/
theorem WellFormed.register {catalog catalog' : Catalog} {entry : Table.Entry}
    (hwf : catalog.WellFormed) (h : catalog.register entry = .ok catalog') :
    catalog'.WellFormed := by
  obtain ⟨hfits, rfl⟩ := register_eq_ok_iff.1 h
  have hmem : ∀ i ∈ catalog.instructions ++ [entry.instruction],
      i ∈ catalog.instructions ∨ i = entry.instruction := by
    intro i hi
    simpa using hi
  refine ⟨hwf.wordSize_pos, hwf.wordSize_le, ?_, ?_, ?_, ?_⟩
  · intro i hi
    rcases hmem i hi with hi | rfl
    · exact hwf.mnemonic_ne_nil i hi
    · exact hfits.mnemonic_ne_nil
  · intro i hi
    rcases hmem i hi with hi | rfl
    · exact hwf.not_isLayout i hi
    · exact hfits.not_isLayout
  · rw [List.map_append, List.nodup_append]
    refine ⟨hwf.nodup_mnemonics, by simp, ?_⟩
    intro a ha b hb
    obtain ⟨i, hi, rfl⟩ := List.mem_map.1 ha
    rw [List.map_singleton, List.mem_singleton] at hb
    rw [hb]
    exact hfits.ne_mnemonic i hi
  · intro i hi
    rcases hmem i hi with hi | rfl
    · exact hwf.opcode_ofWidth i hi
    · exact hfits.opcode_ofWidth

/-- What is looked up in a well-formed catalog is the instruction with this mnemonic. -/
theorem find?_eq_some_iff {catalog : Catalog} (hwf : catalog.WellFormed) {token : Bytes}
    {i : Instruction} :
    catalog.find? token = some i ↔ i ∈ catalog.instructions ∧ i.mnemonic = token := by
  constructor
  · intro h
    exact ⟨mem_of_find? h, mnemonic_of_find? h⟩
  · rintro ⟨hi, rfl⟩
    cases hfind : catalog.find? i.mnemonic with
    | none =>
        rw [find?, List.find?_eq_none] at hfind
        exact absurd BEq.rfl (hfind i hi)
    | some j =>
        -- No mnemonic is used twice, so the one found is this one.
        rw [List.inj_on_of_nodup_map hwf.nodup_mnemonics (mem_of_find? hfind) hi
          (mnemonic_of_find? hfind)]

/-- The mnemonics of a catalog are in order. -/
theorem pairwise_mnemonics (catalog : Catalog) :
    catalog.mnemonics.Pairwise fun s t => Bytes.le s t = true := by
  have htrans : ∀ s t u : Bytes, Bytes.le s t = true → Bytes.le t u = true → Bytes.le s u = true :=
    fun _ _ _ hst htu => Bytes.le_trans hst htu
  exact List.pairwise_mergeSort htrans Bytes.le_total _

theorem mnemonics_perm (catalog : Catalog) :
    catalog.mnemonics.Perm (catalog.instructions.map (·.mnemonic)) :=
  List.mergeSort_perm _ _

end Catalog

namespace Table

/-- Taking in entries one after another keeps a catalog well formed. -/
theorem wellFormed_of_registerAll {catalog catalog' : Catalog} {number : Nat}
    {entries : List Entry} (hwf : catalog.WellFormed)
    (h : registerAll catalog number entries = .ok catalog') : catalog'.WellFormed := by
  induction entries generalizing catalog number with
  | nil =>
      cases h
      exact hwf
  | cons entry entries ih =>
      unfold registerAll at h
      split at h
      · cases h
      · next hentry => exact ih (hwf.register hentry) h

theorem effectiveWordSize_ne_zero (table : Table) : table.effectiveWordSize ≠ 0 := by
  unfold effectiveWordSize
  split
  · decide
  · assumption

/-- **Every catalog that a table gives is well formed.** -/
theorem wellFormed_of_build {table : Table} {catalog : Catalog}
    (h : table.build = .ok catalog) : catalog.WellFormed := by
  have hne := table.effectiveWordSize_ne_zero
  unfold build at h
  simp only at h
  split at h
  · cases h
  · next hsize =>
    split at h
    · cases h
    · refine wellFormed_of_registerAll (Catalog.wellFormed_nil ?_ ?_) h
      · omega
      · omega

theorem eq_of_registerAll {catalog catalog' : Catalog} {number : Nat} {entries : List Entry}
    (h : registerAll catalog number entries = .ok catalog') :
    catalog' = { catalog with
      instructions := catalog.instructions ++ entries.map Entry.instruction } := by
  induction entries generalizing catalog number with
  | nil =>
      cases h
      simp
  | cons entry entries ih =>
      unfold registerAll at h
      split at h
      · cases h
      · next hentry =>
        obtain ⟨-, rfl⟩ := Catalog.register_eq_ok_iff.1 hentry
        rw [ih h]
        simp

/-- **The catalog of a table** has the instructions of its entries, in their order, and there are
some. -/
theorem eq_of_build {table : Table} {catalog : Catalog} (h : table.build = .ok catalog) :
    catalog = ⟨table.name, table.effectiveWordSize.toNat, table.entries.map Entry.instruction⟩ ∧
      table.entries ≠ [] := by
  unfold build at h
  simp only at h
  split at h
  · cases h
  · split at h
    · cases h
    · next hne => exact ⟨eq_of_registerAll h, hne⟩
end Table

/-- A table that describes the instructions of a catalog. -/
def Catalog.toTable (catalog : Catalog) : Table :=
  ⟨catalog.name, catalog.wordSize,
    catalog.instructions.map fun i => ⟨i.mnemonic, i.opcode, i.arity⟩⟩

/-- The built-in instruction set is what its table gives. -/
theorem Table.build_builtIn : Catalog.builtIn.toTable.build = .ok Catalog.builtIn := rfl

end OnePass
