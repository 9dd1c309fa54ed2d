import Mathlib.Order.Bounds.Defs
import OnePass.Proofs.Catalog

/-
**Which tables are accepted.**

A table is checked entry by entry, each entry against those in front of it, and the first one that
does not fit is reported.  What this comes to can be said of the table as a whole, without any
order: the size of a word is supported, there are entries, each is in order by itself, and no two
have the same mnemonic.  The catalog of such a table answers every question from the entries, and
the number in a refusal is the length of the shortest part of the table, counted from its beginning,
that would be refused as well.

Main definitions:

* `OnePass.Table.Entry.Sound` — an entry that is in order by itself;
* `OnePass.Table.Acceptable` — **a table that is in order**;
* `OnePass.Catalog.Lists` — a catalog that answers from the entries of a table;
* `OnePass.Table.first`, `OnePass.Table.FailsAt` — the first entries of a table, and where it goes
  wrong.

Main results:

* `OnePass.Table.exists_registerAll_iff` — the entries that can follow those of a catalog;
* `OnePass.Table.exists_build_iff` — a table is accepted exactly if it is in order;
* `OnePass.Table.lists_of_build` — the catalog of a table answers from its entries;
* `OnePass.Table.isLeast_of_build_error` — the number in a refusal;
* `OnePass.Table.build_exact` — **what building a catalog accepts, makes and reports**.
-/

set_option relaxedAutoImplicit false
set_option autoImplicit false

namespace OnePass

/-! ### Tables that are in order -/

namespace Table

/-- An entry that is in order by itself, in a table with words of the given size. -/
structure Entry.Sound (entry : Entry) (size : Int) : Prop where
  /-- The instruction has a name. -/
  mnemonic_ne_nil : entry.mnemonic ≠ []
  /-- There is no layout in the name. -/
  free_of_layout : Bytes.ofAscii ' ' ∉ entry.mnemonic ∧ Bytes.ofAscii '\t' ∉ entry.mnemonic ∧
    Bytes.ofAscii ';' ∉ entry.mnemonic
  /-- The opcode has as many digits as a word. -/
  length_opcode : entry.opcode.length = size
  /-- All of them are binary. -/
  isDigit_opcode : ∀ b ∈ entry.opcode, Word.IsDigit b
  /-- The number of operands is not negative. -/
  args_nonneg : 0 ≤ entry.args

/-- **A table that is in order**, with words of the given size. -/
structure Acceptable (table : Table) (size : Int) : Prop where
  /-- A word has a bit. -/
  one_le_size : 1 ≤ size
  /-- A word does not have too many bits. -/
  size_le : size ≤ 64
  /-- There is an instruction. -/
  entries_ne_nil : table.entries ≠ []
  /-- Every entry is in order. -/
  sound : ∀ entry ∈ table.entries, entry.Sound size
  /-- No name is used twice. -/
  nodup_mnemonics : (table.entries.map (·.mnemonic)).Nodup

/-- The table with its first entries only. -/
def first (table : Table) (number : Nat) : Table :=
  { table with entries := table.entries.take number }

/-- **Where a table goes wrong**: the entries in front of this one alone are accepted, if there are
any, and together with it they are not. -/
structure FailsAt (table : Table) (number : Nat) : Prop where
  /-- Entries are counted from one. -/
  one_le : 1 ≤ number
  /-- There is such an entry. -/
  le_length : number ≤ table.entries.length
  /-- The entries in front of it are accepted. -/
  front : number = 1 ∨ ∃ catalog, (table.first (number - 1)).build = .ok catalog
  /-- Together with it they are refused. -/
  refused : ¬ ∃ catalog, (table.first number).build = .ok catalog

end Table

/-- **A catalog that answers from the entries of a table.** -/
structure Catalog.Lists (catalog : Catalog) (table : Table) (size : Int) : Prop where
  /-- Words have the size that the table asks for. -/
  wordSize_eq : catalog.wordSize = size
  /-- There is an instruction for each entry. -/
  size_eq : catalog.size = table.entries.length
  /-- What is found under a mnemonic is what the entry with this mnemonic says. -/
  find?_eq_some_iff : ∀ (token : Bytes) (i : Instruction), catalog.find? token = some i ↔
    ∃ entry ∈ table.entries, entry.mnemonic = token ∧
      i.mnemonic = entry.mnemonic ∧ i.opcode = entry.opcode ∧ i.arity = entry.args
  /-- A token is known exactly if it is found. -/
  knows_eq : ∀ token : Bytes, catalog.knows token = (catalog.find? token).isSome
  /-- The mnemonics are listed in order, none of them twice. -/
  increasing_mnemonics : catalog.mnemonics.Pairwise (List.Lex fun a b => a.toNat < b.toNat)
  /-- They are those of the entries. -/
  mnemonics_perm : catalog.mnemonics.Perm (table.entries.map (·.mnemonic))

/-! ### Taking in entries -/

namespace Table

/-- An entry fits behind the instructions of a catalog if it is in order and its name is not
taken. -/
theorem Entry.fits_iff {entry : Entry} {catalog : Catalog} :
    entry.Fits catalog ↔ entry.Sound catalog.wordSize ∧
      ∀ i ∈ catalog.instructions, i.mnemonic ≠ entry.mnemonic := by
  have hlayout : (∀ b ∈ entry.mnemonic, ¬ isLayout b) ↔ Bytes.ofAscii ' ' ∉ entry.mnemonic ∧
      Bytes.ofAscii '\t' ∉ entry.mnemonic ∧ Bytes.ofAscii ';' ∉ entry.mnemonic := by
    constructor
    · intro h
      exact ⟨fun hb => h _ hb rfl, fun hb => h _ hb rfl, fun hb => h _ hb rfl⟩
    · rintro ⟨hspace, htab, hmarker⟩ b hb hlayout
      simp only [isLayout, Bool.or_eq_true, beq_iff_eq] at hlayout
      rcases hlayout with (rfl | rfl) | rfl
      · exact hspace hb
      · exact htab hb
      · exact hmarker hb
  constructor
  · rintro ⟨hname, hfree, hfresh, ⟨hlength, hdigits⟩, hargs⟩
    exact ⟨⟨hname, hlayout.1 hfree, by rw [hlength], hdigits, hargs⟩, hfresh⟩
  · rintro ⟨⟨hname, hfree, hlength, hdigits, hargs⟩, hfresh⟩
    exact ⟨hname, hlayout.2 hfree, hfresh, ⟨Int.ofNat_inj.1 hlength, hdigits⟩, hargs⟩

variable {catalog : Catalog} {number : Nat} {entry : Entry} {entries front back : List Entry}

theorem registerAll_cons_of_ok {catalog' : Catalog} (h : catalog.register entry = .ok catalog') :
    registerAll catalog number (entry :: entries) = registerAll catalog' (number + 1) entries := by
  rw [registerAll, h]

theorem registerAll_cons_of_error {error : EntryError} (h : catalog.register entry = .error error) :
    registerAll catalog number (entry :: entries) = .error (.badEntry number error) := by
  rw [registerAll, h]

/-- **The entries that can follow the instructions of a catalog**: each is in order, no two have the
same name, and none has a name that is taken. -/
theorem exists_registerAll_iff :
    (∃ catalog', registerAll catalog number entries = .ok catalog') ↔
      (∀ entry ∈ entries, entry.Sound catalog.wordSize) ∧ (entries.map (·.mnemonic)).Nodup ∧
        ∀ i ∈ catalog.instructions, ∀ entry ∈ entries, i.mnemonic ≠ entry.mnemonic := by
  induction entries generalizing catalog number with
  | nil => simp [registerAll]
  | cons entry entries ih =>
      cases hentry : catalog.register entry with
      | error error =>
          -- The entry does not fit, so it is not in order, or its name is taken.
          rw [registerAll_cons_of_error hentry]
          constructor
          · rintro ⟨catalog', h⟩
            cases h
          · rintro ⟨hsound, -, hfresh⟩
            have hfits : entry.Fits catalog := Entry.fits_iff.2
              ⟨hsound entry List.mem_cons_self, fun i hi => hfresh i hi entry List.mem_cons_self⟩
            rw [Catalog.register_eq_ok_iff.2 ⟨hfits, rfl⟩] at hentry
            cases hentry
      | ok catalog₁ =>
          obtain ⟨hfits, rfl⟩ := Catalog.register_eq_ok_iff.1 hentry
          obtain ⟨hsound, hfresh⟩ := Entry.fits_iff.1 hfits
          rw [registerAll_cons_of_ok hentry, ih]
          simp only [List.forall_mem_cons, List.map_cons, List.nodup_cons, List.mem_append,
            List.mem_singleton, List.mem_map]
          constructor
          · rintro ⟨hsounds, hnodup, hfreshs⟩
            refine ⟨⟨hsound, hsounds⟩, ⟨?_, hnodup⟩, fun i hi => ?_⟩
            · rintro ⟨other, hother, heq⟩
              exact hfreshs _ (Or.inr rfl) other hother heq.symm
            · exact ⟨hfresh i hi, hfreshs i (Or.inl hi)⟩
          · rintro ⟨⟨-, hsounds⟩, ⟨hnot, hnodup⟩, hfreshs⟩
            refine ⟨hsounds, hnodup, ?_⟩
            rintro i (hi | rfl) other hother
            · exact (hfreshs i hi).2 other hother
            · exact fun heq => hnot ⟨other, hother, heq.symm⟩

/-- Entries that are taken in are out of the way of those behind them. -/
theorem registerAll_append_of_ok {catalog' : Catalog}
    (h : registerAll catalog number front = .ok catalog') :
    registerAll catalog number (front ++ back) =
      registerAll catalog' (number + front.length) back := by
  induction front generalizing catalog number with
  | nil =>
      cases h
      rfl
  | cons entry front ih =>
      cases hentry : catalog.register entry with
      | error error =>
          rw [registerAll_cons_of_error hentry] at h
          cases h
      | ok catalog₁ =>
          rw [registerAll_cons_of_ok hentry] at h
          rw [List.cons_append, registerAll_cons_of_ok hentry, ih h, List.length_cons,
            Nat.add_assoc, Nat.add_comm 1]

/-- **The entry that is reported** does not fit behind those in front of it, which are taken in. -/
theorem exists_of_registerAll_error {error : Error}
    (h : registerAll catalog number entries = .error error) :
    ∃ front entry back catalog' cause, entries = front ++ entry :: back ∧
      registerAll catalog number front = .ok catalog' ∧
      catalog'.register entry = .error cause ∧ error = .badEntry (number + front.length) cause := by
  induction entries generalizing catalog number with
  | nil => cases h
  | cons first entries ih =>
      cases hfirst : catalog.register first with
      | error cause =>
          rw [registerAll_cons_of_error hfirst] at h
          cases h
          exact ⟨[], first, entries, catalog, cause, rfl, rfl, hfirst, rfl⟩
      | ok catalog₁ =>
          rw [registerAll_cons_of_ok hfirst] at h
          obtain ⟨front, entry, back, catalog', cause, rfl, hfront, hentry, rfl⟩ := ih h
          refine ⟨first :: front, entry, back, catalog', cause, rfl, ?_, hentry, ?_⟩
          · rw [registerAll_cons_of_ok hfirst, hfront]
          · rw [List.length_cons, Nat.add_assoc, Nat.add_comm 1]

/-! ### Building a catalog -/

variable {table : Table}

/-- The entries of a table are taken in one after another if the size of a word is supported and
there are some. -/
theorem build_eq_registerAll (table : Table) (hpos : 1 ≤ table.effectiveWordSize)
    (hle : table.effectiveWordSize ≤ 64) (hne : table.entries ≠ []) :
    table.build =
      registerAll ⟨table.name, table.effectiveWordSize.toNat, []⟩ 1 table.entries := by
  have hrange : ¬ (table.effectiveWordSize < 0 ∨ maxWordSize < table.effectiveWordSize) := by
    rintro (h | h)
    · omega
    · exact absurd hle (Int.not_le.2 h)
  unfold build
  simp only [if_neg hrange, if_neg hne]

theorem build_first (hpos : 1 ≤ table.effectiveWordSize) (hle : table.effectiveWordSize ≤ 64)
    {number : Nat} (htake : table.entries.take number = entries) (hne : entries ≠ []) :
    (table.first number).build =
      registerAll ⟨table.name, table.effectiveWordSize.toNat, []⟩ 1 entries := by
  subst htake
  exact build_eq_registerAll (table.first number) hpos hle hne

theorem bounds_of_build {catalog : Catalog} (h : table.build = .ok catalog) :
    1 ≤ table.effectiveWordSize ∧ table.effectiveWordSize ≤ 64 ∧ table.entries ≠ [] := by
  have hzero := table.effectiveWordSize_ne_zero
  have hmax : (maxWordSize : Int) = 64 := rfl
  unfold build at h
  simp only at h
  split at h
  · cases h
  · next hrange =>
    split at h
    · cases h
    · next hne => exact ⟨by omega, by omega, hne⟩

/-- **A table is accepted exactly if it is in order.** -/
theorem exists_build_iff :
    (∃ catalog, table.build = .ok catalog) ↔ table.Acceptable table.effectiveWordSize := by
  constructor
  · rintro ⟨catalog, h⟩
    obtain ⟨hpos, hle, hne⟩ := bounds_of_build h
    rw [build_eq_registerAll table hpos hle hne] at h
    obtain ⟨hsound, hnodup, -⟩ := exists_registerAll_iff.1 ⟨catalog, h⟩
    rw [Int.toNat_of_nonneg (by omega)] at hsound
    exact ⟨hpos, hle, hne, hsound, hnodup⟩
  · rintro ⟨hpos, hle, hne, hsound, hnodup⟩
    rw [build_eq_registerAll table hpos hle hne]
    refine exists_registerAll_iff.2 ⟨?_, hnodup, by simp⟩
    rwa [Int.toNat_of_nonneg (by omega)]

/-- The first entries of a table that is in order are a table that is in order. -/
theorem Acceptable.first {size : Int} (h : table.Acceptable size) {number : Nat}
    (hpos : 1 ≤ number) : (table.first number).Acceptable size := by
  have hne : table.entries.take number ≠ [] := by
    rw [Ne, List.take_eq_nil_iff, not_or]
    exact ⟨by omega, h.entries_ne_nil⟩
  refine ⟨h.one_le_size, h.size_le, hne, ?_, ?_⟩
  · intro entry hentry
    exact h.sound entry (List.mem_of_mem_take hentry)
  · exact h.nodup_mnemonics.sublist ((List.take_sublist number _).map _)

theorem first_first {number number' : Nat} (h : number' ≤ number) :
    (table.first number).first number' = table.first number' := by
  simp only [Table.first, List.take_take, Nat.min_eq_left h]

/-- A table does not go wrong in front of a part that is accepted. -/
theorem FailsAt.le_of_build {number number' : Nat} (h : table.FailsAt number')
    {catalog : Catalog} (hfront : (table.first number).build = .ok catalog) : number < number' := by
  refine Nat.lt_of_not_le fun hle => h.refused ?_
  rw [← first_first hle]
  exact exists_build_iff.2 ((exists_build_iff.1 ⟨catalog, hfront⟩).first h.one_le)

/-- **The number in a refusal** is that of the first entry at which the table goes wrong. -/
theorem isLeast_of_build_error {error : Error} (h : table.build = .error error)
    (hpos : 1 ≤ table.effectiveWordSize) (hle : table.effectiveWordSize ≤ 64)
    (hne : table.entries ≠ []) :
    ∃ number cause, error = .badEntry number cause ∧ IsLeast {i | table.FailsAt i} number := by
  rw [build_eq_registerAll table hpos hle hne] at h
  obtain ⟨front, entry, back, catalog', cause, hentries, hfront, hentry, rfl⟩ :=
    exists_of_registerAll_error h
  have hlength : table.entries.length = front.length + (back.length + 1) := by
    rw [hentries, List.length_append, List.length_cons]
  -- Of the entries in front of the reported one a catalog can be built, unless there are none.
  have haccepted : front = [] ∨ (table.first front.length).build = .ok catalog' := by
    refine Classical.or_iff_not_imp_left.2 fun hsome => ?_
    rw [build_first hpos hle (hentries ▸ List.take_left) hsome]
    exact hfront
  refine ⟨1 + front.length, cause, rfl, ⟨by omega, by omega, ?_, ?_⟩, ?_⟩
  · rcases haccepted with rfl | haccepted
    · exact Or.inl rfl
    · exact Or.inr ⟨catalog', by rwa [Nat.add_sub_cancel_left]⟩
  · rintro ⟨catalog, hbuild⟩
    have htake : table.entries.take (1 + front.length) = front ++ [entry] := by
      rw [hentries, Nat.add_comm, List.take_length_add_append]
      rfl
    rw [build_first hpos hle htake (by simp), registerAll_append_of_ok hfront,
      registerAll_cons_of_error hentry] at hbuild
    cases hbuild
  · intro number hfails
    rcases haccepted with rfl | haccepted
    · exact hfails.one_le
    · have := hfails.le_of_build haccepted
      omega

/-! ### What a catalog answers -/

/-- The instruction of an entry that is in order says what the entry says. -/
theorem Entry.Sound.eq_instruction_iff {size : Int} (h : entry.Sound size) {i : Instruction} :
    i = entry.instruction ↔
      i.mnemonic = entry.mnemonic ∧ i.opcode = entry.opcode ∧ i.arity = entry.args := by
  have hargs := Int.toNat_of_nonneg h.args_nonneg
  constructor
  · rintro rfl
    exact ⟨rfl, rfl, hargs⟩
  · obtain ⟨mnemonic, opcode, arity⟩ := i
    rintro ⟨rfl, rfl, harity⟩
    rw [Entry.instruction, ← harity, Int.toNat_natCast]

end Table

namespace Bytes

/-- Texts in order that differ are in strict order. -/
theorem lex_of_le {s t : Bytes} (h : le s t = true) (hne : s ≠ t) :
    List.Lex (fun a b => a.toNat < b.toNat) s t := by
  induction s generalizing t with
  | nil =>
      cases t with
      | nil => exact absurd rfl hne
      | cons b t => exact .nil
  | cons a s ih =>
      cases t with
      | nil => cases h
      | cons b t =>
          rcases le_cons_iff.1 h with hlt | ⟨rfl, hle⟩
          · exact .rel hlt
          · exact .cons (ih hle fun heq => hne (by rw [heq]))

end Bytes

namespace Catalog

theorem knows_eq_isSome_find? (catalog : Catalog) (token : Bytes) :
    catalog.knows token = (catalog.find? token).isSome := by
  rw [knows, find?, List.isSome_find?]

/-- The mnemonics of a well-formed catalog are in strict order. -/
theorem WellFormed.increasing_mnemonics {catalog : Catalog} (hwf : catalog.WellFormed) :
    catalog.mnemonics.Pairwise (List.Lex fun a b => a.toNat < b.toNat) := by
  have hnodup : catalog.mnemonics.Nodup := catalog.mnemonics_perm.nodup_iff.2 hwf.nodup_mnemonics
  exact catalog.pairwise_mnemonics.imp₂ (fun _ _ hle hne => Bytes.lex_of_le hle hne) hnodup

end Catalog

namespace Table

/-- **The catalog of a table answers from its entries.** -/
theorem lists_of_build {table : Table} {catalog : Catalog} (h : table.build = .ok catalog) :
    catalog.Lists table table.effectiveWordSize := by
  have hwf := wellFormed_of_build h
  have hacc := exists_build_iff.1 ⟨catalog, h⟩
  have hpos := hacc.one_le_size
  have hlookup := @Catalog.find?_eq_some_iff catalog hwf
  have hincreasing := hwf.increasing_mnemonics
  obtain ⟨rfl, -⟩ := eq_of_build h
  refine
    { wordSize_eq := Int.toNat_of_nonneg (by omega)
      size_eq := List.length_map _
      find?_eq_some_iff := fun token i => ?_
      knows_eq := fun token => Catalog.knows_eq_isSome_find? _ token
      increasing_mnemonics := hincreasing
      mnemonics_perm := ?_ }
  · rw [hlookup, List.mem_map]
    constructor
    · rintro ⟨⟨entry, hentry, rfl⟩, rfl⟩
      exact ⟨entry, hentry, rfl, (hacc.sound entry hentry).eq_instruction_iff.1 rfl⟩
    · rintro ⟨entry, hentry, rfl, hi⟩
      obtain rfl := (hacc.sound entry hentry).eq_instruction_iff.2 hi
      exact ⟨⟨entry, hentry, rfl⟩, rfl⟩
  · have hperm := Catalog.mnemonics_perm
      ⟨table.name, table.effectiveWordSize.toNat, table.entries.map Entry.instruction⟩
    rwa [List.map_map] at hperm

/-- **What building a catalog accepts, makes and reports.**  A table is accepted exactly if it is in
order, and its catalog answers from its entries.  A refusal that does not concern the size of a word
or the lack of entries names the first entry at which the table goes wrong. -/
theorem build_exact (table : Table) :
    let size : Int := if table.wordSize = 0 then 8 else table.wordSize
    ((∃ catalog, table.build = .ok catalog) ↔ table.Acceptable size) ∧
    (∀ catalog, table.build = .ok catalog → catalog.Lists table size) ∧
    ∀ error, table.build = .error error → 1 ≤ size → size ≤ 64 → table.entries ≠ [] →
      ∃ number cause, error = .badEntry number cause ∧
        error.message =
          Bytes.ofString "instruction " ++ Bytes.ofNat number ++ Bytes.ofString ": " ++
            cause.message ∧
        IsLeast {i | table.FailsAt i} number := by
  intro size
  have hsize : size = table.effectiveWordSize := rfl
  rw [hsize]
  refine ⟨exists_build_iff, fun catalog h => lists_of_build h, ?_⟩
  intro error herror hpos hle hne
  obtain ⟨number, cause, rfl, hleast⟩ := isLeast_of_build_error herror hpos hle hne
  exact ⟨number, cause, rfl, rfl, hleast⟩

/-- The built-in table is in order.  A table that uses a mnemonic twice goes wrong where it is used
again, whatever is wrong with the entries behind. -/
theorem build_exact_repeated_mnemonic :
    let table : Table :=
      { entries :=
          [⟨Bytes.ofString "A", Bytes.ofString "00000001", 1⟩,
            ⟨Bytes.ofString "B", Bytes.ofString "00000010", 0⟩,
            ⟨Bytes.ofString "A", Bytes.ofString "00000011", 0⟩, ⟨[], Bytes.ofString "2", -1⟩] }
    (Catalog.builtIn.toTable.Acceptable 8 ∧ Catalog.builtIn.Lists Catalog.builtIn.toTable 8) ∧
      table.build = .error (.badEntry 3 (.duplicateMnemonic (Bytes.ofString "A"))) ∧
      IsLeast {i | table.FailsAt i} 3 := by
  intro table
  obtain ⟨hacceptable, hlists, -⟩ := build_exact Catalog.builtIn.toTable
  have hbuild : table.build = .error (.badEntry 3 (.duplicateMnemonic (Bytes.ofString "A"))) := rfl
  obtain ⟨-, -, herror⟩ := build_exact table
  obtain ⟨number, cause, heq, -, hleast⟩ := herror _ hbuild (by decide) (by decide) (by decide)
  cases heq
  exact ⟨⟨hacceptable.1 ⟨_, build_builtIn⟩, hlists _ build_builtIn⟩, hbuild, hleast⟩

end Table

end OnePass
