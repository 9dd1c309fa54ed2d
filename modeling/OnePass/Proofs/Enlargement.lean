import OnePass.Proofs.Assembly

/-
**Larger tables.**

The machine asks its catalog for two things only, the width of a word and the instruction with a
given mnemonic.  So a catalog in which every instruction of another one is found, with words of the
same width, does as well: what is accepted under the smaller catalog is accepted under the larger
one, and the same words are emitted.  What is refused may of course be accepted then, unless each of
the two catalogs is within the other.

For tables this means that entries may be added anywhere and put in any other order.  An entry never
hides another one, since no two of them have the same mnemonic.

Main definitions:

* `OnePass.Catalog.Within` — **a catalog within another one**;
* `OnePass.Machine.under` — the same machine under another catalog.

Main results:

* `OnePass.Machine.feed_under_of_ok`, `OnePass.Machine.feed_under_of_error` — one token under both
  catalogs;
* `OnePass.Table.within_of_build` — more entries make a larger catalog;
* `OnePass.assemble_of_entries` — **what a larger table, or a table in another order, changes**.
-/

set_option relaxedAutoImplicit false
set_option autoImplicit false

namespace OnePass

open Source (Token)

/-- **A catalog within another one**: words have the same width, and every instruction is found in
the other catalog, too. -/
structure Catalog.Within (catalog catalog' : Catalog) : Prop where
  wordSize_eq : catalog'.wordSize = catalog.wordSize
  find?_eq : ∀ {token : Bytes} {i : Instruction}, catalog.find? token = some i →
    catalog'.find? token = some i

theorem Catalog.Within.find?_eq_none {catalog catalog' : Catalog} (h : catalog'.Within catalog)
    {token : Bytes} (hfind : catalog.find? token = none) : catalog'.find? token = none := by
  cases hfind' : catalog'.find? token with
  | none => rfl
  | some i =>
      rw [h.find?_eq hfind'] at hfind
      cases hfind

/-! ### A machine under another catalog -/

namespace Machine

/-- The same machine under another catalog. -/
def under (m : Machine) (catalog : Catalog) : Machine :=
  { m with catalog := catalog }

@[simp] theorem catalog_under (m : Machine) (catalog : Catalog) :
    (m.under catalog).catalog = catalog := rfl

@[simp] theorem pending_under (m : Machine) (catalog : Catalog) :
    (m.under catalog).pending = m.pending := rfl

theorem begin_under (m : Machine) (catalog : Catalog) (i : Instruction) (line : Int) :
    (m.under catalog).begin i line = (m.begin i line).under catalog := rfl

theorem supply_under {m : Machine} {catalog : Catalog}
    (hsize : catalog.wordSize = m.catalog.wordSize) (pending : Pending) (token : Bytes)
    (line : Int) :
    (m.under catalog).supply pending token line = (m.supply pending token line).under catalog := by
  simp only [supply, under, hsize]

section

variable {m n : Machine} {catalog catalog' : Catalog} {token : Bytes} {line : Int}
  {record : Record} {fault : Fault} {tokens : List Token}

/-- **A token that is accepted under a catalog is accepted under a larger one**, and emits the same
word. -/
theorem feed_under_of_ok (h : m.catalog.Within catalog')
    (hfeed : m.feed token line = .ok (record, n)) :
    (m.under catalog').feed token line = .ok (record, n.under catalog') := by
  have hsize := h.wordSize_eq
  rcases feed_eq_ok_iff.1 hfeed with
    ⟨i, hpending, hfind, rfl, rfl⟩ | ⟨pending, hpending, hlit, rfl, rfl⟩
  · rw [← pending_under m catalog'] at hpending
    have hfind' : (m.under catalog').catalog.find? token = some i := h.find?_eq hfind
    rw [feed_of_find? hpending hfind', begin_under]
  · rw [← pending_under m catalog'] at hpending
    have hlit' : Word.Literal (m.under catalog').catalog.wordSize token := by
      rwa [catalog_under, hsize]
    rw [feed_of_literal hpending hlit', supply_under hsize, catalog_under, hsize]

/-- **A token that is refused under a catalog is refused under a smaller one**, with the same
fault. -/
theorem feed_under_of_error (h : catalog'.Within m.catalog)
    (hfeed : m.feed token line = .error fault) :
    (m.under catalog').feed token line = .error fault := by
  have hsize := h.wordSize_eq
  rcases feed_eq_error_iff.1 hfeed with
    ⟨hpending, hfind, rfl⟩ | ⟨pending, hpending, hlit, rfl⟩
  · have hfind' : (m.under catalog').catalog.find? token = none := h.find?_eq_none hfind
    exact feed_of_find?_eq_none hpending hfind'
  · rw [hsize] at hlit ⊢
    exact feed_of_not_literal hpending hlit

theorem feedAll_under_of_ok (h : m.catalog.Within catalog') (hfeed : m.feedAll tokens = .ok n) :
    (m.under catalog').feedAll tokens = .ok (n.under catalog') := by
  induction tokens generalizing m with
  | nil =>
      cases hfeed
      rfl
  | cons token tokens ih =>
      obtain ⟨record, m₁, htoken, hrest⟩ := exists_feed_of_feedAll_cons hfeed
      have hcatalog := catalog_of_feed htoken
      rw [feedAll_cons_of_ok (feed_under_of_ok h htoken)]
      exact ih (hcatalog ▸ h) hrest

/-- Tokens of which one is refused lead to the same fault if neither catalog has more to offer. -/
theorem feedAll_under_of_error (h : m.catalog.Within catalog') (h' : catalog'.Within m.catalog)
    (hfeed : m.feedAll tokens = .error fault) :
    (m.under catalog').feedAll tokens = .error fault := by
  induction tokens generalizing m with
  | nil => cases hfeed
  | cons token tokens ih =>
      cases htoken : m.feed token.text token.line with
      | error refusal =>
          rw [feedAll_cons_of_error htoken] at hfeed
          cases hfeed
          exact feedAll_cons_of_error (feed_under_of_error h' htoken)
      | ok next =>
          have hcatalog := catalog_of_feed htoken
          rw [feedAll_cons_of_ok htoken] at hfeed
          rw [feedAll_cons_of_ok (feed_under_of_ok h htoken)]
          exact ih (hcatalog ▸ h) (hcatalog ▸ h') hfeed

end

end Machine

/-! ### Sources under both catalogs -/

section

variable {catalog catalog' : Catalog} {source : LineSource} {program : Program}

/-- **A source that assembles under a catalog assembles under a larger one**, to the same program.
-/
theorem Catalog.Within.result_eq_ok (h : catalog.Within catalog')
    (hok : (assemble catalog source).result = .ok program) :
    (assemble catalog' source).result = .ok program := by
  rw [assemble_eq_assembleFrom] at hok ⊢
  obtain ⟨m, hfeed, heof, hpending, rfl⟩ := result_assembleFrom_eq_ok_iff.1 hok
  have hnew : ({ catalog := catalog' } : Machine) =
      ({ catalog := catalog } : Machine).under catalog' := rfl
  rw [result_assembleFrom_eq_ok_iff, hnew]
  exact ⟨m.under catalog', Machine.feedAll_under_of_ok h hfeed, heof, hpending, rfl⟩

/-- Two catalogs of which each is within the other give the same result, also for a source that does
not assemble. -/
theorem Catalog.Within.result_eq (h : catalog.Within catalog') (h' : catalog'.Within catalog) :
    (assemble catalog' source).result = (assemble catalog source).result := by
  have hnew : ({ catalog := catalog' } : Machine) =
      ({ catalog := catalog } : Machine).under catalog' := rfl
  rw [assemble_eq_assembleFrom, assemble_eq_assembleFrom, result_assembleFrom, result_assembleFrom,
    hnew]
  cases hfeed : ({ catalog := catalog } : Machine).feedAll (Source.tokensFrom (0 + 1) source.lines)
    with
  | error fault => rw [Machine.feedAll_under_of_error h h' hfeed]
  | ok m =>
      rw [Machine.feedAll_under_of_ok h hfeed]
      rfl

end

/-! ### Tables -/

namespace Table

variable {table table' : Table} {catalog catalog' : Catalog}

theorem mem_instructions_of_build (hbuild : table.build = .ok catalog) {i : Instruction} :
    i ∈ catalog.instructions ↔ ∃ entry ∈ table.entries, entry.instruction = i := by
  rw [(eq_of_build hbuild).1, List.mem_map]

/-- Tables that share an entry have words of the same width: that of its opcode. -/
theorem wordSize_eq_of_mem (hbuild : table.build = .ok catalog)
    (hbuild' : table'.build = .ok catalog') {entry : Entry} (h : entry ∈ table.entries)
    (h' : entry ∈ table'.entries) : catalog'.wordSize = catalog.wordSize := by
  have hwidth := (wellFormed_of_build hbuild).opcode_ofWidth entry.instruction
    ((mem_instructions_of_build hbuild).2 ⟨entry, h, rfl⟩)
  have hwidth' := (wellFormed_of_build hbuild').opcode_ofWidth entry.instruction
    ((mem_instructions_of_build hbuild').2 ⟨entry, h', rfl⟩)
  exact hwidth'.1.symm.trans hwidth.1

/-- **More entries make a larger catalog.** -/
theorem within_of_build (hbuild : table.build = .ok catalog) (hbuild' : table'.build = .ok catalog')
    (hentries : ∀ entry ∈ table.entries, entry ∈ table'.entries) : catalog.Within catalog' := by
  obtain ⟨entry, hentry⟩ := List.exists_mem_of_ne_nil _ (eq_of_build hbuild).2
  refine ⟨wordSize_eq_of_mem hbuild hbuild' hentry (hentries entry hentry), ?_⟩
  intro token i hfind
  obtain ⟨hi, htoken⟩ := (Catalog.find?_eq_some_iff (wellFormed_of_build hbuild)).1 hfind
  obtain ⟨found, hfound, rfl⟩ := (mem_instructions_of_build hbuild).1 hi
  refine (Catalog.find?_eq_some_iff (wellFormed_of_build hbuild')).2 ⟨?_, htoken⟩
  exact (mem_instructions_of_build hbuild').2 ⟨found, hentries found hfound, rfl⟩

theorem instructions_perm_of_build (hbuild : table.build = .ok catalog)
    (hbuild' : table'.build = .ok catalog') (hperm : table.entries.Perm table'.entries) :
    catalog'.instructions.Perm catalog.instructions := by
  rw [(eq_of_build hbuild).1, (eq_of_build hbuild').1]
  exact (hperm.map Entry.instruction).symm

end Table

/-- Catalogs with the same instructions list the same mnemonics, since these are in order. -/
theorem Catalog.mnemonics_eq_of_perm {catalog catalog' : Catalog}
    (h : catalog'.instructions.Perm catalog.instructions) :
    catalog'.mnemonics = catalog.mnemonics := by
  refine List.Perm.eq_of_pairwise ?_ catalog'.pairwise_mnemonics catalog.pairwise_mnemonics ?_
  · intro s t _ _ hst hts
    exact Bytes.le_antisymm hst hts
  · have hmap := h.map (·.mnemonic)
    exact (catalog'.mnemonics_perm.trans hmap).trans catalog.mnemonics_perm.symm

/-- **What a larger table, or a table in another order, changes.**  If every entry of a table stands
somewhere in another one, then whatever assembles under the first table assembles under the second
one, to the same program, record for record.  If the entries are the same in another order, every
source has the same result, be it a program or a fault, and the catalogs have the same size and list
the same mnemonics.  That words have the same width under both tables need not be asked for: they
have the width of an opcode. -/
theorem assemble_of_entries {table table' : Table} {catalog catalog' : Catalog}
    (hbuild : table.build = .ok catalog) (hbuild' : table'.build = .ok catalog') :
    ((∀ entry ∈ table.entries, entry ∈ table'.entries) →
      catalog'.wordSize = catalog.wordSize ∧
      ∀ source program, (assemble catalog source).result = .ok program →
        (assemble catalog' source).result = .ok program) ∧
    (table.entries.Perm table'.entries →
      (∀ source, (assemble catalog' source).result = (assemble catalog source).result) ∧
      catalog'.size = catalog.size ∧ catalog'.mnemonics = catalog.mnemonics) := by
  refine ⟨?_, ?_⟩
  · intro hentries
    have hwithin := Table.within_of_build hbuild hbuild' hentries
    exact ⟨hwithin.wordSize_eq, fun source program hok => hwithin.result_eq_ok hok⟩
  · intro hperm
    have hwithin := Table.within_of_build hbuild hbuild' fun entry => hperm.mem_iff.1
    have hwithin' := Table.within_of_build hbuild' hbuild fun entry => hperm.mem_iff.2
    have hinstructions := Table.instructions_perm_of_build hbuild hbuild' hperm
    exact ⟨fun source => hwithin.result_eq hwithin', hinstructions.length_eq,
      Catalog.mnemonics_eq_of_perm hinstructions⟩

/-- A table of two entries, one with a third entry between them, whose mnemonic looks like an
operand, and one with the two entries exchanged: a program that is the same under all of them, and a
token that is refused under the first and the last one. -/
theorem assemble_of_entries_exchanged :
    let inc : Table.Entry := ⟨Bytes.ofString "INC", Bytes.ofString "01", 1⟩
    let nop : Table.Entry := ⟨Bytes.ofString "NOP", Bytes.ofString "00", 0⟩
    let one : Table.Entry := ⟨Bytes.ofString "1", Bytes.ofString "11", 0⟩
    let source : LineSource :=
      ⟨[Bytes.ofString "INC", Bytes.ofString "1", Bytes.ofString "NOP"], .endOfInput⟩
    let refused : LineSource := ⟨[Bytes.ofString "1"], .endOfInput⟩
    ∃ catalog larger exchanged,
      (⟨[], 2, [inc, nop]⟩ : Table).build = .ok catalog ∧
      (⟨[], 2, [nop, one, inc]⟩ : Table).build = .ok larger ∧
      (⟨[], 2, [nop, inc]⟩ : Table).build = .ok exchanged ∧
      (∃ program, (assemble larger source).result = .ok program ∧
        program.words = [Bytes.ofString "01", Bytes.ofString "01", Bytes.ofString "00"]) ∧
      (assemble exchanged refused).result = .error (.unknownCommand 1 (Bytes.ofString "1")) ∧
      exchanged.mnemonics = catalog.mnemonics := by
  intro inc nop one source refused
  obtain ⟨-, hlarger⟩ :=
    (@assemble_of_entries ⟨[], 2, [inc, nop]⟩ ⟨[], 2, [nop, one, inc]⟩ _ _ rfl rfl).1 (by decide)
  obtain ⟨hresult, -, hmnemonics⟩ :=
    (@assemble_of_entries ⟨[], 2, [inc, nop]⟩ ⟨[], 2, [nop, inc]⟩ _ _ rfl rfl).2
      (List.Perm.swap nop inc [])
  refine ⟨_, _, _, rfl, rfl, rfl, ⟨_, hlarger source _ rfl, rfl⟩, ?_, hmnemonics⟩
  rw [hresult]
  rfl

end OnePass
