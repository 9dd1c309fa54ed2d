import OnePass.Image.Listing
import OnePass.Proofs.BoxTable
import OnePass.Proofs.ImageFormat

/-
**What a listing tells.**

A listing is a table with one row for every word of a program.  A table of instructions lets no
blanks into a mnemonic, so if its mnemonics are printable ASCII, every cell of a listing can be told
apart from the blanks around it.  Then a listing can be read: it is a rectangle that shows the
address, the word, the line number, the mnemonic and the role of every record, in order, and the
counts of the summary below them.  So nothing of the records is lost.

Main results:

* `OnePass.Listing.isSimple_table` — **a listing is a simple table**, for a printable program;
* `OnePass.Listing.row_inj` — the row of a record tells which record it is, and at which address;
* `OnePass.Listing.eq_of_render_eq` — **a listing determines its records and its summary**;
* `OnePass.listing_is_faithful` — **a listing is a faithful rectangle**.
-/

set_option relaxedAutoImplicit false
set_option autoImplicit false

namespace OnePass

open Bytes (ofString ofAscii ofNat ofInt padZeros)
open BoxTable (IsCell Drawing)

namespace Listing

/-! ### Rows -/

/-- A record whose word and mnemonic can be told apart from the blanks around them. -/
def Printable (record : Record) : Prop :=
  IsCell record.word ∧ IsCell record.mnemonic

theorem isCell_ofInt (n : Int) : IsCell (ofInt n) :=
  BoxTable.isCell_of_not_mem (Bytes.plain_ofInt n) (Bytes.blank_not_mem_ofInt n)

/-- An address is a number with zeros in front. -/
theorem isCell_address (address : Nat) : IsCell (padZeros 3 (ofNat address)) := by
  refine BoxTable.isCell_of_not_mem ?_ ?_
  · intro b hb
    exact (Bytes.isDecimal_of_mem_padZeros b hb).isPlain
  · intro hblank
    exact absurd (Bytes.isDecimal_of_mem_padZeros _ hblank) (by decide)

theorem isCell_of_mem_row {record : Record} (h : Printable record) (address : Nat) :
    ∀ s ∈ row record address, IsCell s := by
  have hrole : IsCell record.role.name :=
    BoxTable.isCell_of_not_mem record.role.plain_name record.role.blank_not_mem_name
  simp [row, isCell_address, h.1, isCell_ofInt, h.2, hrole]

/-- **The row of a record tells which record it is**, and at which address. -/
theorem row_inj {record record' : Record} {address address' : Nat}
    (h : row record address = row record' address') : record = record' ∧ address = address' := by
  obtain ⟨word, line, mnemonic, role⟩ := record
  obtain ⟨word', line', mnemonic', role'⟩ := record'
  simp only [row, List.cons.injEq, and_true] at h
  obtain ⟨haddress, hword, hline, hmnemonic, hrole⟩ := h
  refine ⟨?_, ?_⟩
  · rw [hword, Bytes.ofInt_inj hline, hmnemonic, Role.name_inj hrole]
  · rw [← Bytes.digitsValue_ofNat address, ← Bytes.digitsValue_padZeros 3, haddress,
      Bytes.digitsValue_padZeros, Bytes.digitsValue_ofNat]

/-! ### The table -/

section

variable {program program' : Program} {summary summary' : Summary}

/-- The headings of a listing. -/
def headings : List Bytes :=
  ["ADDR", "WORD", "LINE", "MNEMONIC", "ROLE"].map ofString

/-- The footings of a listing. -/
def footings (summary : Summary) : List Bytes :=
  [[], [], [], ofInt summary.words ++ ofString " WORDS",
    ofAscii '+' :: ofInt summary.padding ++ ofString " ZERO"]

/-- Behind a number there may be a plain text that does not end with a blank. -/
theorem isCell_append {number unit : Bytes} (hnumber : IsCell number) (hne : number ≠ [])
    (hplain : Bytes.Plain unit) (hunit : unit ≠ []) (hlast : unit.getLast? ≠ some (ofAscii ' ')) :
    IsCell (number ++ unit) := by
  refine ⟨hnumber.1.append hplain, ?_, ?_⟩
  · rw [List.head?_append_of_ne_nil _ hne]
    exact hnumber.2.1
  · rwa [List.getLast?_append_of_ne_nil _ hunit]

theorem isCell_of_mem_footings (summary : Summary) : ∀ s ∈ footings summary, IsCell s := by
  have hempty : IsCell [] := by decide
  have hwords : IsCell (ofInt summary.words ++ ofString " WORDS") :=
    isCell_append (isCell_ofInt _) (Bytes.ofInt_ne_nil _) (by decide) (by decide) (by decide)
  have hsigned : IsCell (ofAscii '+' :: ofInt summary.padding) := by
    refine BoxTable.isCell_of_not_mem ?_ ?_
    · exact List.forall_mem_cons.2 ⟨by decide, Bytes.plain_ofInt _⟩
    · exact List.not_mem_cons_of_ne_of_not_mem (by decide) (Bytes.blank_not_mem_ofInt _)
  have hpadding : IsCell (ofAscii '+' :: ofInt summary.padding ++ ofString " ZERO") :=
    isCell_append hsigned (List.cons_ne_nil _ _) (by decide) (by decide) (by decide)
  intro s hs
  simp only [footings, List.mem_cons, List.not_mem_nil, or_false] at hs
  rcases hs with rfl | rfl | rfl | rfl | rfl
  exacts [hempty, hempty, hempty, hwords, hpadding]

/-- **A listing is a simple table.** -/
theorem isSimple_table (h : ∀ record ∈ program.records, Printable record) (summary : Summary) :
    (table program summary).IsSimple := by
  have hheadings : ∀ s ∈ headings, IsCell s := by decide
  refine ⟨List.cons_ne_nil _ _, ?_, ?_, ?_, ?_, ?_, ?_⟩
  · change IsCell (ofString "Program Listing")
    decide
  · change (ofString "Program Listing").length ≤
      (headings.map List.length).sum + 3 * (headings.length - 1)
    decide
  · exact List.forall_mem_map.1 hheadings
  · exact List.forall_mem_map.1 (isCell_of_mem_footings summary)
  · intro cells hcells
    obtain ⟨entry, -, rfl⟩ := List.mem_map.1 hcells
    rfl
  · intro cells hcells
    obtain ⟨entry, hentry, rfl⟩ := List.mem_map.1 hcells
    exact isCell_of_mem_row (h _ (List.fst_mem_of_mem_zipIdx hentry)) _

theorem length_rows (program : Program) (summary : Summary) :
    (table program summary).rows.length = program.size := by
  simp [table]

theorem getElem?_rows {k : Nat} {record : Record} (h : program.records[k]? = some record)
    (summary : Summary) : (table program summary).rows[k]? = some (row record k) := by
  simp [table, h]

/-- **What a listing shows.** -/
theorem drawing_render (h : ∀ record ∈ program.records, Printable record) (summary : Summary) :
    ∃ width, Drawing width
      ([[], [ofString "Program Listing"], [], headings, []] ++ (table program summary).rows ++
        [[], footings summary, []])
      (render program summary) :=
  ⟨_, Drawing.render (isSimple_table h summary)⟩

/-- **A listing determines its records and its summary.** -/
theorem eq_of_render_eq (h : ∀ record ∈ program.records, Printable record)
    (h' : ∀ record ∈ program'.records, Printable record)
    (hsame : render program' summary' = render program summary) :
    program'.records = program.records ∧ summary' = summary := by
  obtain ⟨width, hdraw⟩ := drawing_render h summary
  obtain ⟨width', hdraw'⟩ := drawing_render h' summary'
  rw [hsame] at hdraw'
  obtain ⟨htop, hbottom⟩ := List.append_inj' (hdraw'.unique hdraw) rfl
  refine ⟨?_, ?_⟩
  · -- The rows give the records back, each together with its address.
    have hzip : program'.records.zipIdx = program.records.zipIdx := by
      refine (List.map_inj_right ?_).1 (List.append_cancel_left htop)
      rintro ⟨record, address⟩ ⟨record', address'⟩ hrow
      obtain ⟨rfl, rfl⟩ := row_inj hrow
      rfl
    rw [← List.zipIdx_map_fst 0 program'.records, hzip, List.zipIdx_map_fst]
  · obtain ⟨words, padding⟩ := summary
    obtain ⟨words', padding'⟩ := summary'
    simp only [footings, List.cons.injEq, true_and, and_true, List.append_cancel_right_eq,
      List.cons_append] at hbottom
    rw [Bytes.ofInt_inj hbottom.1, Bytes.ofInt_inj hbottom.2]

end

end Listing

section

variable {table : Table} {catalog : Catalog} {source : LineSource} {program : Program}

/-- The records of a program carry mnemonics of the catalog. -/
theorem exists_mnemonic_of_mem_records (hprogram : (assemble catalog source).result = .ok program) :
    ∀ record ∈ program.records, ∃ i ∈ catalog.instructions, record.mnemonic = i.mnemonic := by
  intro record hrecord
  obtain ⟨blocks, hsplit, hrecords⟩ := exists_blocks_of_assemble hprogram
  rw [hrecords] at hrecord
  obtain ⟨block, hblock, hrecord⟩ := List.mem_flatMap.1 hrecord
  refine ⟨block.instruction, Catalog.mem_of_find? (hsplit.complete block hblock).known, ?_⟩
  rcases List.mem_cons.1 hrecord with rfl | hrecord
  · rfl
  · obtain ⟨operand, -, rfl⟩ := List.mem_map.1 hrecord
    rfl

/-- Programs of a table with printable mnemonics are printable. -/
theorem printable_of_mem_records (hbuild : table.build = .ok catalog)
    (hplain : ∀ i ∈ catalog.instructions, Bytes.Plain i.mnemonic)
    (hprogram : (assemble catalog source).result = .ok program) :
    ∀ record ∈ program.records, Listing.Printable record := by
  have hwf := Table.wellFormed_of_build hbuild
  intro record hrecord
  have hword := ofWidth_of_mem_words hbuild hprogram record.word (List.mem_map_of_mem hrecord)
  obtain ⟨i, hi, hmnemonic⟩ := exists_mnemonic_of_mem_records hprogram record hrecord
  refine ⟨BoxTable.isCell_of_not_mem hword.plain ?_, ?_⟩
  · intro hblank
    exact absurd (hword.2 _ hblank) (by decide)
  · rw [hmnemonic]
    refine BoxTable.isCell_of_not_mem (hplain i hi) fun hblank => ?_
    exact hwf.not_isLayout i hi _ hblank (by decide)

/-- **A listing is a faithful rectangle.**  A program that was assembled under a table with
printable ASCII mnemonics is listed with any summary.  All lines have the same number of characters.
Five lines are above the rows, and three are below them, which show what the summary counts.
Between them there is one row for every record, and it shows the address, with at least three
digits, and the word, the line number, the mnemonic and the role of the record.  Another such
listing is the same only if its records and its summary are the same. -/
theorem listing_is_faithful (hbuild : table.build = .ok catalog)
    (hplain : ∀ i ∈ catalog.instructions, Bytes.Plain i.mnemonic)
    (hprogram : (assemble catalog source).result = .ok program) (summary : Summary) :
    (∃ (width : Nat) (head rows foot : List Bytes),
      Bytes.lines (Listing.render program summary) = head ++ rows ++ foot ++ [[]] ∧
      (∀ line ∈ head ++ rows ++ foot, (Utf8.chars line).length = width) ∧
      head.map BoxTable.readCells =
        [[], [ofString "Program Listing"], [],
          ["ADDR", "WORD", "LINE", "MNEMONIC", "ROLE"].map ofString, []] ∧
      rows.length = program.size ∧
      (∀ (k : Nat) (record : Record), program.records[k]? = some record →
        ∃ line address : Bytes, rows[k]? = some line ∧
          BoxTable.readCells line =
            [address, record.word, ofInt record.line, record.mnemonic, record.role.name] ∧
          address = padZeros 3 (ofNat k) ∧ 3 ≤ address.length ∧
          (∀ b ∈ address, Bytes.IsDecimal b) ∧ Bytes.digitsValue 10 address = k) ∧
      foot.map BoxTable.readCells =
        [[], [[], [], [], ofInt summary.words ++ ofString " WORDS",
          ofAscii '+' :: ofInt summary.padding ++ ofString " ZERO"], []]) ∧
    ∀ (table' : Table) (catalog' : Catalog) (source' : LineSource) (program' : Program)
      (summary' : Summary), table'.build = .ok catalog' →
      (∀ i ∈ catalog'.instructions, Bytes.Plain i.mnemonic) →
      (assemble catalog' source').result = .ok program' →
      Listing.render program' summary' = Listing.render program summary →
      program'.records = program.records ∧ summary' = summary := by
  have hprintable := printable_of_mem_records hbuild hplain hprogram
  refine ⟨?_, ?_⟩
  · obtain ⟨width, lines, htext, hlines, hshown⟩ := Listing.drawing_render hprintable summary
    obtain ⟨upper, foot, rfl, hupper, hfoot⟩ := List.map_eq_append_iff.1 hshown
    obtain ⟨head, rows, rfl, hhead, hrows⟩ := List.map_eq_append_iff.1 hupper
    refine ⟨width, head, rows, foot, ?_, fun line hline => (hlines line hline).2, hhead, ?_, ?_,
      hfoot⟩
    · rw [htext, Bytes.lines_unlines fun line hline => (hlines line hline).1]
    · rw [← List.length_map BoxTable.readCells, hrows, Listing.length_rows]
    · intro k record hrecord
      have hrow := Listing.getElem?_rows hrecord summary
      rw [← hrows, List.getElem?_map] at hrow
      obtain ⟨line, hline, hcells⟩ := Option.map_eq_some_iff.1 hrow
      refine ⟨line, padZeros 3 (ofNat k), hline, hcells, rfl, Bytes.le_length_padZeros 3 _,
        Bytes.isDecimal_of_mem_padZeros, ?_⟩
      rw [Bytes.digitsValue_padZeros, Bytes.digitsValue_ofNat]
  · intro table' catalog' source' program' summary' hbuild' hplain' hprogram' hsame
    exact Listing.eq_of_render_eq hprintable
      (printable_of_mem_records hbuild' hplain' hprogram') hsame

/-- A mnemonic that looks like a piece of a table: it is wider than the heading above it, and is
read as one cell. -/
theorem listing_is_faithful_bar_mnemonic :
    let mnemonic := ofString "|--+--|-+|"
    let table : Table := ⟨[], 2, [⟨mnemonic, ofString "10", 1⟩]⟩
    let catalog : Catalog := ⟨[], 2, [⟨mnemonic, ofString "10", 1⟩]⟩
    let source : LineSource := ⟨[mnemonic, [], ofString "1"], .endOfInput⟩
    let program := (assemble catalog source).program
    table.build = .ok catalog ∧ Bytes.Plain mnemonic ∧
    (assemble catalog source).result = .ok program ∧
    ∃ (width : Nat) (head rows foot : List Bytes),
      Bytes.lines (Listing.render program ⟨2, 126⟩) = head ++ rows ++ foot ++ [[]] ∧
      (∀ line ∈ head ++ rows ++ foot, (Utf8.chars line).length = width) ∧
      rows.map BoxTable.readCells =
        [[ofString "000", ofString "10", ofString "1", mnemonic, ofString "opcode"],
          [ofString "001", ofString "01", ofString "3", mnemonic, ofString "operand"]] ∧
      foot.map BoxTable.readCells =
        [[], [[], [], [], ofString "2 WORDS", ofString "+126 ZERO"], []] := by
  intro mnemonic table catalog source program
  have hbuild : table.build = .ok catalog := rfl
  have hplain : ∀ i ∈ catalog.instructions, Bytes.Plain i.mnemonic := by decide
  have hfault : (assemble catalog source).fault = none :=
    Option.isNone_iff_eq_none.1 (by decide +kernel)
  have hprogram : (assemble catalog source).result = .ok program := by
    rw [Assembly.result, hfault]
  have hrecords : program.records = [⟨ofString "10", 1, mnemonic, .opcode⟩,
      ⟨ofString "01", 3, mnemonic, .operand⟩] := by decide +kernel
  obtain ⟨⟨width, head, rows, foot, hlines, hwidth, -, hlength, hrows, hfoot⟩, -⟩ :=
    listing_is_faithful hbuild hplain hprogram ⟨2, 126⟩
  refine ⟨hbuild, by decide, hprogram, width, head, rows, foot, hlines, hwidth, ?_, ?_⟩
  · rw [hrecords] at hrows
    have hsize : rows.length = 2 := by
      rw [hlength, ← Program.length_records, hrecords]
      rfl
    obtain ⟨first, address, hfirst, hcells, rfl, -⟩ := hrows 0 _ rfl
    obtain ⟨second, address', hsecond, hcells', rfl, -⟩ := hrows 1 _ rfl
    obtain ⟨first', second', rfl⟩ := List.length_eq_two.1 hsize
    obtain rfl := Option.some.inj hfirst
    obtain rfl := Option.some.inj hsecond
    rw [List.map_cons, List.map_singleton, hcells, hcells']
    decide +kernel
  · rw [hfoot]
    decide +kernel

end

end OnePass
