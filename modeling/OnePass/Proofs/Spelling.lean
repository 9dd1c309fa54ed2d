import OnePass.Proofs.Assembly
import OnePass.Proofs.Sanitize
import OnePass.Proofs.Scanner

/-
**Which instructions can be written.**

A table may not have mnemonics with layout in them, since the sanitizer would take it out of every
line.  But the sanitizer also replaces what is not UTF-8, and the scanner ends a line at a line feed
and drops a carriage return in front of it.  So there are mnemonics that no text spells, and others
that are spelled only with a carriage return to spare.

Main definitions:

* `OnePass.Instruction.sample` — the lines of an instruction, with `1` for every operand.

Main results:

* `OnePass.exists_line_of_opcode` — the record of an opcode names a token of its line;
* `OnePass.assemble_sample` — an instruction with a clean mnemonic is assembled from its sample;
* `OnePass.spelled_iff` — **which mnemonics of a table are spelled by a text**, as they stand and at
  all;
* `OnePass.mnemonic_of_two_lines_is_unknown` — a table is accepted although no text spells its
  mnemonic.
-/

set_option relaxedAutoImplicit false
set_option autoImplicit false

namespace OnePass

open Bytes (ofString)

section

variable {catalog : Catalog} {source : LineSource} {program : Program} {i : Instruction}

/-- **The record of an opcode names the token of the line that it stands on.** -/
theorem exists_line_of_opcode {record : Record}
    (h : (assemble catalog source).result = .ok program) (hmem : record ∈ program.records)
    (hrole : record.role = .opcode) :
    ∃ k line, source.lines[k]? = some line ∧ Source.sanitize line = record.mnemonic ∧
      record.line = (1 + k : Nat) := by
  obtain ⟨blocks, hsplit, hrecords⟩ := exists_blocks_of_assemble h
  rw [hrecords] at hmem
  obtain ⟨block, hblock, hmem⟩ := List.mem_flatMap.1 hmem
  -- The records of operands have another role.
  rcases List.mem_cons.1 hmem with rfl | hmem
  · have htoken : (⟨block.line, block.instruction.mnemonic⟩ : Source.Token) ∈
        Source.tokens source.lines := by
      rw [hsplit.tokens_eq]
      exact List.mem_flatMap.2 ⟨block, hblock, List.mem_cons_self ..⟩
    obtain ⟨before, after, htokens⟩ := List.append_of_mem htoken
    obtain ⟨k, line, hline, htext, -, hnumber, -, -⟩ :=
      Source.exists_line_of_tokensFrom_eq htokens
    exact ⟨k, line, hline, htext, hnumber⟩
  · obtain ⟨operand, -, rfl⟩ := List.mem_map.1 hmem
    cases hrole

/-! ### One instruction -/

/-- The lines of an instruction, with `1` for every operand. -/
def Instruction.sample (i : Instruction) : List Bytes :=
  i.mnemonic :: List.replicate i.arity (ofString "1")

/-- An instruction with a clean mnemonic is assembled from its sample. -/
theorem assemble_sample (hwf : catalog.WellFormed) (hfind : catalog.find? i.mnemonic = some i)
    (hclean : Source.Clean i.mnemonic) :
    ∃ program, (assemble catalog ⟨i.sample, .endOfInput⟩).result = .ok program ∧
      program.size = 1 + i.arity ∧
      program.records.head? = some ⟨i.opcode, 1, i.mnemonic, .opcode⟩ := by
  have hone : Source.sanitize (ofString "1") = ofString "1" := rfl
  have hones : ∀ line ∈ List.replicate i.arity (ofString "1"),
      Source.sanitize line = ofString "1" := by
    intro line hline
    rw [List.eq_of_mem_replicate hline, hone]
  have hne : Source.sanitize i.mnemonic ≠ [] := by
    rw [hclean.sanitize_eq]
    exact hwf.mnemonic_ne_nil i (Catalog.mem_of_find? hfind)
  let operands := Source.tokensFrom 2 (List.replicate i.arity (ofString "1"))
  have hlength : operands.length = i.arity := by
    rw [Source.length_tokensFrom_of_ne, List.length_replicate]
    intro line hline
    rw [hones line hline]
    decide
  have hblock : Block.Complete catalog ⟨i, 1, operands⟩ := by
    refine ⟨⟨hfind, ?_⟩, hlength⟩
    intro operand hoperand
    obtain ⟨line, hline, htext⟩ := Source.exists_mem_of_mem_tokensFrom hoperand
    rw [htext, hones line hline]
    exact Word.literal_iff.2 ⟨rfl, hwf.wordSize_pos⟩
  have hsplit : SplitsInto catalog (Source.tokens i.sample) [⟨i, 1, operands⟩] := by
    refine ⟨by simpa using hblock, ?_⟩
    rw [Source.tokens, Instruction.sample, Source.tokensFrom_cons_of_ne hne, hclean.sanitize_eq]
    simp [Block.tokens, operands]
  have heof : (⟨i.sample, .endOfInput⟩ : LineSource).ending.isEndOfInput = true := rfl
  obtain ⟨program, hok⟩ := assemble_of_blocks heof hsplit
  obtain ⟨blocks, hblocks, hrecords⟩ := exists_blocks_of_assemble hok
  rw [hblocks.unique hsplit] at hrecords
  refine ⟨program, hok, ?_, ?_⟩
  · rw [← Program.length_records, hrecords]
    simp [Block.records, hlength, Nat.add_comm]
  · rw [hrecords]
    rfl

/-- The text of a sample is read back, but for a carriage return at the end of its first line. -/
theorem ofText_sample {first : Bytes} (hfirst : Bytes.newline ∉ first) (arity : Nat) :
    LineSource.ofText (Bytes.unlines (first :: List.replicate arity (ofString "1"))) =
      ⟨dropReturn first :: List.replicate arity (ofString "1"), .endOfInput⟩ := by
  have hone : dropReturn (ofString "1") = ofString "1" := rfl
  rw [LineSource.ofText_eq (Bytes.linesOf_unlines ?_), List.map_cons, List.map_replicate, hone,
    Bytes.unfinished, List.append_nil]
  intro line hline
  rcases List.mem_cons.1 hline with rfl | hline
  · exact hfirst
  · rw [List.eq_of_mem_replicate hline]
    decide

/-! ### Mnemonics -/

/-- What a table lets through is clean as soon as it is UTF-8. -/
theorem clean_mnemonic {cs : List Char} (hwf : catalog.WellFormed) (hi : i ∈ catalog.instructions)
    (hutf8 : i.mnemonic = Utf8.encode cs) : Source.Clean i.mnemonic := by
  have hlayout : ∀ a : Char, a.toNat < 128 → Table.isLayout (Bytes.ofAscii a) = true → a ∉ cs := by
    intro a hascii ha hmem
    refine hwf.not_isLayout i hi _ ?_ ha
    rw [hutf8]
    exact Utf8.ofAscii_mem_encode hascii hmem
  refine ⟨cs, hutf8, ?_⟩
  intro c hc
  refine ⟨?_, ?_⟩
  · rintro rfl
    exact hlayout ';' (by decide) (by decide) hc
  · rw [Source.isBlank, decide_eq_false_iff_not]
    rintro (rfl | rfl)
    · exact hlayout ' ' (by decide) (by decide) hc
    · exact hlayout '\t' (by decide) (by decide) hc

/-- A clean text that ends in a carriage return is not the token of its line, which loses it. -/
theorem sanitize_dropReturn_ne {s : Bytes} (hclean : Source.Clean s)
    (hlast : s.getLast? = some Bytes.carriageReturn) : Source.sanitize (dropReturn s) ≠ s := by
  obtain ⟨cs, rfl, hcs⟩ := hclean
  obtain ⟨cs', c, rfl, hencode⟩ := Utf8.exists_encode_append (by decide) hlast
  have hclean' : Source.Clean (Utf8.encode cs') :=
    ⟨cs', rfl, fun c hc => hcs c (List.mem_append_left _ hc)⟩
  have hdrop : dropReturn (Utf8.encode (cs' ++ [c])) = Utf8.encode cs' := by
    rw [dropReturn, if_pos hlast, hencode, List.dropLast_concat]
  rw [hdrop, hclean'.sanitize_eq, hencode]
  simp

end

/-- **Which mnemonics of a table are spelled by a text.**  The plain text of an instruction is
assembled to it exactly if its mnemonic is UTF-8, without a line feed in it and without a carriage
return at its end.  There is any text at all that the instruction is assembled from exactly if its
mnemonic is UTF-8 and without a line feed. -/
theorem spelled_iff {table : Table} {catalog : Catalog} {mnemonic : Bytes} {i : Instruction}
    (hbuild : table.build = .ok catalog) (hfind : catalog.find? mnemonic = some i) :
    ((∃ program, (assemble catalog (LineSource.ofText (Bytes.unlines
          (mnemonic :: List.replicate i.arity (ofString "1"))))).result = .ok program ∧
        program.size = 1 + i.arity ∧
        program.records.head? = some ⟨i.opcode, 1, mnemonic, .opcode⟩) ↔
      IsLine mnemonic ∧ ∃ cs, mnemonic = Utf8.encode cs) ∧
    ((∃ text program, (assemble catalog (LineSource.ofText text)).result = .ok program ∧
        ∃ record ∈ program.records, record.role = .opcode ∧ record.mnemonic = mnemonic) ↔
      Bytes.newline ∉ mnemonic ∧ ∃ cs, mnemonic = Utf8.encode cs) := by
  obtain rfl := Catalog.mnemonic_of_find? hfind
  have hwf := Table.wellFormed_of_build hbuild
  have hi := Catalog.mem_of_find? hfind
  -- The mnemonic of a record is a token of a line, so it has no line feed and is clean.
  have spelled : ∀ {text : Bytes} {program : Program} {record : Record},
      (assemble catalog (LineSource.ofText text)).result = .ok program →
      record ∈ program.records → record.role = .opcode → record.mnemonic = i.mnemonic →
      Bytes.newline ∉ i.mnemonic ∧ Source.Clean i.mnemonic := by
    intro text program record hok hmem hrole hmnemonic
    obtain ⟨k, line, hline, htoken, -⟩ := exists_line_of_opcode hok hmem hrole
    have hnewline := LineSource.newline_not_mem_of_mem_ofText (List.mem_of_getElem? hline)
    rw [← hmnemonic, ← htoken]
    refine ⟨fun hmem => hnewline ?_, Source.clean_sanitize line⟩
    exact Source.ofAscii_mem_of_mem_sanitize (a := '\n') (by decide) hmem
  refine ⟨⟨?_, ?_⟩, ⟨?_, ?_⟩⟩
  · rintro ⟨program, hok, -, hhead⟩
    obtain ⟨hnewline, hclean⟩ := spelled hok (List.mem_of_head? hhead) rfl rfl
    refine ⟨⟨hnewline, fun hlast => ?_⟩, hclean.imp fun _ h => h.1⟩
    rw [ofText_sample hnewline] at hok
    obtain ⟨k, line, hline, htoken, hnumber⟩ :=
      exists_line_of_opcode hok (List.mem_of_head? hhead) rfl
    -- The record is on the first line, which is the mnemonic without its carriage return.
    obtain rfl : k = 0 := by
      simp only at hnumber
      omega
    cases hline
    exact sanitize_dropReturn_ne hclean hlast htoken
  · rintro ⟨hline, cs, hutf8⟩
    rw [ofText_sample hline.1, hline.dropReturn_eq]
    exact assemble_sample hwf hfind (clean_mnemonic hwf hi hutf8)
  · rintro ⟨text, program, hok, record, hmem, hrole, hmnemonic⟩
    obtain ⟨hnewline, hclean⟩ := spelled hok hmem hrole hmnemonic
    exact ⟨hnewline, hclean.imp fun _ h => h.1⟩
  · rintro ⟨hnewline, cs, hutf8⟩
    -- A carriage return to spare keeps one at the end of the mnemonic.
    have hspare : Bytes.newline ∉ i.mnemonic ++ [Bytes.carriageReturn] := by
      simpa using ⟨hnewline, by decide⟩
    have hdrop : dropReturn (i.mnemonic ++ [Bytes.carriageReturn]) = i.mnemonic := by
      simp [dropReturn]
    obtain ⟨program, hok, -, hhead⟩ := assemble_sample hwf hfind (clean_mnemonic hwf hi hutf8)
    refine ⟨Bytes.unlines ((i.mnemonic ++ [Bytes.carriageReturn]) ::
      List.replicate i.arity (ofString "1")), program, ?_, _, List.mem_of_head? hhead, rfl, rfl⟩
    rw [ofText_sample hspare, hdrop]
    exact hok

/-- A mnemonic with a carriage return at its end: its plain text is not assembled to it, but there
is a text that is. -/
theorem spelled_iff_carriageReturn :
    let mnemonic := ofString "A\r"
    let i : Instruction := ⟨mnemonic, ofString "1010", 1⟩
    let table : Table := ⟨[], 4, [⟨mnemonic, ofString "1010", 1⟩]⟩
    let catalog : Catalog := ⟨[], 4, [i]⟩
    table.build = .ok catalog ∧ catalog.find? mnemonic = some i ∧
      (¬ ∃ program, (assemble catalog (LineSource.ofText (ofString "A\r\n1\n"))).result =
          .ok program ∧ program.size = 2 ∧
        program.records.head? = some ⟨ofString "1010", 1, mnemonic, .opcode⟩) ∧
      ∃ text program, (assemble catalog (LineSource.ofText text)).result = .ok program ∧
        ∃ record ∈ program.records, record.role = .opcode ∧ record.mnemonic = mnemonic := by
  intro mnemonic i table catalog
  have hbuild : table.build = .ok catalog := rfl
  have hfind : catalog.find? mnemonic = some i := rfl
  obtain ⟨hplain, hany⟩ := spelled_iff hbuild hfind
  refine ⟨hbuild, hfind, ?_, hany.2 ⟨by decide, ['A', '\r'], rfl⟩⟩
  intro hprogram
  exact absurd (hplain.1 hprogram).1 (by decide)

/-- **A table is accepted although no text spells its mnemonic**: a line feed in the mnemonic passes
the checks, and the scanner ends the line there. -/
theorem mnemonic_of_two_lines_is_unknown :
    let mnemonic := ofString "A\nB"
    let i : Instruction := ⟨mnemonic, ofString "00000001", 0⟩
    let table : Table := ⟨[], 8, [⟨mnemonic, ofString "00000001", 0⟩]⟩
    let catalog : Catalog := ⟨[], 8, [i]⟩
    table.build = .ok catalog ∧ catalog.find? mnemonic = some i ∧
      (assemble catalog (LineSource.ofText (Bytes.unlines i.sample))).result =
        .error (.unknownCommand 1 (ofString "A")) := by
  intro mnemonic i table catalog
  refine ⟨rfl, rfl, ?_⟩
  have hlines : LineSource.ofText (Bytes.unlines i.sample) =
      ⟨[ofString "A", ofString "B"], .endOfInput⟩ :=
    LineSource.ofText_unlines (show ∀ line ∈ [ofString "A", ofString "B"], IsLine line by decide)
  rw [hlines]
  rfl

end OnePass
