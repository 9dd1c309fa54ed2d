import OnePass.Proofs.Delivery
import OnePass.Proofs.Image

/-
**The format of an image file.**

An image goes through a sink to its receiver.  What arrives there are its lines and nothing else:
the words of the program, then words of zeros up to the size of the memory, all of the width of a
memory word and every one with a line feed behind it.  That all have one width is not the work of
the emitter, which writes words as it finds them: the table has opcodes of this width only, and the
machine pads the operands to it.

Main results:

* `OnePass.Emitter.emit_sink` — **what arrives behind a sink is the image**, if there is room for
  it;
* `OnePass.ofWidth_of_mem_image` — every line of an image is a memory word;
* `OnePass.emit_format` — **the format of an image file**, from the table to the bytes.
-/

set_option relaxedAutoImplicit false
set_option autoImplicit false

namespace OnePass

/-- **What arrives behind a sink is the image**, if there is room for it. -/
theorem Emitter.emit_sink (e : Emitter) (program : Program) (limit : Option Nat) (fault : Fault)
    (hfits : Fits limit (Bytes.unlines (e.image program)).length) :
    ∃ writer sink : LineSink,
      e.emit ({ receiver := { limit := limit, fault := fault } } : LineSink) program =
        ⟨none, ⟨program.size, e.paddingFor program⟩, writer⟩ ∧
      writer.flush = (none, sink) ∧
      sink.receiver.delivered.toList = Bytes.unlines (e.image program) := by
  rcases (LineSink.filling_new limit fault).writeLines (e.image program) with
    ⟨writer, hwrite, hfilling⟩ | ⟨writer, l, -, hlimit, hspilled⟩
  · obtain ⟨sink, hflush, -, -, hdelivered⟩ := hfilling.flush_of_fits hfits
    exact ⟨writer, sink, emit_of_writeLines hwrite, hflush, hdelivered⟩
  · exact absurd hfits (not_fits_iff.2 ⟨l, hlimit, hspilled.lt_length⟩)

/-- A layout with words of any positive size and a memory of any size can be chosen. -/
theorem Emitter.withWordSize_bind_withMemoryWords {wordSize : Nat} (hpos : 0 < wordSize)
    (memoryWords : Nat) :
    (({} : Emitter).withWordSize wordSize).bind (·.withMemoryWords memoryWords) =
      .ok ⟨wordSize, memoryWords⟩ := by
  have hsize : ({} : Emitter).withWordSize wordSize = .ok { wordSize := wordSize } :=
    if_neg (by omega)
  have hmemory : ({ wordSize := wordSize } : Emitter).withMemoryWords memoryWords =
      .ok ⟨wordSize, memoryWords⟩ := if_neg (by omega)
  rw [hsize]
  exact hmemory

/-! ### Lines of an image -/

/-- A memory word is a line. -/
theorem Word.OfWidth.isLine {width : Nat} {word : Bytes} (h : OfWidth width word) :
    IsLine word := by
  obtain ⟨-, hdigits⟩ := h
  refine ⟨?_, ?_⟩
  · intro hmem
    exact absurd (hdigits _ hmem) (by decide)
  · intro hlast
    exact absurd (hdigits _ (List.mem_of_getLast? hlast)) (by decide)

theorem Word.ofWidth_zero (width : Nat) : OfWidth width (zero width) := by
  refine ⟨List.length_replicate, ?_⟩
  intro b hb
  rw [List.eq_of_mem_replicate hb]
  exact isDigit_zero

/-- An image has as many lines as the memory has words, or as the program has if these are more. -/
theorem Emitter.length_image (e : Emitter) (program : Program) :
    (e.image program).length = max program.size e.memoryWords := by
  rw [image, List.length_append, Program.length_words, List.length_replicate, paddingFor]
  omega

section

variable {table : Table} {catalog : Catalog} {source : LineSource} {program : Program}

/-- **Every word of an assembled program is a memory word.** -/
theorem ofWidth_of_mem_words (hbuild : table.build = .ok catalog)
    (hprogram : (assemble catalog source).result = .ok program) :
    ∀ word ∈ program.words, Word.OfWidth catalog.wordSize word := by
  intro word hword
  obtain ⟨blocks, hsplit, hrecords⟩ := exists_blocks_of_assemble hprogram
  obtain ⟨record, hrecord, rfl⟩ := List.mem_map.1 hword
  rw [hrecords] at hrecord
  obtain ⟨block, hblock, hrecord⟩ := List.mem_flatMap.1 hrecord
  exact (hsplit.complete block hblock).toMatches.ofWidth_word (Table.wellFormed_of_build hbuild)
    hrecord

/-- **Every line of an image is a memory word.** -/
theorem ofWidth_of_mem_image (hbuild : table.build = .ok catalog)
    (hprogram : (assemble catalog source).result = .ok program) (memoryWords : Nat) :
    ∀ line ∈ Emitter.image ⟨catalog.wordSize, memoryWords⟩ program,
      Word.OfWidth catalog.wordSize line := by
  intro line hline
  rcases List.mem_append.1 hline with hline | hline
  · exact ofWidth_of_mem_words hbuild hprogram line hline
  · rw [List.eq_of_mem_replicate hline]
    exact Word.ofWidth_zero catalog.wordSize

/-! ### The format -/

/-- **The format of an image file.**  A program that was assembled under the catalog of a table is
written through a sink without a limit to a memory of any size.  Nothing fails, and what is
delivered has one line for every word, as many as the program or the memory has, whichever are more;
every line is a memory word with a line feed behind it.  Read back, these are the words of the
program and then words of zeros, and the summary tells how many there are of each. -/
theorem emit_format (hbuild : table.build = .ok catalog)
    (hprogram : (assemble catalog source).result = .ok program) (memoryWords : Nat) :
    ∃ (emitter : Emitter) (sink : LineSink),
      (({} : Emitter).withWordSize catalog.wordSize).bind (·.withMemoryWords memoryWords) =
        .ok emitter ∧
      let emission := emitter.emit ({} : LineSink) program
      let zeros := List.replicate catalog.wordSize (Bytes.ofAscii '0')
      let lines := program.words ++ List.replicate (memoryWords - program.size) zeros
      let delivered := sink.receiver.delivered.toList
      emission.fault = none ∧ emission.writer.flush = (none, sink) ∧
      delivered = lines.flatMap (· ++ [Bytes.newline]) ∧
      lines.length = max program.size memoryWords ∧
      (∀ line ∈ lines, line.length = catalog.wordSize ∧
        ∀ b ∈ line, b = Bytes.ofAscii '0' ∨ b = Bytes.ofAscii '1') ∧
      delivered.length = max program.size memoryWords * (catalog.wordSize + 1) ∧
      LineSource.ofText delivered = ⟨lines, .endOfInput⟩ ∧
      emission.summary.words = program.size ∧
      emission.summary.padding = (memoryWords - program.size : Nat) ∧
      emission.summary.total = max program.size memoryWords := by
  have hpos := (Table.wellFormed_of_build hbuild).wordSize_pos
  let emitter : Emitter := ⟨catalog.wordSize, memoryWords⟩
  obtain ⟨writer, sink, hemit, hflush, hdelivered⟩ :=
    emitter.emit_sink program none (.plain []) (fits_none _)
  refine ⟨emitter, sink, Emitter.withWordSize_bind_withMemoryWords hpos memoryWords, ?_⟩
  intro emission zeros lines delivered
  have hemission : emission = ⟨none, ⟨program.size, emitter.paddingFor program⟩, writer⟩ := hemit
  have hunlines : delivered = Bytes.unlines lines := hdelivered
  have hlength : lines.length = max program.size memoryWords := emitter.length_image program
  have hwords : ∀ line ∈ lines, Word.OfWidth catalog.wordSize line :=
    ofWidth_of_mem_image hbuild hprogram memoryWords
  rw [hemission]
  refine ⟨rfl, hflush, hunlines, hlength, hwords, ?_, ?_, rfl, rfl, ?_⟩
  · rw [hunlines, Bytes.length_unlines fun line hline => (hwords line hline).1, hlength]
  · rw [hunlines, LineSource.ofText_unlines fun line hline => (hwords line hline).isLine]
  · have htotal : program.size + (memoryWords - program.size) = max program.size memoryWords := by
      omega
    exact congrArg Int.ofNat htotal

/-- A program of three words in a memory of a thousand: the buffer of the sink is full in the middle
of a word more than once. -/
theorem emit_format_builtIn :
    let source : LineSource :=
      ⟨[Bytes.ofString "ADD", Bytes.ofString "1", Bytes.ofString "10"], .endOfInput⟩
    let program := (assemble Catalog.builtIn source).program
    Catalog.builtIn.toTable.build = .ok Catalog.builtIn ∧
    (assemble Catalog.builtIn source).result = .ok program ∧
    ∃ (emitter : Emitter) (sink : LineSink),
      (({} : Emitter).withWordSize 8).bind (·.withMemoryWords 1000) = .ok emitter ∧
      let emission := emitter.emit ({} : LineSink) program
      let delivered := sink.receiver.delivered.toList
      emission.fault = none ∧ emission.writer.flush = (none, sink) ∧
      delivered.length = 9000 ∧
      LineSource.ofText delivered =
        ⟨program.words ++ List.replicate 997 (Bytes.ofString "00000000"), .endOfInput⟩ ∧
      emission.summary.words = 3 ∧ emission.summary.padding = 997 ∧
      emission.summary.total = 1000 := by
  intro source program
  have hprogram : (assemble Catalog.builtIn source).result = .ok program := rfl
  have hsize : program.size = 3 := rfl
  obtain ⟨emitter, sink, hemitter, hfault, hflush, -, -, -, hlength, hread, hwords, hpadding,
    htotal⟩ := emit_format Table.build_builtIn hprogram 1000
  rw [hsize] at hlength hread hwords hpadding htotal
  exact ⟨Table.build_builtIn, hprogram, emitter, sink, hemitter, hfault, hflush, hlength, hread,
    hwords, hpadding, htotal⟩

end

end OnePass
