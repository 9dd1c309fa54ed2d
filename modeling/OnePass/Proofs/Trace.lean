import Mathlib.Data.List.Basic
import OnePass.Proofs.Hooks
import OnePass.Proofs.Quoted
import OnePass.Tracer

/-
**What a tracer writes.**

A tracer logs every word as it is emitted and the end of an assembly that goes well.  Everything it
logs has one line, and the lines can be trusted: the mnemonic of an instruction is whatever a user
has put in a table, line feeds, quotes and equals signs included, but it is quoted wherever it could
be mistaken for something else.  So the log has one line for every record, in the order of emission,
wherever the assembly stops, and nothing but the same records could have given the same log.

Main definitions:

* `OnePass.Record.traceLine`, `OnePass.Program.traceLine` — **the line of a record**, and that of a
  finished program.

Main results:

* `OnePass.Log.le_toNat_of_mem_field` — no value brings a control character into a log;
* `OnePass.Log.field_append_inj` — **a text on a log line is told apart from all others**;
* `OnePass.Record.traceLine_inj` — the line of a record tells which record it is;
* `OnePass.assembleTraced_eq` — what is logged are the events of the assembly;
* `OnePass.trace_is_faithful` — **the log has one line for every event and cannot be forged**.
-/

set_option relaxedAutoImplicit false
set_option autoImplicit false

namespace OnePass

open Bytes (ofString ofAscii ofNat ofInt)

/-! ### Texts on a log line -/

namespace Log

/-- The space between the values of a log line forces a text to be quoted, and so does a quote. -/
theorem forcesQuotes_of_mem {s : Bytes} {a : Char} (ha : a = ' ' ∨ a = '"')
    (h : ofAscii a ∈ s) : (Utf8.pieces s).any forcesQuotes = true := by
  have hascii : a.toNat < 128 := by rcases ha with rfl | rfl <;> decide
  have hforces : forcesQuotes (.good a) = true := by rcases ha with rfl | rfl <;> rfl
  exact List.any_eq_true.2 ⟨.good a, Utf8.good_mem_pieces hascii h, hforces⟩

/-- A text that is not quoted holds no space and no quote. -/
theorem not_mem_of_bare {s : Bytes} (h : ¬ (s = [] ∨ (Utf8.pieces s).any forcesQuotes)) {a : Char}
    (ha : a = ' ' ∨ a = '"') : ofAscii a ∉ s := by
  intro hmem
  exact h (Or.inr (forcesQuotes_of_mem ha hmem))

/-- **No text brings a control character into a log.** -/
theorem le_toNat_of_mem_field {s : Bytes} {b : UInt8} (h : b ∈ field s) : 0x20 ≤ b.toNat := by
  unfold field at h
  split at h
  · exact Text.le_toNat_of_mem_quote h
  · next hbare =>
    -- A control character would have forced the text to be quoted.
    refine Nat.le_of_not_lt fun hlt => hbare (Or.inr (List.any_eq_true.2 ?_))
    have hchar : (Char.ofNat b.toNat).toNat = b.toNat :=
      Utf8.toNat_ofNat (Or.inl (Nat.lt_trans hlt (by decide)))
    have hbyte : ofAscii (Char.ofNat b.toNat) = b := by
      rw [ofAscii, hchar]
      exact UInt8.ofNat_toNat
    refine ⟨.good (Char.ofNat b.toNat), Utf8.good_mem_pieces ?_ (hbyte.symm ▸ h), ?_⟩
    · rw [hchar]
      omega
    · have hascii : b.toNat < 0x80 := by omega
      simp [forcesQuotes, hchar, hlt, hascii]

/-- No value brings a line feed into a log. -/
theorem newline_not_mem_field (value : Value) : Bytes.newline ∉ value.field := by
  intro hmem
  cases value with
  | text s => exact absurd (le_toNat_of_mem_field hmem) (by decide)
  | number n => exact (Bytes.plain_ofInt n).not_mem (by decide) hmem

/-- **A text on a log line is told apart from all others**, and from the values behind it. -/
theorem field_append_inj {s t x y : Bytes}
    (h : field s ++ ofAscii ' ' :: x = field t ++ ofAscii ' ' :: y) : s = t ∧ x = y := by
  -- A text that is not quoted does not begin with a quote.
  have hmixed : ∀ {s t x y : Bytes}, ¬ (s = [] ∨ (Utf8.pieces s).any forcesQuotes) →
      Text.quote t ++ x ≠ s ++ y := by
    rintro (_ | ⟨b, s⟩) t x y hbare heq
    · exact hbare (Or.inl rfl)
    · have hb : ofAscii '"' = b := (List.cons.inj heq).1
      exact not_mem_of_bare hbare (Or.inr rfl) (hb ▸ List.mem_cons_self ..)
  unfold field at h
  split at h <;> split at h
  · obtain ⟨hst, hxy⟩ := Text.quote_append_inj h
    exact ⟨hst, (List.cons.inj hxy).2⟩
  · next hbare => exact absurd h (hmixed hbare)
  · next hbare _ => exact absurd h.symm (hmixed hbare)
  · next hs ht =>
    -- Both texts reach up to the first space.
    have hspace : ofAscii ' ' ∉ s := not_mem_of_bare hs (Or.inl rfl)
    have hspace' : ofAscii ' ' ∉ t := not_mem_of_bare ht (Or.inl rfl)
    exact Bytes.append_cons_inj hspace hspace' h

/-- A printable ASCII character that does not force a text to be quoted. -/
def isBare (b : UInt8) : Bool :=
  0x20 < b.toNat && b.toNat < 0x7F && b != ofAscii '=' && b != ofAscii '"'

/-- A text of such characters stands on a log line as it is. -/
theorem field_eq_self {s : Bytes} (hne : s ≠ []) (h : s.all isBare = true) : field s = s := by
  have hbare : ∀ b ∈ s, (0x20 < b.toNat ∧ b.toNat < 0x7F) ∧ b ≠ ofAscii '=' ∧ b ≠ ofAscii '"' := by
    intro b hb
    simpa [isBare, and_assoc] using List.all_eq_true.1 h b hb
  have hplain : Bytes.Plain s := fun b hb => ⟨Nat.le_of_lt (hbare b hb).1.1, (hbare b hb).1.2⟩
  refine if_neg (not_or.2 ⟨hne, ?_⟩)
  rw [hplain.pieces_eq, List.any_map, List.any_eq_true]
  rintro ⟨b, hb, hforces⟩
  obtain ⟨hrange, hequals, hquote⟩ := hbare b hb
  have hchar := (hplain b hb).toNat_char
  -- The character of a byte is a given one only if the byte is.
  have hother : ∀ a : Char, b ≠ ofAscii a → Char.ofNat b.toNat ≠ a := by
    rintro a hba rfl
    refine hba ?_
    rw [ofAscii, hchar]
    exact UInt8.ofNat_toNat.symm
  have hspace : b ≠ ofAscii ' ' := by
    rintro rfl
    exact absurd hrange.1 (by decide)
  have hascii : b.toNat < 0x80 := by omega
  have hcontrol : ¬ b.toNat < 0x20 := by omega
  simp [forcesQuotes, hchar, hascii, hcontrol, hother ' ' hspace, hother '=' hequals,
    hother '"' hquote] at hforces

/-- What a log writes whose entries all have one level: all of them, or none. -/
theorem write_of_level {level minimum : Level} {entries : List Entry}
    (h : ∀ entry ∈ entries, entry.level = level) :
    write minimum entries = if minimum ≤ level then entries.flatMap Entry.line else [] := by
  unfold write
  split
  · next hle =>
    rw [List.filter_eq_self.2]
    intro entry hentry
    simpa [h entry hentry] using hle
  · next hlt =>
    rw [List.filter_eq_nil_iff.2, List.flatMap_nil]
    intro entry hentry
    simpa [h entry hentry] using hlt

end Log

/-! ### The lines of a tracer -/

/-- **The line of a record.** -/
def Record.traceLine (record : Record) : Bytes :=
  ofString "level=DEBUG-4 msg=WordEmitted line=" ++ ofInt record.line ++
    ofString " mnemonic=" ++ Log.field record.mnemonic ++ ofString " role=" ++ record.role.name ++
    ofString " word=" ++ record.word

/-- The line of a finished program. -/
def Program.traceLine (program : Program) : Bytes :=
  ofString "level=DEBUG-4 msg=AssembleDone words=" ++ ofNat program.size

/-- **The line of a record tells which record it is.** -/
theorem Record.traceLine_inj {record record' : Record} (h : record.traceLine = record'.traceLine) :
    record = record' := by
  obtain ⟨word, line, mnemonic, role⟩ := record
  obtain ⟨word', line', mnemonic', role'⟩ := record'
  simp only [traceLine, List.append_assoc] at h
  -- The values are read one after another; every one but the last has a space behind it.
  obtain ⟨hline, h⟩ := Bytes.append_cons_inj (Bytes.blank_not_mem_ofInt line)
    (Bytes.blank_not_mem_ofInt line') (List.append_cancel_left h)
  obtain ⟨hmnemonic, h⟩ := Log.field_append_inj
    (@List.append_cancel_left _ (ofString "mnemonic=") _ _ h)
  obtain ⟨hname, h⟩ := Bytes.append_cons_inj role.blank_not_mem_name role'.blank_not_mem_name
    (@List.append_cancel_left _ (ofString "role=") _ _ h)
  have hword : word = word' := @List.append_cancel_left _ (ofString "word=") _ _ h
  rw [hword, Bytes.ofInt_inj hline, hmnemonic, Role.name_inj hname]

theorem Record.traceLine_ne (record : Record) (program : Program) :
    record.traceLine ≠ program.traceLine := by
  intro h
  -- The first letter of the message is different.
  have hletter : some (ofAscii 'W') = some (ofAscii 'A') := congrArg (fun text => text[18]?) h
  exact absurd hletter (by decide)

theorem line_entry_wordEmitted {record : Record} (hword : Log.field record.word = record.word) :
    (Event.wordEmitted record).entry.line = record.traceLine ++ [Bytes.newline] := by
  have hrole : Log.field record.role.name = record.role.name := by
    cases record.role with
    | opcode => exact Log.field_eq_self (by decide) (by decide)
    | operand => exact Log.field_eq_self (by decide) (by decide)
  have hmessage : Log.field (ofString "WordEmitted") = ofString "WordEmitted" :=
    Log.field_eq_self (by decide) (by decide)
  have hlevel : ofString "level=" ++ Log.levelName Log.trace = ofString "level=DEBUG-4" := by
    decide
  simp only [Log.Entry.line, Event.entry, Record.traceLine, hlevel, hmessage, List.map_cons,
    List.map_nil, Log.Value.field, hrole, hword, List.cons_append, List.nil_append,
    Bytes.join_cons_cons, Bytes.join_singleton, List.append_assoc]
  rfl

theorem line_entry_done (program : Program) :
    (Event.done program).entry.line = program.traceLine ++ [Bytes.newline] := by
  have hmessage : Log.field (ofString "AssembleDone") = ofString "AssembleDone" :=
    Log.field_eq_self (by decide) (by decide)
  have hlevel : ofString "level=" ++ Log.levelName Log.trace = ofString "level=DEBUG-4" := by
    decide
  simp only [Log.Entry.line, Event.entry, Program.traceLine, hlevel, hmessage, List.map_cons,
    List.map_nil, Log.Value.field, Bytes.ofInt_natCast, List.cons_append, List.nil_append,
    Bytes.join_cons_cons, Bytes.join_singleton, List.append_assoc]
  rfl

/-- A line of a record is one line, if its word is plain. -/
theorem Record.newline_not_mem_traceLine {record : Record} (hword : Bytes.Plain record.word) :
    Bytes.newline ∉ record.traceLine := by
  have hmnemonic : Bytes.newline ∉ Log.field record.mnemonic :=
    Log.newline_not_mem_field (.text record.mnemonic)
  have hliteral : ∀ s ∈ ["level=DEBUG-4 msg=WordEmitted line=", " mnemonic=", " role=", " word="],
      Bytes.newline ∉ ofString s := by decide
  simp only [traceLine, List.mem_append, not_or]
  refine ⟨⟨⟨⟨⟨⟨⟨hliteral _ (by simp), ?_⟩, hliteral _ (by simp)⟩, hmnemonic⟩, hliteral _ (by simp)⟩,
    record.role.plain_name.not_mem (by decide)⟩, hliteral _ (by simp)⟩, hword.not_mem (by decide)⟩
  exact (Bytes.plain_ofInt _).not_mem (by decide)

theorem Program.newline_not_mem_traceLine (program : Program) :
    Bytes.newline ∉ program.traceLine := by
  intro hmem
  rcases List.mem_append.1 hmem with hmem | hmem
  · exact absurd hmem (by decide)
  · exact (Bytes.plain_ofNat _).not_mem (by decide) hmem

/-! ### The log of an assembly -/

/-- **What is logged are the events of the assembly.** -/
theorem assembleTraced_eq (catalog : Catalog) (source : LineSource) :
    assembleTraced catalog true source =
      (assemble catalog source, (assemble catalog source).events.map Event.entry) := by
  let assembler : Assembler Tracer :=
    { name := tracedName, catalog := catalog, hooks := [.tracer] }
  have hrun := assembler.run_eq source
  have hassembly : (assembler.run source).1 = assemble catalog source := congrArg Prod.fst hrun
  have hcalls : (assembler.run source).2.map (·.event.entry) =
      (assemble catalog source).events.map Event.entry := by
    -- There is one hook, so every event is told once.
    rw [hrun, List.map_flatMap]
    exact List.map_eq_flatMap.symm
  exact Prod.ext hassembly hcalls

/-- All words that an assembly has emitted are memory words, also if it fails. -/
theorem ofWidth_of_mem_records {table : Table} {catalog : Catalog}
    (hbuild : table.build = .ok catalog) (source : LineSource) :
    ∀ record ∈ (assemble catalog source).program.records,
      Word.OfWidth catalog.wordSize record.word := by
  have hwf := Table.wellFormed_of_build hbuild
  -- The program is that of a machine behind the tokens that are accepted.
  have hmachine : ∃ (tokens : List Source.Token) (m : Machine),
      ({ catalog := catalog } : Machine).feedAll tokens = .ok m ∧
        (assemble catalog source).program = m.program := by
    rw [assemble_eq_assembleFrom]
    cases hfeed : ({ catalog := catalog } : Machine).feedAll (Source.tokensFrom 1 source.lines) with
    | error fault =>
        obtain ⟨k, line, m, hline, hbefore, hne, hrefused⟩ := exists_refused_line hfeed
        exact ⟨_, m, hbefore, by rw [assembleFrom_of_refused hline hbefore hne hrefused]⟩
    | ok m => exact ⟨_, m, hfeed, by rw [assembleFrom_of_accepted hfeed]⟩
  obtain ⟨tokens, m, hfeed, hprogram⟩ := hmachine
  obtain ⟨parse, hreads, -⟩ := (Machine.reads_empty catalog).feedAll hfeed
  intro record hrecord
  rw [hprogram] at hrecord
  exact hreads.ofWidth_word hwf hrecord

namespace Assembly

/-- The line behind the last record, if all goes well. -/
def endLines (assembly : Assembly) : List Bytes :=
  if assembly.fault.isNone then [assembly.program.traceLine] else []

/-- **The lines of a trace**: one for every record, and one for the program if all goes well. -/
def traceLines (assembly : Assembly) : List Bytes :=
  assembly.program.records.map Record.traceLine ++ assembly.endLines

variable {assembly assembly' : Assembly}

theorem eq_of_mem_endLines {line : Bytes} (h : line ∈ assembly.endLines) :
    line = assembly.program.traceLine := by
  unfold endLines at h
  split at h
  · exact List.mem_singleton.1 h
  · cases h

theorem length_traceLines (assembly : Assembly) :
    assembly.traceLines.length =
      assembly.program.size + if assembly.fault.isNone then 1 else 0 := by
  rw [traceLines, List.length_append, List.length_map, Program.length_records, endLines]
  split <;> rfl

/-- The lines that the events of an assembly are written on. -/
theorem flatMap_line_events
    (hwords : ∀ record ∈ assembly.program.records, Log.field record.word = record.word) :
    (assembly.events.map Event.entry).flatMap Log.Entry.line =
      Bytes.unlines assembly.traceLines := by
  have hrecords : (assembly.program.records.map Event.wordEmitted).flatMap (·.entry.line) =
      Bytes.unlines (assembly.program.records.map Record.traceLine) := by
    rw [Bytes.unlines, List.flatMap_map, List.flatMap_map, List.flatMap_def, List.flatMap_def]
    refine congrArg List.flatten (List.map_congr_left ?_)
    intro record hrecord
    exact line_entry_wordEmitted (hwords record hrecord)
  have hfinale : assembly.finale.flatMap (·.entry.line) = Bytes.unlines assembly.endLines := by
    unfold finale endLines
    split
    · rw [List.flatMap_singleton, line_entry_done, Bytes.unlines, List.flatMap_singleton]
    · rfl
  rw [List.flatMap_map, events, traceLines, List.flatMap_append, hrecords, hfinale]
  exact List.flatMap_append.symm

theorem newline_not_mem_of_mem_traceLines
    (hwords : ∀ record ∈ assembly.program.records, Bytes.Plain record.word) :
    ∀ line ∈ assembly.traceLines, Bytes.newline ∉ line := by
  intro line hline
  rcases List.mem_append.1 hline with hline | hline
  · obtain ⟨record, hrecord, rfl⟩ := List.mem_map.1 hline
    exact Record.newline_not_mem_traceLine (hwords record hrecord)
  · rw [eq_of_mem_endLines hline]
    exact Program.newline_not_mem_traceLine _

/-- Records in front of other lines are read from their lines. -/
theorem records_eq_of_append_eq {records records' : List Record} {ends ends' : List Bytes}
    (hends : ∀ record : Record, record.traceLine ∉ ends)
    (hends' : ∀ record : Record, record.traceLine ∉ ends')
    (h : records.map Record.traceLine ++ ends = records'.map Record.traceLine ++ ends') :
    records = records' ∧ ends = ends' := by
  induction records generalizing records' with
  | nil =>
      cases records' with
      | nil => exact ⟨rfl, h⟩
      | cons record' records' =>
          rw [List.map_nil, List.nil_append] at h
          exact absurd (h ▸ List.mem_cons_self ..) (hends record')
  | cons record records ih =>
      cases records' with
      | nil =>
          rw [List.map_nil, List.nil_append] at h
          exact absurd (h ▸ List.mem_cons_self ..) (hends' record)
      | cons record' records' =>
          obtain ⟨hline, hrest⟩ := List.cons.inj h
          obtain ⟨rfl, hsame⟩ := ih hrest
          exact ⟨by rw [Record.traceLine_inj hline], hsame⟩

/-- **The lines of a trace tell which words were emitted**, and whether all went well. -/
theorem eq_of_traceLines_eq (h : assembly.traceLines = assembly'.traceLines) :
    assembly.program = assembly'.program ∧ assembly.fault.isNone = assembly'.fault.isNone := by
  have hends : ∀ (assembly : Assembly) (record : Record), record.traceLine ∉ assembly.endLines := by
    intro assembly record hmem
    exact record.traceLine_ne assembly.program (eq_of_mem_endLines hmem)
  obtain ⟨hrecords, hsame⟩ := records_eq_of_append_eq (hends assembly) (hends assembly') h
  refine ⟨?_, ?_⟩
  · cases hprogram : assembly.program
    cases hprogram' : assembly'.program
    rw [hprogram, hprogram'] at hrecords
    exact congrArg Program.mk (List.reverse_injective hrecords)
  · have hlength := congrArg List.length hsame
    unfold endLines at hlength
    cases hok : assembly.fault.isNone with
    | true =>
        cases hok' : assembly'.fault.isNone with
        | true => rfl
        | false => simp [hok, hok'] at hlength
    | false =>
        cases hok' : assembly'.fault.isNone with
        | true => simp [hok, hok'] at hlength
        | false => rfl

end Assembly

section

variable {table : Table} {catalog : Catalog}

/-- A memory word stands on a log line as it is. -/
theorem Word.OfWidth.field_eq_self {width : Nat} {word : Bytes} (hpos : 0 < width)
    (h : OfWidth width word) : Log.field word = word := by
  obtain ⟨hlength, hdigits⟩ := h
  refine Log.field_eq_self (List.ne_nil_of_length_pos (by omega)) (List.all_eq_true.2 ?_)
  intro b hb
  rcases hdigits b hb with rfl | rfl <;> decide

/-- What is logged of an assembly: its lines, or nothing if they are below the minimum. -/
theorem write_assembleTraced (hbuild : table.build = .ok catalog) (source : LineSource)
    (minimum : Log.Level) :
    Log.write minimum (assembleTraced catalog true source).2 =
      if minimum ≤ -8 then Bytes.unlines (assemble catalog source).traceLines else [] := by
  have hpos := (Table.wellFormed_of_build hbuild).wordSize_pos
  have hwords := ofWidth_of_mem_records hbuild source
  have hlevel : ∀ entry ∈ (assemble catalog source).events.map Event.entry,
      entry.level = -8 := by
    intro entry hentry
    obtain ⟨event, -, rfl⟩ := List.mem_map.1 hentry
    cases event <;> rfl
  rw [assembleTraced_eq, Log.write_of_level hlevel, Assembly.flatMap_line_events]
  intro record hrecord
  exact (hwords record hrecord).field_eq_self hpos

/-- **The log has one line for every event and cannot be forged.**  A tracer whose log shows only
what is above the level of tracing writes nothing.  Otherwise there is one line for every record, in
the order of emission, and one for the finished program behind them if and only if all goes well; no
value brings a line feed into the log, so there are no other lines.  The line of a record tells its
line number, mnemonic, role and word, and another assembly has the same log only if it has emitted
the same records and ended equally well, whatever its table and its source are. -/
theorem trace_is_faithful (hbuild : table.build = .ok catalog) (source : LineSource)
    (minimum : Log.Level) :
    let assembly := (assembleTraced catalog true source).1
    let entries := (assembleTraced catalog true source).2
    let log := Log.write minimum entries
    let lines := assembly.program.records.map Record.traceLine ++
      if assembly.fault.isNone then [assembly.program.traceLine] else []
    assembly = assemble catalog source ∧
    (∀ entry ∈ entries, ∀ named ∈ entry.values, Bytes.newline ∉ named.2.field) ∧
    (-8 < minimum → log = []) ∧
    (minimum ≤ -8 →
      log = Bytes.unlines lines ∧ Bytes.lines log = lines ++ [[]] ∧
      log.count Bytes.newline =
        assembly.program.size + (if assembly.fault.isNone then 1 else 0) ∧
      ∀ (table' : Table) (catalog' : Catalog) (source' : LineSource) (minimum' : Log.Level),
        table'.build = .ok catalog' → minimum' ≤ -8 →
        Log.write minimum' (assembleTraced catalog' true source').2 = log →
        (assemble catalog' source').program = assembly.program ∧
          (assemble catalog' source').fault.isNone = assembly.fault.isNone) := by
  intro assembly entries log lines
  have hassembly : assembly = assemble catalog source := by
    change (assembleTraced catalog true source).1 = _
    rw [assembleTraced_eq]
  have hlines : lines = (assemble catalog source).traceLines := by
    rw [← hassembly]
    rfl
  -- The lines of any trace can be read back from the log.
  have hread : ∀ {table : Table} {catalog : Catalog} (source : LineSource),
      table.build = .ok catalog → ∀ line ∈ (assemble catalog source).traceLines,
        Bytes.newline ∉ line := by
    intro table catalog source hbuild
    refine Assembly.newline_not_mem_of_mem_traceLines fun record hrecord => ?_
    exact (ofWidth_of_mem_records hbuild source record hrecord).plain
  have hwrite := write_assembleTraced hbuild source minimum
  refine ⟨hassembly, ?_, ?_, ?_⟩
  · intro entry _ named _
    exact Log.newline_not_mem_field named.2
  · intro hquiet
    rw [if_neg (Int.not_le.2 hquiet)] at hwrite
    exact hwrite
  · intro hloud
    rw [if_pos hloud, ← hlines] at hwrite
    have hlog : log = Bytes.unlines lines := hwrite
    have hnewline : ∀ line ∈ lines, Bytes.newline ∉ line := hlines ▸ hread source hbuild
    refine ⟨hlog, ?_, ?_, ?_⟩
    · rw [hlog, Bytes.lines_unlines hnewline]
    · rw [hlog, Bytes.count_newline_unlines hnewline, hlines, Assembly.length_traceLines, hassembly]
    · intro table' catalog' source' minimum' hbuild' hloud' hsame
      rw [write_assembleTraced hbuild', if_pos hloud', hlog] at hsame
      have hcut := congrArg Bytes.lines hsame
      rw [Bytes.lines_unlines (hread source' hbuild'), Bytes.lines_unlines hnewline, hlines] at hcut
      rw [hassembly]
      exact Assembly.eq_of_traceLines_eq (List.append_cancel_right hcut)

/-- A mnemonic that looks like the beginning of another log line: it is quoted, and the trace of an
assembly that fails behind two words has two lines. -/
theorem trace_is_faithful_forging_mnemonic :
    let mnemonic := ofString "X\nlevel=INFO"
    let table : Table := ⟨[], 1, [⟨mnemonic, ofString "1", 1⟩]⟩
    let catalog : Catalog := ⟨[], 1, [⟨mnemonic, ofString "1", 1⟩]⟩
    let source : LineSource := ⟨[mnemonic, [], ofString "0", ofString "2"], .endOfInput⟩
    table.build = .ok catalog ∧
    (assembleTraced catalog true source).1.fault.isNone = false ∧
    Log.write (-7) (assembleTraced catalog true source).2 = [] ∧
    Bytes.lines (Log.write (-8) (assembleTraced catalog true source).2) =
      [ofString
          "level=DEBUG-4 msg=WordEmitted line=1 mnemonic=\"X\\nlevel=INFO\" role=opcode word=1",
        ofString
          "level=DEBUG-4 msg=WordEmitted line=3 mnemonic=\"X\\nlevel=INFO\" role=operand word=0",
        []] := by
  intro mnemonic table catalog source
  have hbuild : table.build = .ok catalog := rfl
  obtain ⟨hassembly, -, -, hloud⟩ := trace_is_faithful hbuild source (-8)
  obtain ⟨-, -, hquiet, -⟩ := trace_is_faithful hbuild source (-7)
  obtain ⟨-, hlines, -⟩ := hloud (by decide)
  refine ⟨hbuild, ?_, hquiet (by decide), ?_⟩
  · rw [hassembly]
    decide +kernel
  · rw [hlines, hassembly]
    decide +kernel

end

end OnePass
