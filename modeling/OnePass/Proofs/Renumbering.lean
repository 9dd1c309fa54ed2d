import OnePass.Proofs.Assembly

/-
**Line numbers are labels.**

A machine writes the number of a line into a record or a fault and never looks at it again.  So a
machine that is given the same tokens under other line numbers does the same, and its records and
faults differ in these numbers only.  Nor does it look at what it has emitted before: between
instructions a machine is as good as new, whatever stands in its program.

Both together say how sources compose.  If a source assembles, then another one behind it becomes
what it becomes alone, with its lines counted from further on.

Main definitions:

* `OnePass.Source.Token.renumber`, `OnePass.Record.renumber`, `OnePass.Fault.renumber` — the same
  with other line numbers;
* `OnePass.Machine.Follows` — **a machine that follows another one**: it does the same behind some
  records and under other line numbers.

Main results:

* `OnePass.Machine.Follows.feed_of_ok`, `OnePass.Machine.Follows.feed_of_error` — one token, fed to
  both machines;
* `OnePass.Machine.Follows.result_assembleFrom` — what becomes of a source whose tokens are those of
  another one under other line numbers;
* `OnePass.assemble_append` — **sources compose**.
-/

set_option relaxedAutoImplicit false
set_option autoImplicit false

namespace OnePass

open Source (Token)

/-! ### Other line numbers -/

/-- The same token on a line with another number. -/
def Source.Token.renumber (f : Int → Int) (token : Token) : Token :=
  { token with line := f token.line }

/-- The same record from a line with another number. -/
def Record.renumber (f : Int → Int) (record : Record) : Record :=
  { record with line := f record.line }

/-- The same fault about a line with another number.  Only faults of an assembly are about lines,
and a failure to read the source is not. -/
def Fault.renumber (f : Int → Int) : Fault → Fault
  | .unknownCommand line token => .unknownCommand (f line) token
  | .unexpectedEnd mnemonic line missing => .unexpectedEnd mnemonic (f line) missing
  | .invalidArgument line mnemonic text width => .invalidArgument (f line) mnemonic text width
  | fault => fault

/-- Lines that are counted from further on have the same tokens. -/
theorem Source.tokensFrom_add (number offset : Nat) (lines : List Bytes) :
    tokensFrom (number + offset) lines =
      (tokensFrom number lines).map (Token.renumber (· + offset)) := by
  induction lines generalizing number with
  | nil => rfl
  | cons line lines ih =>
      have hnext : number + offset + 1 = number + 1 + offset := by omega
      by_cases hblank : sanitize line = []
      · rw [tokensFrom_cons_of_blank hblank, tokensFrom_cons_of_blank hblank, hnext, ih]
      · rw [tokensFrom_cons_of_ne hblank, tokensFrom_cons_of_ne hblank, List.map_cons, hnext, ih]
        simp [Token.renumber]

/-! ### A machine that follows another one -/

namespace Machine

/-- **The machine `m'` follows `m`**: it waits for the same, and behind the records `front` it has
emitted the same under other line numbers. -/
structure Follows (f : Int → Int) (front : List Record) (m m' : Machine) : Prop where
  /-- Both machines work with the same catalog. -/
  catalog_eq : m'.catalog = m.catalog
  /-- They wait for the same operands. -/
  pending_eq : m'.pending = m.pending
  /-- They remember the same line, as long as it matters. -/
  startLine_eq : m.pending ≠ none → m'.startLine = f m.startLine
  /-- They have emitted the same, the second one behind what was there before. -/
  records_eq : m'.program.records = front ++ m.program.records.map (Record.renumber f)

namespace Follows

variable {f : Int → Int} {front : List Record} {m m' n : Machine} {token : Bytes} {line : Int}
  {record : Record} {fault : Fault}

/-- A machine between instructions follows a new one. -/
theorem of_pending_eq_none (f : Int → Int) (h : m.pending = none) :
    Follows f m.program.records { catalog := m.catalog } m :=
  ⟨rfl, h, fun hne => absurd rfl hne, by simp [Program.records]⟩

/-- Behind a mnemonic a machine still follows. -/
theorem begin (h : Follows f front m m') (i : Instruction) (line : Int) :
    Follows f front (m.begin i line) (m'.begin i (f line)) := by
  refine ⟨h.catalog_eq, rfl, ?_, ?_⟩
  · intro hne
    -- An instruction that waits has operands, so the line is that of its mnemonic.
    have harity : i.arity ≠ 0 := fun harity => hne (if_pos harity)
    simp [Machine.begin, harity]
  · simp [Machine.begin, h.records_eq, Record.renumber]

/-- Behind an operand a machine still follows. -/
theorem supply (h : Follows f front m m') {pending : Pending} (hpending : m.pending = some pending)
    (token : Bytes) (line : Int) :
    Follows f front (m.supply pending token line) (m'.supply pending token (f line)) := by
  refine ⟨h.catalog_eq, rfl, ?_, ?_⟩
  · intro _
    exact h.startLine_eq (by simp [hpending])
  · simp [Machine.supply, h.records_eq, h.catalog_eq, Record.renumber]

/-- **A token that one machine accepts, the other accepts** on its line, and emits the same. -/
theorem feed_of_ok (h : Follows f front m m') (hfeed : m.feed token line = .ok (record, n)) :
    ∃ n', m'.feed token (f line) = .ok (record.renumber f, n') ∧ Follows f front n n' := by
  rcases feed_eq_ok_iff.1 hfeed with
    ⟨i, hpending, hfind, rfl, rfl⟩ | ⟨pending, hpending, hlit, rfl, rfl⟩
  · rw [← h.pending_eq] at hpending
    rw [← h.catalog_eq] at hfind
    exact ⟨m'.begin i (f line), feed_of_find? hpending hfind, h.begin i line⟩
  · refine ⟨m'.supply pending token (f line), ?_, h.supply hpending token line⟩
    rw [← h.pending_eq] at hpending
    rw [← h.catalog_eq] at hlit ⊢
    exact feed_of_literal hpending hlit

/-- **A token that one machine refuses, the other refuses** for the same reason. -/
theorem feed_of_error (h : Follows f front m m') (hfeed : m.feed token line = .error fault) :
    m'.feed token (f line) = .error (fault.renumber f) := by
  rcases feed_eq_error_iff.1 hfeed with
    ⟨hpending, hfind, rfl⟩ | ⟨pending, hpending, hlit, rfl⟩
  · rw [← h.pending_eq] at hpending
    rw [← h.catalog_eq] at hfind
    exact feed_of_find?_eq_none hpending hfind
  · rw [← h.pending_eq] at hpending
    rw [← h.catalog_eq] at hlit ⊢
    exact feed_of_not_literal hpending hlit

/-- Many tokens that one machine accepts, the other accepts. -/
theorem feedAll_of_ok {tokens : List Token} (h : Follows f front m m')
    (hfeed : m.feedAll tokens = .ok n) :
    ∃ n', m'.feedAll (tokens.map (Token.renumber f)) = .ok n' ∧ Follows f front n n' := by
  induction tokens generalizing m m' with
  | nil =>
      cases hfeed
      exact ⟨m', rfl, h⟩
  | cons token tokens ih =>
      obtain ⟨record, m₁, htoken, hrest⟩ := exists_feed_of_feedAll_cons hfeed
      obtain ⟨m₁', htoken', h₁⟩ := h.feed_of_ok htoken
      obtain ⟨n', hrest', hn⟩ := ih h₁ hrest
      exact ⟨n', (feedAll_cons_of_ok htoken').trans hrest', hn⟩

/-- If one machine refuses one of many tokens, the other refuses the same one. -/
theorem feedAll_of_error {tokens : List Token} (h : Follows f front m m')
    (hfeed : m.feedAll tokens = .error fault) :
    m'.feedAll (tokens.map (Token.renumber f)) = .error (fault.renumber f) := by
  obtain ⟨before, token, after, m₁, rfl, hbefore, hrefused⟩ := exists_refused_token hfeed
  obtain ⟨m₁', hbefore', h₁⟩ := h.feedAll_of_ok hbefore
  have hrefused' : m₁'.feed token.text (f token.line) = _ := h₁.feed_of_error hrefused
  rw [List.map_append, feedAll_append_of_ok hbefore', List.map_cons]
  exact feedAll_cons_of_error hrefused'

/-- If the source ends here, it ends for both machines in the same way. -/
theorem endFault_eq (h : Follows f front m m') (ending : Fault) :
    endFault ending m' = (endFault ending m).map (Fault.renumber f) := by
  unfold endFault finish
  rw [h.pending_eq]
  split
  · cases hpending : m.pending with
    | none => rfl
    | some pending =>
        have hstart := h.startLine_eq (by simp [hpending])
        simp [hstart, Fault.renumber]
  · rfl

/-- **What becomes of a source** is what becomes of another one with the same tokens under other
line numbers. -/
theorem result_assembleFrom {number number' : Nat} {lines lines' : List Bytes} {ending : Fault}
    (h : Follows f front m m')
    (htokens : Source.tokensFrom (number' + 1) lines' =
      (Source.tokensFrom (number + 1) lines).map (Token.renumber f)) :
    (∀ program, (assembleFrom ending m number lines).result = .ok program →
      ∃ program', (assembleFrom ending m' number' lines').result = .ok program' ∧
        program'.records = front ++ program.records.map (Record.renumber f)) ∧
    ∀ fault, (assembleFrom ending m number lines).result = .error fault →
      (assembleFrom ending m' number' lines').result = .error (fault.renumber f) := by
  rw [OnePass.result_assembleFrom, OnePass.result_assembleFrom, htokens]
  cases hfeed : m.feedAll (Source.tokensFrom (number + 1) lines) with
  | error fault =>
      rw [h.feedAll_of_error hfeed]
      refine ⟨fun program hprogram => ?_, fun fault' hfault => ?_⟩
      · cases hprogram
      · cases hfault
        rfl
  | ok n =>
      obtain ⟨n', hfeed', hn⟩ := h.feedAll_of_ok hfeed
      rw [hfeed']
      have hend := hn.endFault_eq ending
      simp only [resultAt]
      cases hfault : endFault ending n with
      | none =>
          rw [hfault, Option.map_none] at hend
          rw [hend]
          refine ⟨fun program hprogram => ?_, fun fault hfault => ?_⟩
          · cases hprogram
            exact ⟨n'.program, rfl, hn.records_eq⟩
          · cases hfault
      | some fault =>
          rw [hfault, Option.map_some] at hend
          rw [hend]
          refine ⟨fun program hprogram => ?_, fun fault' hfault' => ?_⟩
          · cases hprogram
          · cases hfault'
            rfl

end Follows

end Machine

/-! ### One source behind another -/

/-- **Sources compose.**  If a source assembles, then what becomes of lines behind it is what
becomes of these lines alone: a program is put behind the first one, with its lines counted on, and
a fault is told about its line as it is counted now. -/
theorem assemble_append {catalog : Catalog} {lines : List Bytes} {firstEnding : Fault}
    {program : Program} (hfirst : (assemble catalog ⟨lines, firstEnding⟩).result = .ok program)
    (more : List Bytes) (ending : Fault) :
    (∀ next, (assemble catalog ⟨more, ending⟩).result = .ok next →
      ∃ whole, (assemble catalog ⟨lines ++ more, ending⟩).result = .ok whole ∧
        whole.records =
          program.records ++ next.records.map (Record.renumber (· + lines.length))) ∧
    ∀ fault, (assemble catalog ⟨more, ending⟩).result = .error fault →
      (assemble catalog ⟨lines ++ more, ending⟩).result =
        .error (fault.renumber (· + lines.length)) := by
  rw [assemble_eq_assembleFrom] at hfirst
  obtain ⟨m, hfeed, -, hpending, rfl⟩ := result_assembleFrom_eq_ok_iff.1 hfirst
  obtain ⟨parse, hreads, -⟩ := (Machine.reads_empty catalog).feedAll hfeed
  have hwhole : assemble catalog ⟨lines ++ more, ending⟩ =
      assembleFrom ending m (0 + lines.length) more := assembleFrom_append more hfeed
  -- Behind the first source the machine is between instructions, and follows a new one.
  have hfollows := Machine.Follows.of_pending_eq_none (· + (lines.length : Int)) hpending
  rw [hreads.catalog_eq] at hfollows
  rw [hwhole, assemble_eq_assembleFrom]
  refine hfollows.result_assembleFrom ?_
  rw [Nat.add_right_comm]
  exact Source.tokensFrom_add (0 + 1) lines.length more

/-- Lines behind a source of two lines: one instruction with a comment in it, one that lacks an
operand, and a failure to read. -/
theorem assemble_append_builtIn :
    let lines := [Bytes.ofString "INC", Bytes.ofString "1"]
    let more := [Bytes.ofString "; more", Bytes.ofString "JMP", Bytes.ofString "10"]
    let fewer := [Bytes.ofString "ADD", Bytes.ofString "0"]
    (∃ whole, (assemble Catalog.builtIn ⟨lines ++ more, .endOfInput⟩).result = .ok whole ∧
      whole.records =
        [⟨Bytes.ofString "00000001", 1, Bytes.ofString "INC", .opcode⟩,
          ⟨Bytes.ofString "00000001", 2, Bytes.ofString "INC", .operand⟩,
          ⟨Bytes.ofString "00000100", 4, Bytes.ofString "JMP", .opcode⟩,
          ⟨Bytes.ofString "00000010", 5, Bytes.ofString "JMP", .operand⟩]) ∧
      (assemble Catalog.builtIn ⟨lines ++ fewer, .endOfInput⟩).result =
        .error (.unexpectedEnd (Bytes.ofString "ADD") 3 1) ∧
      (assemble Catalog.builtIn ⟨lines ++ fewer, .plain []⟩).result =
        .error (.inputOutput (Bytes.ofString "read source") [] (some (.plain []))) := by
  intro lines more fewer
  have hfirst : (assemble Catalog.builtIn ⟨lines, .endOfInput⟩).result =
      .ok (assemble Catalog.builtIn ⟨lines, .endOfInput⟩).program := rfl
  exact ⟨(assemble_append hfirst more .endOfInput).1 _ rfl,
    (assemble_append hfirst fewer .endOfInput).2 _ rfl,
    (assemble_append hfirst fewer (.plain [])).2 _ rfl⟩

end OnePass
