import OnePass.Proofs.Assembly

/-
**What a fault tells about a source.**

An assembly that does not go well ends in one of four ways: a token is no mnemonic where one is due,
a token is no literal where one is due, the source ends while an instruction waits, or the source
cannot be read further.  The fault says which, and this module says how much of the source it
describes.

A token that is refused is the token of the line that the fault names.  Nothing behind that line is
read or matters, and the lines in front of it, taken as a source of their own, have nothing wrong
with them: they assemble, or only lack the operands of the instruction that the fault names.  The
fault of a source that ends too early names the instruction that waits and the number of operands
that are missing: that many literals complete the source, and nothing that is shorter does.

Main definitions:

* `OnePass.LocalFault` — a fault that the first `n` lines of a source decide;
* `OnePass.Explained` — **what each kind of fault says** about a source.

Main results:

* `OnePass.localFault_of_refused` — the fault of a token that is refused is local;
* `OnePass.assemble_append_literals`, `OnePass.assemble_append_ne_ok` — **what completes a source
  that ends too early**: as many literals as it lacks operands, and nothing with fewer tokens;
* `OnePass.explained_of_assemble` — **every fault of an assembly is explained**.
-/

set_option relaxedAutoImplicit false
set_option autoImplicit false

namespace OnePass

open Source (Token)

/-! ### What a fault says -/

/-- **A fault that the first `n` lines of a source decide**: the last of them has the token `text`,
exactly these lines were read, and every source that begins with them meets the same fault, whatever
comes behind them and however it ends. -/
structure LocalFault (catalog : Catalog) (source : LineSource) (fault : Fault) (n : Nat)
    (text : Bytes) : Prop where
  /-- Lines are numbered from one. -/
  one_le : 1 ≤ n
  /-- The source has such a line. -/
  le_length : n ≤ source.lines.length
  /-- The line has the token. -/
  token : source.lines[n - 1]?.map Source.sanitize = some text
  /-- The line is not blank. -/
  text_ne_nil : text ≠ []
  /-- The lines behind it were not read. -/
  unread : (assemble catalog source).source = ⟨source.lines.drop n, source.ending⟩
  /-- They do not matter, nor does the end. -/
  stable : ∀ other : LineSource, other.lines.take n = source.lines.take n →
    (assemble catalog other).result = .error fault

/-- **What each kind of fault says about a source.**  No other kind of fault ends an assembly. -/
def Explained (catalog : Catalog) (source : LineSource) : Fault → Prop
  | .unknownCommand line text =>
    ∃ n : Nat, line = n ∧ LocalFault catalog source (.unknownCommand line text) n text ∧
      catalog.find? text = none ∧
      ∀ ending : Fault, ending.isEndOfInput = true →
        ∃ program, (assemble catalog ⟨source.lines.take (n - 1), ending⟩).result = .ok program
  | .invalidArgument line mnemonic text width =>
    ∃ n : Nat, line = n ∧
      LocalFault catalog source (.invalidArgument line mnemonic text width) n text ∧
      width = catalog.wordSize ∧ ¬ Word.Literal catalog.wordSize text ∧
      ∀ ending : Fault, ending.isEndOfInput = true →
        ∃ start missing : Int, (assemble catalog ⟨source.lines.take (n - 1), ending⟩).result =
          .error (.unexpectedEnd mnemonic start missing)
  | .unexpectedEnd mnemonic line missing =>
    source.ending.isEndOfInput = true ∧
      ∃ (n : Nat) (i : Instruction), line = n ∧ 1 ≤ n ∧ n ≤ source.lines.length ∧
        source.lines[n - 1]?.map Source.sanitize = some mnemonic ∧
        catalog.find? mnemonic = some i ∧ 1 ≤ missing ∧
        missing = i.arity - (source.lines.drop n).countP (fun line => Source.sanitize line ≠ []) ∧
        (∀ more : List Bytes,
          (∀ line ∈ more, Word.Literal catalog.wordSize (Source.sanitize line)) →
          (more.length = missing → ∃ program,
            (assemble catalog ⟨source.lines ++ more, source.ending⟩).result = .ok program) ∧
          (more.length < missing →
            (assemble catalog ⟨source.lines ++ more, source.ending⟩).result =
              .error (.unexpectedEnd mnemonic line (missing - more.length)))) ∧
        ∀ (more : List Bytes) (ending : Fault) (program : Program),
          more.countP (fun line => Source.sanitize line ≠ []) < missing →
          (assemble catalog ⟨source.lines ++ more, ending⟩).result ≠ .ok program
  | .inputOutput op path cause =>
    source.ending.isEndOfInput = false ∧
      op = Bytes.ofString "read source" ∧ path = [] ∧ cause = some source.ending ∧
      (assemble catalog source).source = ⟨[], source.ending⟩ ∧
      ∀ ending : Fault, ending.isEndOfInput = true →
        (∃ program, (assemble catalog ⟨source.lines, ending⟩).result = .ok program) ∨
        ∃ mnemonic start missing, (assemble catalog ⟨source.lines, ending⟩).result =
          .error (.unexpectedEnd mnemonic start missing)
  | _ => False

/-! ### The end of a source -/

section

variable {catalog : Catalog} {source : LineSource} {lines : List Bytes} {ending : Fault}
  {m : Machine}

/-- A source that is used up, and all of whose tokens are accepted, goes well unless an instruction
waits. -/
theorem assemble_of_pending_eq_none
    (hfeed : ({ catalog := catalog } : Machine).feedAll (Source.tokens source.lines) = .ok m)
    (heof : source.ending.isEndOfInput = true) (hpending : m.pending = none) :
    (assemble catalog source).result = .ok m.program := by
  rw [assemble_eq_assembleFrom]
  exact result_assembleFrom_eq_ok_iff.2 ⟨m, hfeed, heof, hpending, rfl⟩

/-- If one does, the fault tells how many operands it lacks. -/
theorem assemble_of_pending_eq_some {pending : Pending}
    (hfeed : ({ catalog := catalog } : Machine).feedAll (Source.tokens source.lines) = .ok m)
    (heof : source.ending.isEndOfInput = true) (hpending : m.pending = some pending) :
    (assemble catalog source).result =
      .error (.unexpectedEnd pending.instruction.mnemonic m.startLine pending.remaining) := by
  rw [assemble_eq_assembleFrom, assembleFrom_of_accepted hfeed]
  simp [Assembly.result, endFault, heof, Machine.finish, hpending]

/-- **Literals behind a source that ends too early** are the operands that it lacks. -/
theorem assemble_append_literals {pending : Pending} {more : List Bytes}
    (hfeed : ({ catalog := catalog } : Machine).feedAll (Source.tokens lines) = .ok m)
    (hcatalog : m.catalog = catalog) (heof : ending.isEndOfInput = true)
    (hpending : m.pending = some pending) (hpos : 0 < pending.remaining)
    (hmore : ∀ line ∈ more, Word.Literal catalog.wordSize (Source.sanitize line)) :
    (more.length = pending.remaining →
      ∃ program, (assemble catalog ⟨lines ++ more, ending⟩).result = .ok program) ∧
    (more.length < pending.remaining →
      (assemble catalog ⟨lines ++ more, ending⟩).result =
        .error (.unexpectedEnd pending.instruction.mnemonic m.startLine
          (pending.remaining - more.length : Nat))) := by
  have hlength : (Source.tokensFrom (1 + lines.length) more).length = more.length :=
    Source.length_tokensFrom_of_ne fun line hline => (hmore line hline).ne_nil
  have hliterals : ∀ token ∈ Source.tokensFrom (1 + lines.length) more,
      Word.Literal m.catalog.wordSize token.text := by
    intro token htoken
    obtain ⟨line, hline, htext⟩ := Source.exists_mem_of_mem_tokensFrom htoken
    rw [hcatalog, htext]
    exact hmore line hline
  -- The machine behind the literals, and behind the whole source.
  have hliteral : more.length ≤ pending.remaining → ∃ m',
      ({ catalog := catalog } : Machine).feedAll (Source.tokens (lines ++ more)) = .ok m' ∧
      m'.startLine = m.startLine ∧
      m'.pending =
        if more.length = pending.remaining then none
        else some { pending with remaining := pending.remaining - more.length } := by
    intro hle
    obtain ⟨m', hrest, -, hstart, hpending'⟩ :=
      Machine.feedAll_literals hpending hpos (by rw [hlength]; exact hle) hliterals
    refine ⟨m', ?_, hstart, by rw [hpending', hlength]⟩
    rw [Source.tokens_append, Machine.feedAll_append_of_ok hfeed, hrest]
  constructor
  · intro hfull
    obtain ⟨m', hall, -, hpending'⟩ := hliteral (Nat.le_of_eq hfull)
    rw [if_pos hfull] at hpending'
    exact ⟨m'.program, assemble_of_pending_eq_none hall heof hpending'⟩
  · intro hshort
    obtain ⟨m', hall, hstart, hpending'⟩ := hliteral (Nat.le_of_lt hshort)
    rw [if_neg (Nat.ne_of_lt hshort)] at hpending'
    rw [assemble_of_pending_eq_some hall heof hpending', hstart]

/-- **No source that ends too early is completed by fewer lines** than it lacks operands, whatever
they are. -/
theorem assemble_append_ne_ok {pending : Pending} {more : List Bytes} {program : Program}
    (hfeed : ({ catalog := catalog } : Machine).feedAll (Source.tokens lines) = .ok m)
    (hpending : m.pending = some pending)
    (hshort : more.countP (fun line => Source.sanitize line ≠ []) < pending.remaining) :
    (assemble catalog ⟨lines ++ more, ending⟩).result ≠ .ok program := by
  intro h
  rw [assemble_eq_assembleFrom] at h
  obtain ⟨m', hall, -, hnone, -⟩ := result_assembleFrom_eq_ok_iff.1 h
  have hrest : m.feedAll (Source.tokensFrom (1 + lines.length) more) = .ok m' := by
    rw [← Machine.feedAll_append_of_ok hfeed, ← Source.tokens_append]
    exact hall
  rw [← Source.length_tokensFrom (1 + lines.length)] at hshort
  have hle := Nat.le_of_lt hshort
  -- The lines were accepted, so they are literals, and the instruction still waits behind them.
  obtain ⟨m'', hrest', -, -, hpending'⟩ :=
    Machine.feedAll_literals hpending (Nat.zero_lt_of_lt hshort) hle
      (Machine.literals_of_feedAll hpending hle hrest)
  rw [hrest] at hrest'
  cases hrest'
  rw [if_neg (Nat.ne_of_lt hshort), hnone] at hpending'
  cases hpending'

end

/-! ### Tokens that are refused -/

section

variable {catalog : Catalog} {source : LineSource} {fault : Fault} {m : Machine}

/-- **The fault of a token that is refused is local.** -/
theorem localFault_of_refused {k : Nat} {line : Bytes} (hline : source.lines[k]? = some line)
    (hbefore : ({ catalog := catalog } : Machine).feedAll
      (Source.tokens (source.lines.take k)) = .ok m)
    (hne : Source.sanitize line ≠ [])
    (hfeed : m.feed (Source.sanitize line) (k + 1 : Nat) = .error fault) :
    LocalFault catalog source fault (k + 1) (Source.sanitize line) := by
  obtain ⟨hk, hget⟩ := List.getElem?_eq_some_iff.1 hline
  rw [← Nat.zero_add k] at hfeed
  refine ⟨Nat.le_add_left 1 k, hk, ?_, hne, ?_, ?_⟩
  · rw [Nat.add_sub_cancel, hline]
    rfl
  · rw [assemble_eq_assembleFrom, assembleFrom_of_refused hline hbefore hne hfeed]
  · intro other htake
    -- Another source with these lines has the same line there, and the same ones in front of it.
    have hline' : other.lines[k]? = some line := by
      have hlast : (other.lines.take (k + 1))[k]? = (source.lines.take (k + 1))[k]? := by
        rw [htake]
      rwa [List.getElem?_take_of_lt (Nat.lt_succ_self k),
        List.getElem?_take_of_lt (Nat.lt_succ_self k), hline] at hlast
    have hbefore' : other.lines.take k = source.lines.take k := by
      have hfirst := congrArg (List.take k) htake
      rwa [List.take_take, List.take_take, Nat.min_eq_left (Nat.le_succ k)] at hfirst
    rw [← hbefore'] at hbefore
    rw [assemble_eq_assembleFrom, assembleFrom_of_refused hline' hbefore hne hfeed]
    rfl

/-- The fault of a token that is refused is explained. -/
theorem explained_of_refused {k : Nat} {line : Bytes} (hline : source.lines[k]? = some line)
    (hbefore : ({ catalog := catalog } : Machine).feedAll
      (Source.tokens (source.lines.take k)) = .ok m)
    (hne : Source.sanitize line ≠ [])
    (hfeed : m.feed (Source.sanitize line) (k + 1 : Nat) = .error fault) :
    Explained catalog source fault := by
  have hlocal := localFault_of_refused hline hbefore hne hfeed
  obtain ⟨parse, hreads, -⟩ := (Machine.reads_empty catalog).feedAll hbefore
  have hcatalog := hreads.catalog_eq
  -- What the machine waited for tells how the lines in front end as a source of their own.
  rcases Machine.feed_eq_error_iff.1 hfeed with
    ⟨hpending, hfind, rfl⟩ | ⟨pending, hpending, hlit, rfl⟩
  · rw [hcatalog] at hfind
    refine ⟨k + 1, rfl, hlocal, hfind, ?_⟩
    intro ending heof
    exact ⟨m.program, assemble_of_pending_eq_none hbefore heof hpending⟩
  · rw [hcatalog] at hlit hlocal ⊢
    refine ⟨k + 1, rfl, hlocal, rfl, hlit, ?_⟩
    intro ending heof
    exact ⟨_, _, assemble_of_pending_eq_some hbefore heof hpending⟩

/-- The fault of a source that ends too early is explained. -/
theorem explained_of_waiting {pending : Pending} (heof : source.ending.isEndOfInput = true)
    (hfeed : ({ catalog := catalog } : Machine).feedAll (Source.tokens source.lines) = .ok m)
    (hpending : m.pending = some pending) :
    Explained catalog source
      (.unexpectedEnd pending.instruction.mnemonic m.startLine pending.remaining) := by
  obtain ⟨parse, hreads, htokens⟩ := (Machine.reads_empty catalog).feedAll hfeed
  obtain ⟨block, hlast, rfl, hstarted⟩ := hreads.exists_last hpending
  have hstart := hreads.startLine_eq block hlast
  have hshort := hstarted.short
  -- The mnemonic of the block that waits is a token of the source; its operands stand behind it.
  have hsplit : Source.tokens source.lines = parse.blocks.flatMap Block.tokens ++
      ⟨block.line, block.instruction.mnemonic⟩ :: block.operands := by
    have htokens' : Source.tokens source.lines = parse.tokens := by rw [htokens]; rfl
    rw [htokens', Parse.tokens, Parse.allBlocks, hlast]
    simp [Block.tokens]
  obtain ⟨k, line, hline, htext, -, hnumber, -, hoperands⟩ :=
    Source.exists_line_of_tokensFrom_eq hsplit
  obtain ⟨hk, -⟩ := List.getElem?_eq_some_iff.1 hline
  have hcount : block.operands.length =
      (source.lines.drop (k + 1)).countP fun line => Source.sanitize line ≠ [] := by
    rw [hoperands, Source.length_tokensFrom]
  have hpos : 0 < (Machine.awaited block).remaining := Nat.sub_pos_of_lt hshort
  have hmissing : ((Machine.awaited block).remaining : Int) =
      block.instruction.arity - block.operands.length := by
    simp only [Machine.awaited]
    omega
  refine ⟨heof, k + 1, block.instruction, ?_, Nat.le_add_left 1 k, hk, ?_, hstarted.known, ?_, ?_,
    ?_, ?_⟩
  · rw [hstart, Nat.add_comm k 1]
    exact hnumber
  · rw [Nat.add_sub_cancel, hline, Option.map_some, htext]
    rfl
  · omega
  · rw [hmissing, hcount]
  · intro more hmore
    obtain ⟨hfull, hless⟩ :=
      assemble_append_literals hfeed hreads.catalog_eq heof hpending hpos hmore
    constructor
    · intro hlength
      exact hfull (by omega)
    · intro hlength
      rw [hless (by omega)]
      congr 2
      omega
  · intro more ending program hless
    exact assemble_append_ne_ok hfeed hpending (by omega)

/-- The fault of a source that cannot be read further is explained. -/
theorem explained_of_readFault (heof : source.ending.isEndOfInput = false)
    (hfeed : ({ catalog := catalog } : Machine).feedAll (Source.tokens source.lines) = .ok m) :
    Explained catalog source (readFault source.ending) := by
  refine ⟨heof, rfl, rfl, rfl, ?_, ?_⟩
  · rw [assemble_eq_assembleFrom, assembleFrom_of_accepted hfeed]
  · intro ending heof'
    cases hpending : m.pending with
    | none => exact Or.inl ⟨m.program, assemble_of_pending_eq_none hfeed heof' hpending⟩
    | some pending => exact Or.inr ⟨_, _, _, assemble_of_pending_eq_some hfeed heof' hpending⟩

end

/-- **Every fault of an assembly is explained**: it is exact, and nothing but the lines it is about
decides it. -/
theorem explained_of_assemble {catalog : Catalog} {source : LineSource} {fault : Fault}
    (h : (assemble catalog source).result = .error fault) : Explained catalog source fault := by
  cases hfeed : ({ catalog := catalog } : Machine).feedAll (Source.tokens source.lines) with
  | error refusal =>
      obtain ⟨k, line, m, hline, hbefore, hne, hrefused⟩ := exists_refused_line hfeed
      rw [assemble_eq_assembleFrom, assembleFrom_of_refused hline hbefore hne hrefused] at h
      cases h
      rw [Nat.zero_add] at hrefused
      exact explained_of_refused hline hbefore hne hrefused
  | ok m =>
      cases heof : source.ending.isEndOfInput with
      | false =>
          rw [assemble_eq_assembleFrom, assembleFrom_of_accepted hfeed] at h
          simp only [Assembly.result, endFault, heof, Bool.false_eq_true, if_false] at h
          cases h
          exact explained_of_readFault heof hfeed
      | true =>
          cases hpending : m.pending with
          | none =>
              rw [assemble_of_pending_eq_none hfeed heof hpending] at h
              cases h
          | some pending =>
              rw [assemble_of_pending_eq_some hfeed heof hpending] at h
              cases h
              exact explained_of_waiting heof hfeed hpending

/-- One fault of every kind, under the built-in instruction set: a source that ends too early, the
same lines with a failure to read behind them, with a mnemonic in place of the last operand, and
with a literal behind it. -/
theorem explained_of_assemble_builtIn :
    let lines := [Bytes.ofString "ADD", Bytes.ofString "; sum", Bytes.ofString "1"]
    Explained Catalog.builtIn ⟨lines, .endOfInput⟩ (.unexpectedEnd (Bytes.ofString "ADD") 1 1) ∧
      Explained Catalog.builtIn ⟨lines, .plain []⟩
        (.inputOutput (Bytes.ofString "read source") [] (some (.plain []))) ∧
      Explained Catalog.builtIn ⟨lines ++ [Bytes.ofString "SUB"], .endOfInput⟩
        (.invalidArgument 4 (Bytes.ofString "ADD") (Bytes.ofString "SUB") 8) ∧
      Explained Catalog.builtIn ⟨lines ++ [Bytes.ofString "0", Bytes.ofString "10"], .endOfInput⟩
        (.unknownCommand 5 (Bytes.ofString "10")) :=
  ⟨explained_of_assemble rfl, explained_of_assemble rfl, explained_of_assemble rfl,
    explained_of_assemble rfl⟩

end OnePass
