import OnePass.Proofs.Renumbering
import OnePass.Proofs.Sanitize

/-
**Layout does not matter.**

A source may be laid out in many ways: with blank lines and lines of comments anywhere, with spaces
and tabs even inside of a token, and with any bytes at all in its comments.  What counts are the
tokens.  Every source has a bare form, which has one line for every token and nothing else on it,
and becomes what its bare form becomes, except that its lines have other numbers.  So two sources
with the same bare form become the same, and where a record or a fault of one names a line, the
other one names the line with the same token, counted from the beginning.

Main definitions:

* `OnePass.Source.bare` — **the bare form** of a source, `OnePass.Source.lineOf` the line on which a
  line of the bare form is found in the source;
* `OnePass.Fault.About` — a fault that is about a token of a source;
* `OnePass.Fault.Corresponds` — **the same fault of two sources**.

Main results:

* `OnePass.Source.tokens_eq_map_bare` — a source has the tokens of its bare form, on other lines;
* `OnePass.result_of_bare` — what becomes of the bare form, the source becomes;
* `OnePass.result_of_layout` — **sources that differ in layout become the same**.
-/

set_option relaxedAutoImplicit false
set_option autoImplicit false

namespace OnePass

open Source (Token)

/-! ### The bare form of a source -/

namespace Source

/-- **The bare form of a source**: the tokens of its lines that are not blank. -/
def bare (lines : List Bytes) : List Bytes :=
  (lines.map sanitize).filter (· ≠ [])

/-- The number of the line with the `n`-th token of a source, where tokens are counted from one. -/
def lineOf (lines : List Bytes) (n : Int) : Int :=
  ((tokens lines)[(n - 1).toNat]?.map (·.line)).getD 0

theorem map_text_tokensFrom (number : Nat) (lines : List Bytes) :
    (tokensFrom number lines).map (·.text) = bare lines := by
  induction lines generalizing number with
  | nil => rfl
  | cons line lines ih =>
      by_cases hblank : sanitize line = []
      · rw [tokensFrom_cons_of_blank hblank, ih, bare, bare, List.map_cons,
          List.filter_cons_of_neg (by simp [hblank])]
      · rw [tokensFrom_cons_of_ne hblank, List.map_cons, ih, bare, bare, List.map_cons,
          List.filter_cons_of_pos (by simp [hblank])]

theorem sanitize_of_mem_bare {lines : List Bytes} {text : Bytes} (h : text ∈ bare lines) :
    sanitize text = text ∧ text ≠ [] := by
  obtain ⟨hmem, hne⟩ := List.mem_filter.1 h
  obtain ⟨line, -, rfl⟩ := List.mem_map.1 hmem
  exact ⟨(clean_sanitize line).sanitize_eq, by simpa using hne⟩

/-- Lines that are their own tokens are numbered one after another. -/
theorem getElem?_tokensFrom {lines : List Bytes}
    (h : ∀ line ∈ lines, sanitize line = line ∧ line ≠ []) (number k : Nat) :
    (tokensFrom number lines)[k]? = lines[k]?.map fun line => ⟨(number + k : Nat), line⟩ := by
  induction lines generalizing number k with
  | nil => rfl
  | cons line lines ih =>
      obtain ⟨⟨hline, hne⟩, hlines⟩ := List.forall_mem_cons.1 h
      rw [tokensFrom_cons_of_ne (by rwa [hline]), hline]
      cases k with
      | zero => rfl
      | succ k =>
          have hnumber : number + 1 + k = number + (k + 1) := by omega
          rw [List.getElem?_cons_succ, List.getElem?_cons_succ, ih hlines, hnumber]

/-- **A source has the tokens of its bare form**, on other lines. -/
theorem tokens_eq_map_bare (lines : List Bytes) :
    tokens lines = (tokens (bare lines)).map (Token.renumber (lineOf lines)) := by
  refine List.ext_getElem? fun k => ?_
  have hindex : (((1 + k : Nat) : Int) - 1).toNat = k := by omega
  have htexts : (bare lines)[k]? = (tokens lines)[k]?.map (·.text) := by
    rw [← map_text_tokensFrom 1 lines, List.getElem?_map]
    rfl
  have hbare : (tokens (bare lines))[k]? = _ :=
    getElem?_tokensFrom (fun _ => sanitize_of_mem_bare) 1 k
  rw [List.getElem?_map, hbare, htexts]
  cases htoken : (tokens lines)[k]? with
  | none => rfl
  | some token =>
      simp only [Option.map_some, Token.renumber, lineOf, hindex, htoken, Option.getD_some]

end Source

/-! ### What a fault is about -/

namespace Fault

/-- **What the fault of a source is about**: a token that stands on the line that it names, or a
failure to read the source. -/
def About (fault : Fault) (tokens : List Token) (ending : Fault) : Prop :=
  match fault with
  | .unknownCommand line text => ⟨line, text⟩ ∈ tokens
  | .unexpectedEnd mnemonic line _ => ⟨line, mnemonic⟩ ∈ tokens
  | .invalidArgument line _ text _ => ⟨line, text⟩ ∈ tokens
  | fault => fault = .inputOutput (Bytes.ofString "read source") [] (some ending)

/-- **Two sources have the same fault**: all that it says is the same, except that each source names
the line on which it has the token in question.  That token has the same number `k` in both. -/
inductive Corresponds (tokens tokens' : List Token) : Fault → Fault → Prop where
  | unknownCommand (k : Nat) (line line' : Int) (text : Bytes)
      (htoken : tokens[k]? = some ⟨line, text⟩) (htoken' : tokens'[k]? = some ⟨line', text⟩) :
      Corresponds tokens tokens' (.unknownCommand line text) (.unknownCommand line' text)
  | unexpectedEnd (k : Nat) (line line' : Int) (mnemonic : Bytes) (missing : Int)
      (htoken : tokens[k]? = some ⟨line, mnemonic⟩)
      (htoken' : tokens'[k]? = some ⟨line', mnemonic⟩) :
      Corresponds tokens tokens' (.unexpectedEnd mnemonic line missing)
        (.unexpectedEnd mnemonic line' missing)
  | invalidArgument (k : Nat) (line line' : Int) (mnemonic text : Bytes) (width : Int)
      (htoken : tokens[k]? = some ⟨line, text⟩) (htoken' : tokens'[k]? = some ⟨line', text⟩) :
      Corresponds tokens tokens' (.invalidArgument line mnemonic text width)
        (.invalidArgument line' mnemonic text width)
  | readFailure (cause : Fault) :
      Corresponds tokens tokens' (.inputOutput (Bytes.ofString "read source") [] (some cause))
        (.inputOutput (Bytes.ofString "read source") [] (some cause))

variable {tokens : List Token} {ending fault : Fault}

/-- A fault that is about a token is the same fault after the lines have got other numbers, and
others again. -/
theorem About.corresponds (h : fault.About tokens ending) (f f' : Int → Int) :
    Corresponds (tokens.map (Token.renumber f)) (tokens.map (Token.renumber f'))
      (fault.renumber f) (fault.renumber f') := by
  have htoken : ∀ {k : Nat} {token : Token} (g : Int → Int), tokens[k]? = some token →
      (tokens.map (Token.renumber g))[k]? = some ⟨g token.line, token.text⟩ := by
    intro k token g hk
    rw [List.getElem?_map, hk]
    rfl
  cases fault with
  | unknownCommand line text =>
      obtain ⟨k, hk⟩ := List.mem_iff_getElem?.1 h
      exact .unknownCommand k _ _ _ (htoken f hk) (htoken f' hk)
  | unexpectedEnd mnemonic line missing =>
      obtain ⟨k, hk⟩ := List.mem_iff_getElem?.1 h
      exact .unexpectedEnd k _ _ _ _ (htoken f hk) (htoken f' hk)
  | invalidArgument line mnemonic text width =>
      obtain ⟨k, hk⟩ := List.mem_iff_getElem?.1 h
      exact .invalidArgument k _ _ _ _ _ (htoken f hk) (htoken f' hk)
  | inputOutput op path cause =>
      obtain ⟨rfl, rfl, rfl⟩ := Fault.inputOutput.inj h
      exact .readFailure ending
  | invocation reason => cases h
  | endOfInput => cases h
  | plain text => cases h
  | context text cause => cases h
  | several causes => cases h

end Fault

section

variable {catalog : Catalog} {lines lines' : List Bytes} {ending ending' fault : Fault}
  {m : Machine}

/-- A token that is refused is one of the source. -/
theorem about_of_feedAll {tokens : List Token} (hfeed : m.feedAll tokens = .error fault) :
    fault.About tokens ending := by
  obtain ⟨before, token, after, m', rfl, -, hrefused⟩ := Machine.exists_refused_token hfeed
  have hmem : token ∈ before ++ token :: after := by simp
  rcases Machine.feed_eq_error_iff.1 hrefused with ⟨-, -, rfl⟩ | ⟨pending, -, -, rfl⟩
  · exact hmem
  · exact hmem

/-- The mnemonic of an instruction that waits is one of the tokens, on the line where it began. -/
theorem mem_tokens_of_pending {tokens : List Token} {pending : Pending}
    (hfeed : ({ catalog := catalog } : Machine).feedAll tokens = .ok m)
    (hpending : m.pending = some pending) :
    ⟨m.startLine, pending.instruction.mnemonic⟩ ∈ tokens := by
  obtain ⟨parse, hreads, htokens⟩ := (Machine.reads_empty catalog).feedAll hfeed
  obtain ⟨block, hlast, rfl, -⟩ := hreads.exists_last hpending
  have htokens' : tokens = parse.tokens := by rw [htokens]; rfl
  rw [htokens', hreads.startLine_eq block hlast, Parse.tokens, List.mem_flatMap]
  refine ⟨block, ?_, ?_⟩
  · simp [Parse.allBlocks, hlast]
  · simp [Block.tokens, Machine.awaited]

/-- **Every fault of a source is about one of its tokens**, or about its end. -/
theorem about_of_assemble (h : (assemble catalog ⟨lines, ending⟩).result = .error fault) :
    fault.About (Source.tokens lines) ending := by
  rw [assemble_eq_assembleFrom, result_assembleFrom] at h
  change resultAt ending (Machine.feedAll _ (Source.tokens lines)) = _ at h
  cases hfeed : ({ catalog := catalog } : Machine).feedAll (Source.tokens lines) with
  | error refusal =>
      rw [hfeed] at h
      cases h
      exact about_of_feedAll hfeed
  | ok m =>
      rw [hfeed] at h
      simp only [resultAt, endFault, Machine.finish] at h
      cases heof : ending.isEndOfInput with
      | false =>
          rw [heof] at h
          cases h
          rfl
      | true =>
          rw [heof] at h
          cases hpending : m.pending with
          | none =>
              rw [hpending] at h
              cases h
          | some pending =>
              rw [hpending] at h
              cases h
              exact mem_tokens_of_pending hfeed hpending

/-! ### Two layouts of one source -/

/-- **A source becomes what its bare form becomes**, with the lines that it has itself. -/
theorem result_of_bare (catalog : Catalog) (lines : List Bytes) (ending : Fault) :
    (∀ program, (assemble catalog ⟨Source.bare lines, ending⟩).result = .ok program →
      ∃ program', (assemble catalog ⟨lines, ending⟩).result = .ok program' ∧
        program'.records = program.records.map (Record.renumber (Source.lineOf lines))) ∧
    ∀ fault, (assemble catalog ⟨Source.bare lines, ending⟩).result = .error fault →
      (assemble catalog ⟨lines, ending⟩).result =
        .error (fault.renumber (Source.lineOf lines)) := by
  have hfollows : Machine.Follows (Source.lineOf lines) [] { catalog := catalog }
      { catalog := catalog } :=
    @Machine.Follows.of_pending_eq_none { catalog := catalog } _ rfl
  rw [assemble_eq_assembleFrom, assemble_eq_assembleFrom]
  exact hfollows.result_assembleFrom (Source.tokens_eq_map_bare lines)

/-- Sources that both are used up become what they would become if they ended in the same way. -/
theorem result_of_endings
    (h : ending.isEndOfInput = true ∧ ending'.isEndOfInput = true ∨ ending = ending') :
    (assemble catalog ⟨lines, ending⟩).result = (assemble catalog ⟨lines, ending'⟩).result := by
  rcases h with ⟨heof, heof'⟩ | rfl
  · rw [result_of_isEndOfInput heof, result_of_isEndOfInput heof']
  · rfl

/-- The records of a program come from the lines with the tokens, one after another. -/
theorem map_line_records_of_assemble {program : Program}
    (h : (assemble catalog ⟨lines, ending⟩).result = .ok program) :
    program.records.map (·.line) = (Source.tokens lines).map (·.line) := by
  obtain ⟨blocks, hsplit, hrecords⟩ := exists_blocks_of_assemble h
  rw [hrecords]
  exact hsplit.map_line_records catalog.wordSize

/-- **Layout does not matter.**  Let two sources have the same tokens, and let both be used up or
break off with the same failure.  Then either both assemble, and their programs have the same words
from the same mnemonics in the same roles, or both have the same fault.  What is said about a line
is in each source said about the line that has the token in question. -/
theorem result_of_layout
    (htokens : Source.bare lines = Source.bare lines')
    (hending : ending.isEndOfInput = true ∧ ending'.isEndOfInput = true ∨ ending = ending') :
    (∃ program program',
      (assemble catalog ⟨lines, ending⟩).result = .ok program ∧
      (assemble catalog ⟨lines', ending'⟩).result = .ok program' ∧
      program.words = program'.words ∧
      program.records.map (·.mnemonic) = program'.records.map (·.mnemonic) ∧
      program.records.map (·.role) = program'.records.map (·.role) ∧
      program.records.map (·.line) = (Source.tokens lines).map (·.line) ∧
      program'.records.map (·.line) = (Source.tokens lines').map (·.line)) ∨
    ∃ fault fault',
      (assemble catalog ⟨lines, ending⟩).result = .error fault ∧
      (assemble catalog ⟨lines', ending'⟩).result = .error fault' ∧
      Fault.Corresponds (Source.tokens lines) (Source.tokens lines') fault fault' := by
  rw [← result_of_endings hending]
  -- Both sources are compared with their common bare form.
  obtain ⟨hok, herror⟩ := result_of_bare catalog lines ending
  obtain ⟨hok', herror'⟩ := result_of_bare catalog lines' ending
  rw [← htokens] at hok' herror'
  cases hbare : (assemble catalog ⟨Source.bare lines, ending⟩).result with
  | ok program =>
      obtain ⟨p, hp, hrecords⟩ := hok program hbare
      obtain ⟨p', hp', hrecords'⟩ := hok' program hbare
      have hfield : ∀ {β : Type} (field : Record → β),
          (∀ f record, field (Record.renumber f record) = field record) →
            p.records.map field = p'.records.map field := by
        intro β field hkept
        rw [hrecords, hrecords', List.map_map, List.map_map]
        refine List.map_congr_left fun record _ => ?_
        exact (hkept _ record).trans (hkept _ record).symm
      exact Or.inl ⟨p, p', hp, hp', hfield (·.word) fun _ _ => rfl,
        hfield (·.mnemonic) fun _ _ => rfl, hfield (·.role) fun _ _ => rfl,
        map_line_records_of_assemble hp, map_line_records_of_assemble hp'⟩
  | error fault =>
      refine Or.inr ⟨_, _, herror fault hbare, herror' fault hbare, ?_⟩
      rw [Source.tokens_eq_map_bare lines, Source.tokens_eq_map_bare lines', ← htokens]
      exact (about_of_assemble hbare).corresponds _ _

end

/-- One instruction in two layouts, the second of which breaks its tokens up and has bytes in a
comment that are no text; and the beginning of it, which lacks an operand in both of them. -/
theorem result_of_layout_add :
    let lines := [Bytes.ofString "ADD", Bytes.ofString "1", Bytes.ofString "10"]
    let lines' := [Bytes.ofString "; sum", Bytes.ofString " A\tD D ; " ++ [0xff, 0x3b],
      Bytes.ofString "1;0", Bytes.ofString " \t", Bytes.ofString "1 0"]
    (∃ program program',
      (assemble Catalog.builtIn ⟨lines, .endOfInput⟩).result = .ok program ∧
      (assemble Catalog.builtIn
        ⟨lines', .context (Bytes.ofString "in.asm") (some .endOfInput)⟩).result = .ok program' ∧
      program.words = program'.words ∧
      program.records.map (·.line) = [1, 2, 3] ∧ program'.records.map (·.line) = [2, 3, 5]) ∧
    ∃ fault, (assemble Catalog.builtIn ⟨lines'.take 4, .endOfInput⟩).result = .error fault ∧
      Fault.Corresponds (Source.tokens (lines.take 2)) (Source.tokens (lines'.take 4))
        (.unexpectedEnd (Bytes.ofString "ADD") 1 1) fault := by
  intro lines lines'
  have hbare : Source.bare lines = Source.bare lines' := by decide +kernel
  have hbare₂ : Source.bare (lines.take 2) = Source.bare (lines'.take 4) := by decide +kernel
  have hlines : (Source.tokens lines).map (·.line) = [1, 2, 3] := by decide +kernel
  have hlines' : (Source.tokens lines').map (·.line) = [2, 3, 5] := by decide +kernel
  constructor
  · rcases @result_of_layout Catalog.builtIn lines lines' .endOfInput
        (.context (Bytes.ofString "in.asm") (some .endOfInput)) hbare (Or.inl ⟨rfl, rfl⟩) with
      ⟨program, program', h, h', hwords, -, -, hrecords, hrecords'⟩ | ⟨fault, fault', h, -⟩
    · exact ⟨program, program', h, h', hwords, hrecords.trans hlines, hrecords'.trans hlines'⟩
    · cases h
  · rcases @result_of_layout Catalog.builtIn (lines.take 2) (lines'.take 4) .endOfInput .endOfInput
        hbare₂ (Or.inr rfl) with ⟨program, program', h, -⟩ | ⟨fault, fault', h, h', hsame⟩
    · cases h
    · cases h
      exact ⟨fault', h', hsame⟩

end OnePass
