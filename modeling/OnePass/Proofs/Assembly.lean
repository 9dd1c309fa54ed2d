import OnePass.Assembler
import OnePass.Proofs.Machine

/-
**What an assembly accepts, and what it makes of it.**

The assembler reads line by line, counts lines, skips blank ones and feeds the token of every other
line to the machine.  This module takes these apart.  A source has a list of numbered tokens;
feeding them to the machine either succeeds or stops at the first token that is refused; and what
becomes of a source follows from that alone.  With the invariant of the machine this gives the
translation that the assembler performs: it accepts exactly the sources whose tokens are a sequence
of complete blocks, and the program is the translation of these blocks, word for word.

Main definitions:

* `OnePass.Source.tokensFrom`, `OnePass.Source.tokens` — the numbered tokens of a source;
* `OnePass.Machine.feedAll` — many tokens, up to the first one that is refused;
* `OnePass.assembleFrom` — the assembly of the lines behind those already read, without observers.

Main results:

* `OnePass.Machine.Reads.feedAll` — accepted tokens keep the invariant of the machine;
* `OnePass.Machine.feedAll_blocks` — the machine accepts complete blocks;
* `OnePass.assembleLines_fst` — observers do not matter;
* `OnePass.assembleFrom_of_accepted`, `OnePass.assembleFrom_of_refused` — **what becomes of a
  source** whose tokens are all accepted, and of one with a token that is refused;
* `OnePass.result_assembleFrom` — the tokens and the end of a source decide what becomes of it;
* `OnePass.assemble_eq_ok_iff_blocks` — **the assembler accepts exactly sequences of complete
  blocks**, and translates them word for word.
-/

set_option relaxedAutoImplicit false
set_option autoImplicit false

namespace OnePass

open Source (Token)

/-! ### The tokens of a source -/

namespace Source

/-- The tokens of lines, the first of which has the given number: what is left of every line that is
not blank, together with its number. -/
def tokensFrom (number : Nat) (lines : List Bytes) : List Token :=
  ((lines.zipIdx number).map fun entry => (⟨entry.2, sanitize entry.1⟩ : Token)).filter
    fun token => token.text ≠ []

/-- **The tokens of a source**, whose lines are numbered from one. -/
def tokens (lines : List Bytes) : List Token :=
  tokensFrom 1 lines

variable {number : Nat} {line : Bytes} {lines : List Bytes}

@[simp] theorem tokensFrom_nil : tokensFrom number [] = [] := rfl

theorem tokensFrom_cons_of_blank (h : sanitize line = []) :
    tokensFrom number (line :: lines) = tokensFrom (number + 1) lines := by
  simp [tokensFrom, h]

theorem tokensFrom_cons_of_ne (h : sanitize line ≠ []) :
    tokensFrom number (line :: lines) =
      ⟨number, sanitize line⟩ :: tokensFrom (number + 1) lines := by
  simp [tokensFrom, h]

theorem tokensFrom_append (number : Nat) (lines more : List Bytes) :
    tokensFrom number (lines ++ more) =
      tokensFrom number lines ++ tokensFrom (number + lines.length) more := by
  simp [tokensFrom, List.zipIdx_append]

theorem tokens_append (lines more : List Bytes) :
    tokens (lines ++ more) = tokens lines ++ tokensFrom (1 + lines.length) more :=
  tokensFrom_append 1 lines more

/-- There are as many tokens as lines that are not blank. -/
theorem length_tokensFrom (number : Nat) (lines : List Bytes) :
    (tokensFrom number lines).length = lines.countP fun line => sanitize line ≠ [] := by
  induction lines generalizing number with
  | nil => rfl
  | cons line lines ih =>
      by_cases h : sanitize line = []
      · rw [tokensFrom_cons_of_blank h, ih, List.countP_cons_of_neg (by simp [h])]
      · rw [tokensFrom_cons_of_ne h, List.length_cons, ih, List.countP_cons_of_pos (by simp [h])]

theorem length_tokensFrom_of_ne (h : ∀ line ∈ lines, sanitize line ≠ []) :
    (tokensFrom number lines).length = lines.length := by
  rw [length_tokensFrom, List.countP_eq_length]
  intro line hline
  simpa using h line hline

theorem exists_mem_of_mem_tokensFrom {token : Token} (h : token ∈ tokensFrom number lines) :
    ∃ line ∈ lines, token.text = sanitize line := by
  obtain ⟨entry, hentry, rfl⟩ := List.mem_map.1 (List.mem_filter.1 h).1
  exact ⟨entry.1, List.fst_mem_of_mem_zipIdx hentry, rfl⟩

/-- **A token stands on the line that it names**, behind the tokens of the lines in front of that
line and in front of those of the lines behind it. -/
theorem exists_line_of_tokensFrom_eq {before after : List Token} {token : Token}
    (h : tokensFrom number lines = before ++ token :: after) :
    ∃ k line, lines[k]? = some line ∧ sanitize line = token.text ∧ sanitize line ≠ [] ∧
      token.line = (number + k : Nat) ∧ before = tokensFrom number (lines.take k) ∧
      after = tokensFrom (number + k + 1) (lines.drop (k + 1)) := by
  induction lines generalizing number before with
  | nil => simp at h
  | cons line lines ih =>
      -- If the token stands behind the first line, it stands one line further on.
      have further : ∀ before', before = tokensFrom number [line] ++ before' →
          tokensFrom (number + 1) lines = before' ++ token :: after →
          ∃ k found, (line :: lines)[k]? = some found ∧ sanitize found = token.text ∧
            sanitize found ≠ [] ∧ token.line = (number + k : Nat) ∧
            before = tokensFrom number ((line :: lines).take k) ∧
            after = tokensFrom (number + k + 1) ((line :: lines).drop (k + 1)) := by
        rintro before' rfl hrest
        obtain ⟨k, found, hline, htext, hne, hnumber, hbefore, hafter⟩ := ih hrest
        have hshift : number + 1 + k = number + (k + 1) := by omega
        rw [hshift] at hnumber hafter
        refine ⟨k + 1, found, hline, htext, hne, hnumber, ?_, hafter⟩
        rw [hbefore, List.take_succ_cons]
        exact (tokensFrom_append number [line] (lines.take k)).symm
      by_cases hblank : sanitize line = []
      · rw [tokensFrom_cons_of_blank hblank] at h
        exact further before (by rw [tokensFrom_cons_of_blank hblank]; rfl) h
      · rw [tokensFrom_cons_of_ne hblank] at h
        cases before with
        | nil =>
            obtain ⟨rfl, rfl⟩ := List.cons.inj h
            exact ⟨0, line, rfl, rfl, hblank, rfl, rfl, rfl⟩
        | cons first before =>
            obtain ⟨rfl, hrest⟩ := List.cons.inj h
            exact further before (by rw [tokensFrom_cons_of_ne hblank]; rfl) hrest

end Source

/-! ### Feeding many tokens -/

namespace Machine

/-- The machine behind many tokens, unless one is refused. -/
def feedAll (m : Machine) : List Token → Except Fault Machine
  | [] => .ok m
  | token :: tokens =>
    match m.feed token.text token.line with
    | .error fault => .error fault
    | .ok (_, m') => m'.feedAll tokens

variable {m m' : Machine} {fault : Fault} {token : Token} {tokens : List Token}

theorem feedAll_cons_of_ok {record : Record}
    (h : m.feed token.text token.line = .ok (record, m')) :
    m.feedAll (token :: tokens) = m'.feedAll tokens := by
  simp only [feedAll, h]

theorem feedAll_cons_of_error (h : m.feed token.text token.line = .error fault) :
    m.feedAll (token :: tokens) = .error fault := by
  simp only [feedAll, h]

/-- The first of accepted tokens is accepted, and so are those behind it. -/
theorem exists_feed_of_feedAll_cons (h : m.feedAll (token :: tokens) = .ok m') :
    ∃ record m₁, m.feed token.text token.line = .ok (record, m₁) ∧ m₁.feedAll tokens = .ok m' := by
  cases hfeed : m.feed token.text token.line with
  | error fault =>
      rw [feedAll_cons_of_error hfeed] at h
      cases h
  | ok next =>
      rw [feedAll_cons_of_ok hfeed] at h
      exact ⟨next.1, next.2, rfl, h⟩

theorem feedAll_append_of_ok {more : List Token} (h : m.feedAll tokens = .ok m') :
    m.feedAll (tokens ++ more) = m'.feedAll more := by
  induction tokens generalizing m with
  | nil =>
      cases h
      rfl
  | cons token tokens ih =>
      obtain ⟨record, m₁, hfeed, hrest⟩ := exists_feed_of_feedAll_cons h
      rw [List.cons_append, feedAll_cons_of_ok hfeed, ih hrest]

/-- If not all tokens are accepted, there is a first one that is refused. -/
theorem exists_refused_token (h : m.feedAll tokens = .error fault) :
    ∃ before token after m', tokens = before ++ token :: after ∧ m.feedAll before = .ok m' ∧
      m'.feed token.text token.line = .error fault := by
  induction tokens generalizing m with
  | nil => cases h
  | cons token tokens ih =>
      cases hfeed : m.feed token.text token.line with
      | error fault' =>
          rw [feedAll_cons_of_error hfeed] at h
          cases h
          exact ⟨[], token, tokens, m, rfl, rfl, hfeed⟩
      | ok next =>
          rw [feedAll_cons_of_ok hfeed] at h
          obtain ⟨before, refused, after, m', rfl, hbefore, hrefused⟩ := ih h
          refine ⟨token :: before, refused, after, m', rfl, ?_, hrefused⟩
          rw [feedAll_cons_of_ok hfeed, hbefore]

/-- Accepted tokens keep the invariant, and are the next ones read. -/
theorem Reads.feedAll {catalog : Catalog} {parse : Parse catalog} (h : m.Reads parse)
    (hfeed : m.feedAll tokens = .ok m') :
    ∃ parse' : Parse catalog, m'.Reads parse' ∧ parse'.tokens = parse.tokens ++ tokens := by
  induction tokens generalizing m parse with
  | nil =>
      cases hfeed
      exact ⟨parse, h, by simp⟩
  | cons token tokens ih =>
      obtain ⟨record, m₁, htoken, hrest⟩ := exists_feed_of_feedAll_cons hfeed
      obtain ⟨parse₁, h₁, htokens₁⟩ := h.feed htoken
      obtain ⟨parse₂, h₂, htokens₂⟩ := ih h₁ hrest
      refine ⟨parse₂, h₂, ?_⟩
      rw [htokens₂, htokens₁, List.append_assoc]
      rfl

/-- An instruction that waits accepts as many literals as it lacks operands. -/
theorem feedAll_literals {pending : Pending} (hpending : m.pending = some pending)
    (hpos : 0 < pending.remaining) (hle : tokens.length ≤ pending.remaining)
    (hlit : ∀ token ∈ tokens, Word.Literal m.catalog.wordSize token.text) :
    ∃ m', m.feedAll tokens = .ok m' ∧ m'.catalog = m.catalog ∧ m'.startLine = m.startLine ∧
      m'.pending =
        if tokens.length = pending.remaining then none
        else some { pending with remaining := pending.remaining - tokens.length } := by
  induction tokens generalizing m pending with
  | nil =>
      refine ⟨m, rfl, rfl, rfl, ?_⟩
      rw [hpending, List.length_nil, if_neg (by omega)]
      rfl
  | cons token tokens ih =>
      have htoken := hlit token (List.mem_cons_self ..)
      have hfeed : m.feed token.text token.line =
          .ok (_, m.supply pending token.text token.line) := feed_of_literal hpending htoken
      rw [List.length_cons] at hle
      by_cases hlast : pending.remaining - 1 = 0
      · -- The last operand that is missing: there is no room for further tokens.
        obtain rfl : tokens = [] := List.eq_nil_of_length_eq_zero (by omega)
        refine ⟨m.supply pending token.text token.line, feedAll_cons_of_ok hfeed, rfl, rfl, ?_⟩
        rw [List.length_cons, List.length_nil, if_pos (by omega)]
        exact if_pos hlast
      · have hpending' : (m.supply pending token.text token.line).pending =
            some { pending with remaining := pending.remaining - 1 } := if_neg hlast
        obtain ⟨m', hrest, hcatalog, hstart, hafter⟩ :=
          ih hpending' (Nat.pos_of_ne_zero hlast) (Nat.le_sub_one_of_lt hle)
            fun t ht => hlit t (List.mem_cons_of_mem _ ht)
        refine ⟨m', (feedAll_cons_of_ok hfeed).trans hrest, hcatalog, hstart, ?_⟩
        rw [hafter, List.length_cons]
        by_cases hfull : tokens.length = pending.remaining - 1
        · rw [if_pos hfull, if_pos (by omega)]
        · rw [if_neg hfull, if_neg (by omega)]
          congr 2
          simp only
          omega

/-- Nothing but literals is accepted while operands are missing. -/
theorem literals_of_feedAll {pending : Pending} (hpending : m.pending = some pending)
    (hle : tokens.length ≤ pending.remaining) (h : m.feedAll tokens = .ok m') :
    ∀ token ∈ tokens, Word.Literal m.catalog.wordSize token.text := by
  induction tokens generalizing m pending with
  | nil => simp
  | cons token tokens ih =>
      rw [List.length_cons] at hle
      -- A first token that is no literal would be refused, so the others are accepted behind one.
      by_cases hlit : Word.Literal m.catalog.wordSize token.text
      · have hfeed : m.feed token.text token.line =
            .ok (_, m.supply pending token.text token.line) := feed_of_literal hpending hlit
        rw [feedAll_cons_of_ok hfeed] at h
        refine List.forall_mem_cons.2 ⟨hlit, ?_⟩
        by_cases hlast : pending.remaining - 1 = 0
        · obtain rfl : tokens = [] := List.eq_nil_of_length_eq_zero (by omega)
          simp
        · have hpending' : (m.supply pending token.text token.line).pending =
              some { pending with remaining := pending.remaining - 1 } := if_neg hlast
          have hrest := ih hpending' (Nat.le_sub_one_of_lt hle) h
          exact hrest
      · rw [feedAll_cons_of_error (feed_of_not_literal hpending hlit)] at h
        cases h

/-- Between instructions the machine accepts a complete block, and is between instructions
again. -/
theorem feedAll_block {block : Block} (hpending : m.pending = none)
    (hblock : block.Complete m.catalog) :
    ∃ m', m.feedAll block.tokens = .ok m' ∧ m'.catalog = m.catalog ∧ m'.pending = none := by
  have hfeed : m.feed block.instruction.mnemonic block.line =
      .ok (_, m.begin block.instruction block.line) := feed_of_find? hpending hblock.known
  have hfull := hblock.full
  -- Without operands the machine does not wait at all behind the mnemonic.
  by_cases harity : block.instruction.arity = 0
  · have hnil : block.operands = [] := List.eq_nil_of_length_eq_zero (by omega)
    refine ⟨m.begin block.instruction block.line, ?_, rfl, if_pos harity⟩
    rw [Block.tokens, hnil]
    exact feedAll_cons_of_ok hfeed
  · have hbegun : (m.begin block.instruction block.line).pending =
        some ⟨block.instruction, block.instruction.arity⟩ := if_neg harity
    obtain ⟨m', hrest, hcatalog, -, hafter⟩ :=
      feedAll_literals hbegun (Nat.pos_of_ne_zero harity) (Nat.le_of_eq hfull) hblock.literals
    refine ⟨m', (feedAll_cons_of_ok hfeed).trans hrest, hcatalog, ?_⟩
    rw [hafter, if_pos hfull]

/-- **The machine accepts complete blocks**, one after another. -/
theorem feedAll_blocks {blocks : List Block} (hpending : m.pending = none)
    (hblocks : ∀ block ∈ blocks, block.Complete m.catalog) :
    ∃ m', m.feedAll (blocks.flatMap Block.tokens) = .ok m' ∧ m'.pending = none := by
  induction blocks generalizing m with
  | nil => exact ⟨m, rfl, hpending⟩
  | cons block blocks ih =>
      obtain ⟨m₁, h₁, hcatalog, hpending₁⟩ :=
        feedAll_block hpending (hblocks block (List.mem_cons_self ..))
      obtain ⟨m₂, h₂, hpending₂⟩ := ih hpending₁ fun b hb =>
        hcatalog ▸ hblocks b (List.mem_cons_of_mem _ hb)
      refine ⟨m₂, ?_, hpending₂⟩
      rw [List.flatMap_cons, feedAll_append_of_ok h₁, h₂]

end Machine

/-! ### The assembly of a source -/

/-- What becomes of the lines behind the first `number` ones. -/
def assembleFrom (ending : Fault) (m : Machine) (number : Nat) (lines : List Bytes) : Assembly :=
  (assembleLines (fun _ seen => seen) ending m number () lines).1

theorem assemble_eq_assembleFrom (catalog : Catalog) (source : LineSource) :
    assemble catalog source =
      assembleFrom source.ending { catalog := catalog } 0 source.lines := rfl

/-- **What becomes of a source does not depend on who observes it.** -/
theorem assembleLines_fst {σ : Type} (watch : Event → σ → σ) (seen : σ) (ending : Fault)
    (m : Machine) (number : Nat) (lines : List Bytes) :
    (assembleLines watch ending m number seen lines).1 = assembleFrom ending m number lines := by
  unfold assembleFrom
  induction lines generalizing m number seen with
  | nil => rfl
  | cons line lines ih =>
      unfold assembleLines
      split
      · exact ih seen m (number + 1)
      · split
        · rfl
        · exact ih _ _ (number + 1)

/-- The fault at the end of a source, behind whose last line the machine is `m`. -/
def endFault (ending : Fault) (m : Machine) : Option Fault :=
  if ending.isEndOfInput then m.finish else some (readFault ending)

section

variable {ending fault : Fault} {m m' : Machine} {number : Nat} {line : Bytes} {lines : List Bytes}

theorem assembleFrom_nil :
    assembleFrom ending m number [] = ⟨m.program, endFault ending m, ⟨[], ending⟩⟩ := rfl

theorem assembleFrom_cons_of_blank (h : Source.sanitize line = []) :
    assembleFrom ending m number (line :: lines) = assembleFrom ending m (number + 1) lines := by
  simp only [assembleFrom, assembleLines, h]

theorem assembleFrom_cons_of_ok {record : Record} (hne : Source.sanitize line ≠ [])
    (hfeed : m.feed (Source.sanitize line) (number + 1 : Nat) = .ok (record, m')) :
    assembleFrom ending m number (line :: lines) = assembleFrom ending m' (number + 1) lines := by
  obtain ⟨b, token, htoken⟩ := List.exists_cons_of_ne_nil hne
  rw [htoken] at hfeed
  simp only [assembleFrom, assembleLines, htoken, hfeed]

theorem assembleFrom_cons_of_error (hne : Source.sanitize line ≠ [])
    (hfeed : m.feed (Source.sanitize line) (number + 1 : Nat) = .error fault) :
    assembleFrom ending m number (line :: lines) =
      ⟨m.program, some fault, ⟨lines, ending⟩⟩ := by
  obtain ⟨b, token, htoken⟩ := List.exists_cons_of_ne_nil hne
  rw [htoken] at hfeed
  simp only [assembleFrom, assembleLines, htoken, hfeed]

/-- Lines whose tokens are accepted hand their machine on to the lines behind them. -/
theorem assembleFrom_append (more : List Bytes)
    (h : m.feedAll (Source.tokensFrom (number + 1) lines) = .ok m') :
    assembleFrom ending m number (lines ++ more) =
      assembleFrom ending m' (number + lines.length) more := by
  induction lines generalizing m number with
  | nil =>
      cases h
      rfl
  | cons line lines ih =>
      have hnumber : number + (line :: lines).length = number + 1 + lines.length := by
        rw [List.length_cons]
        omega
      rw [List.cons_append, hnumber]
      by_cases hblank : Source.sanitize line = []
      · rw [Source.tokensFrom_cons_of_blank hblank] at h
        rw [assembleFrom_cons_of_blank hblank, ih h]
      · rw [Source.tokensFrom_cons_of_ne hblank] at h
        obtain ⟨record, m₁, hfeed, hrest⟩ := Machine.exists_feed_of_feedAll_cons h
        rw [assembleFrom_cons_of_ok hblank hfeed, ih hrest]

/-- **A source whose tokens are all accepted** is read to its end, and the machine decides. -/
theorem assembleFrom_of_accepted
    (h : m.feedAll (Source.tokensFrom (number + 1) lines) = .ok m') :
    assembleFrom ending m number lines = ⟨m'.program, endFault ending m', ⟨[], ending⟩⟩ := by
  have happend : assembleFrom ending m number (lines ++ []) = _ := assembleFrom_append [] h
  rwa [List.append_nil, assembleFrom_nil] at happend

/-- **A source with a token that is refused** is read up to its line, and the fault is that of the
machine. -/
theorem assembleFrom_of_refused {k : Nat} (hline : lines[k]? = some line)
    (hbefore : m.feedAll (Source.tokensFrom (number + 1) (lines.take k)) = .ok m')
    (hne : Source.sanitize line ≠ [])
    (hfeed : m'.feed (Source.sanitize line) (number + k + 1 : Nat) = .error fault) :
    assembleFrom ending m number lines =
      ⟨m'.program, some fault, ⟨lines.drop (k + 1), ending⟩⟩ := by
  obtain ⟨hk, hget⟩ := List.getElem?_eq_some_iff.1 hline
  have hsplit : lines = lines.take k ++ line :: lines.drop (k + 1) := by
    rw [← hget, List.getElem_cons_drop, List.take_append_drop]
  have hlength : (lines.take k).length = k := List.length_take_of_le (Nat.le_of_lt hk)
  rw [hsplit, assembleFrom_append _ hbefore, hlength, assembleFrom_cons_of_error hne hfeed,
    ← hsplit]

/-- If not all tokens of a source are accepted, there is a first line that is refused. -/
theorem exists_refused_line
    (h : m.feedAll (Source.tokensFrom (number + 1) lines) = .error fault) :
    ∃ k line m', lines[k]? = some line ∧
      m.feedAll (Source.tokensFrom (number + 1) (lines.take k)) = .ok m' ∧
      Source.sanitize line ≠ [] ∧
      m'.feed (Source.sanitize line) (number + k + 1 : Nat) = .error fault := by
  obtain ⟨before, token, after, m', htokens, hbefore, hfeed⟩ := Machine.exists_refused_token h
  obtain ⟨k, line, hline, htext, hne, hnumber, rfl, -⟩ :=
    Source.exists_line_of_tokensFrom_eq htokens
  refine ⟨k, line, m', hline, hbefore, hne, ?_⟩
  rw [htext, ← hfeed, hnumber]
  congr 2
  omega

/-- The result of a source whose tokens are used up or refused, as the machine has it. -/
def resultAt (ending : Fault) : Except Fault Machine → Except Fault Program
  | .error fault => .error fault
  | .ok m =>
    match endFault ending m with
    | none => .ok m.program
    | some fault => .error fault

/-- **What becomes of a source is decided by its tokens and its end.** -/
theorem result_assembleFrom :
    (assembleFrom ending m number lines).result =
      resultAt ending (m.feedAll (Source.tokensFrom (number + 1) lines)) := by
  cases hfeed : m.feedAll (Source.tokensFrom (number + 1) lines) with
  | error fault =>
      obtain ⟨k, line, m', hline, hbefore, hne, hrefused⟩ := exists_refused_line hfeed
      rw [assembleFrom_of_refused hline hbefore hne hrefused]
      rfl
  | ok m' =>
      rw [assembleFrom_of_accepted hfeed]
      rfl

/-- Failures that count as the end of the input are not told apart. -/
theorem result_of_isEndOfInput {catalog : Catalog} (h : ending.isEndOfInput = true) :
    (assemble catalog ⟨lines, ending⟩).result =
      (assemble catalog ⟨lines, .endOfInput⟩).result := by
  have hend : ∀ m, endFault ending m = endFault .endOfInput m := fun m => if_pos h
  rw [assemble_eq_assembleFrom, assemble_eq_assembleFrom, result_assembleFrom, result_assembleFrom]
  simp only [resultAt, hend]

theorem endFault_eq_none_iff :
    endFault ending m = none ↔ ending.isEndOfInput = true ∧ m.pending = none := by
  unfold endFault Machine.finish
  split
  · next heof => simp [heof]
  · next heof => simp [heof]

/-- An assembly goes well exactly if all tokens are accepted, the source is used up, and no
instruction waits then. -/
theorem result_assembleFrom_eq_ok_iff {program : Program} :
    (assembleFrom ending m number lines).result = .ok program ↔
      ∃ m', m.feedAll (Source.tokensFrom (number + 1) lines) = .ok m' ∧
        ending.isEndOfInput = true ∧ m'.pending = none ∧ m'.program = program := by
  rw [result_assembleFrom]
  cases m.feedAll (Source.tokensFrom (number + 1) lines) with
  | error fault => simp [resultAt]
  | ok m' =>
      simp only [resultAt, Except.ok.injEq, exists_eq_left']
      rw [← and_assoc, ← endFault_eq_none_iff]
      cases endFault ending m' with
      | none => simp
      | some fault => simp

/-- **A source that is used up has a fault of one of three kinds**, if it has one. -/
theorem fault_of_result_assembleFrom (heof : ending.isEndOfInput = true)
    (h : (assembleFrom ending m number lines).result = .error fault) :
    (∃ line token, fault = .unknownCommand line token) ∨
      (∃ mnemonic line missing, fault = .unexpectedEnd mnemonic line missing) ∨
      ∃ line mnemonic text width, fault = .invalidArgument line mnemonic text width := by
  rw [result_assembleFrom] at h
  cases hfeed : m.feedAll (Source.tokensFrom (number + 1) lines) with
  | error refusal =>
      rw [hfeed] at h
      cases h
      obtain ⟨before, token, after, m', -, -, hrefused⟩ := Machine.exists_refused_token hfeed
      rcases Machine.feed_eq_error_iff.1 hrefused with ⟨-, -, rfl⟩ | ⟨pending, -, -, rfl⟩
      · exact Or.inl ⟨_, _, rfl⟩
      · exact Or.inr (Or.inr ⟨_, _, _, _, rfl⟩)
  | ok m' =>
      -- All tokens are accepted, so an instruction waits at the end.
      rw [hfeed] at h
      simp only [resultAt, endFault, heof, if_true, Machine.finish] at h
      cases hpending : m'.pending with
      | none =>
          rw [hpending] at h
          cases h
      | some pending =>
          rw [hpending] at h
          cases h
          exact Or.inr (Or.inl ⟨_, _, _, rfl⟩)

end

/-! ### Translation -/

section

variable {catalog : Catalog} {source : LineSource} {program : Program}

/-- A program is the translation of complete blocks. -/
theorem exists_blocks_of_assemble (h : (assemble catalog source).result = .ok program) :
    ∃ blocks, SplitsInto catalog (Source.tokens source.lines) blocks ∧
      program.records = blocks.flatMap (Block.records catalog.wordSize) := by
  rw [assemble_eq_assembleFrom] at h
  obtain ⟨m, hfeed, -, hpending, rfl⟩ := result_assembleFrom_eq_ok_iff.1 h
  -- The machine stands behind a parse of all tokens, and does not wait: no block has only started.
  obtain ⟨parse, hreads, htokens⟩ := (Machine.reads_empty catalog).feedAll hfeed
  have hlast := hreads.last_eq_none hpending
  refine ⟨parse.blocks, ?_, ?_⟩
  · have hsplit := Parse.splitsInto hlast
    rwa [htokens] at hsplit
  · rw [hreads.records_eq, Parse.records, Parse.allBlocks, hlast]
    simp

/-- Complete blocks are assembled. -/
theorem assemble_of_blocks {blocks : List Block} (heof : source.ending.isEndOfInput = true)
    (h : SplitsInto catalog (Source.tokens source.lines) blocks) :
    ∃ program, (assemble catalog source).result = .ok program := by
  have hstart : ({ catalog := catalog } : Machine).pending = none := rfl
  obtain ⟨m, hfeed, hpending⟩ := Machine.feedAll_blocks hstart h.complete
  rw [← h.tokens_eq] at hfeed
  refine ⟨m.program, ?_⟩
  rw [assemble_eq_assembleFrom]
  exact result_assembleFrom_eq_ok_iff.2 ⟨m, hfeed, heof, hpending, rfl⟩

end

/-- **The assembler accepts exactly sequences of complete blocks, and translates them word for
word.**  The blocks are the only ones that the tokens of the source split into, every token gives
one record, and whether it is an opcode or an operand is decided by its position in its block. -/
theorem assemble_eq_ok_iff_blocks (catalog : Catalog) (source : LineSource)
    (heof : source.ending.isEndOfInput = true) :
    ((∃ program, (assemble catalog source).result = .ok program) ↔
      ∃ blocks, SplitsInto catalog (Source.tokens source.lines) blocks) ∧
    ∀ program, (assemble catalog source).result = .ok program →
      ∃ blocks, SplitsInto catalog (Source.tokens source.lines) blocks ∧
        (∀ blocks', SplitsInto catalog (Source.tokens source.lines) blocks' → blocks' = blocks) ∧
        program.records = blocks.flatMap (Block.records catalog.wordSize) ∧
        program.records.map (·.line) = (Source.tokens source.lines).map (·.line) ∧
        program.records.map (·.role) = blocks.flatMap (fun block =>
          .opcode :: List.replicate block.instruction.arity .operand) ∧
        program.size = source.lines.countP (fun line => Source.sanitize line ≠ []) ∧
        program.size = Block.sumSizes blocks := by
  constructor
  · constructor
    · rintro ⟨program, h⟩
      obtain ⟨blocks, hsplit, -⟩ := exists_blocks_of_assemble h
      exact ⟨blocks, hsplit⟩
    · rintro ⟨blocks, hsplit⟩
      exact assemble_of_blocks heof hsplit
  · intro program h
    obtain ⟨blocks, hsplit, hrecords⟩ := exists_blocks_of_assemble h
    have hlines := hsplit.map_line_records catalog.wordSize
    rw [← hrecords] at hlines
    have hsize : program.size = (Source.tokens source.lines).length := by
      rw [← Program.length_records, ← List.length_map (·.line), hlines, List.length_map]
    refine ⟨blocks, hsplit, fun _ hsplit' => hsplit'.unique hsplit, hrecords, hlines, ?_, ?_, ?_⟩
    · rw [hrecords]
      exact hsplit.map_role_records catalog.wordSize
    · rw [hsize, Source.tokens, Source.length_tokensFrom]
    · rw [hsize, hsplit.length_eq]

/-- A catalog with a mnemonic that is a literal as well: the first and the third token are
mnemonics, the others, of the same digits, are operands. -/
theorem assemble_eq_ok_iff_blocks_literal_mnemonic :
    let table : Table := ⟨[], 2, [⟨Bytes.ofString "1", Bytes.ofString "11", 1⟩]⟩
    let catalog : Catalog := ⟨[], 2, [⟨Bytes.ofString "1", Bytes.ofString "11", 1⟩]⟩
    let source : LineSource :=
      ⟨[Bytes.ofString "1", Bytes.ofString "; one", Bytes.ofString " 1", Bytes.ofString "1;",
        Bytes.ofString "1\t0"], .endOfInput⟩
    table.build = .ok catalog ∧ source.ending.isEndOfInput = true ∧
      (∃ blocks, SplitsInto catalog (Source.tokens source.lines) blocks) ∧
      (assemble catalog source).program.records =
        [⟨Bytes.ofString "11", 1, Bytes.ofString "1", .opcode⟩,
          ⟨Bytes.ofString "01", 3, Bytes.ofString "1", .operand⟩,
          ⟨Bytes.ofString "11", 4, Bytes.ofString "1", .opcode⟩,
          ⟨Bytes.ofString "10", 5, Bytes.ofString "1", .operand⟩] :=
  ⟨rfl, rfl, (assemble_eq_ok_iff_blocks _ _ rfl).1.1 ⟨_, rfl⟩, rfl⟩

end OnePass
