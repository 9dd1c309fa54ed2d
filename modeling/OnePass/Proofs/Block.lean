import OnePass.Program
import OnePass.Proofs.Catalog

/-
**The grammar of a source.**

A source is a sequence of blocks.  A block is an instruction as a source writes it: the mnemonic,
and behind it one literal for every operand.  Nothing but its position in a block decides whether a
token is a mnemonic or an operand; a catalog may have mnemonics that look like literals.

While a source is being read its last block may still lack operands.  What has been read then is a
*parse*: complete blocks, and at most one block behind them that has only been started.

Main definitions:

* `OnePass.Source.Token` — a token and the line it stands on;
* `OnePass.Block` — an instruction with its operands, `OnePass.Block.tokens` what it is read from
  and `OnePass.Block.records` what it is translated to;
* `OnePass.Block.Complete`, `OnePass.Block.Started` — a block with all of its operands, and one that
  lacks some;
* `OnePass.SplitsInto` — **the grammar**: tokens that are a sequence of complete blocks;
* `OnePass.Parse` — complete blocks and a block that has been started.

Main results:

* `OnePass.Block.map_eq_of_flatMap_append_eq` — complete blocks are a prefix code;
* `OnePass.SplitsInto.unique` — there is at most one way to split tokens into blocks;
* `OnePass.Parse.tokens_place`, `OnePass.Parse.records_place` — what one more block adds to a parse.
-/

set_option relaxedAutoImplicit false
set_option autoImplicit false

namespace OnePass

/-- A token and the number of the line it stands on. -/
structure Source.Token where
  /-- The number of the line. -/
  line : Int
  /-- What is left of the line. -/
  text : Bytes
  deriving DecidableEq, Repr

open Source (Token)

/-! ### Blocks -/

/-- An instruction as a source writes it. -/
structure Block where
  /-- The instruction. -/
  instruction : Instruction
  /-- The number of the line with its mnemonic. -/
  line : Int
  /-- The operands behind it. -/
  operands : List Token
  deriving DecidableEq, Repr

namespace Block

/-- The tokens that a block is read from. -/
def tokens (block : Block) : List Token :=
  ⟨block.line, block.instruction.mnemonic⟩ :: block.operands

/-- The record of the mnemonic. -/
def headRecord (block : Block) : Record :=
  ⟨block.instruction.opcode, block.line, block.instruction.mnemonic, .opcode⟩

/-- The record of one operand. -/
def operandRecord (width : Nat) (block : Block) (operand : Token) : Record :=
  ⟨Word.pad operand.text width, operand.line, block.instruction.mnemonic, .operand⟩

/-- The records that a block is translated to, for words of the given width. -/
def records (width : Nat) (block : Block) : List Record :=
  block.headRecord :: block.operands.map (block.operandRecord width)

/-- The block with one more operand. -/
def push (block : Block) (operand : Token) : Block :=
  { block with operands := block.operands ++ [operand] }

@[simp] theorem instruction_push (block : Block) (operand : Token) :
    (block.push operand).instruction = block.instruction := rfl

@[simp] theorem operands_push (block : Block) (operand : Token) :
    (block.push operand).operands = block.operands ++ [operand] := rfl

@[simp] theorem tokens_push (block : Block) (operand : Token) :
    (block.push operand).tokens = block.tokens ++ [operand] := rfl

@[simp] theorem records_push (width : Nat) (block : Block) (operand : Token) :
    (block.push operand).records width =
      block.records width ++ [block.operandRecord width operand] := by
  simp only [records, operands_push, List.map_append, List.map_singleton, List.cons_append]
  rfl

@[simp] theorem length_tokens (block : Block) :
    block.tokens.length = 1 + block.operands.length := by
  rw [tokens, List.length_cons, Nat.add_comm]

/-- Every token of a block gives one record, with its line. -/
theorem map_line_records (width : Nat) (block : Block) :
    (block.records width).map (·.line) = block.tokens.map (·.line) := by
  simp [records, tokens, headRecord, operandRecord, Function.comp_def]

/-- The record of the mnemonic is that of an opcode, the others are those of operands. -/
theorem map_role_records (width : Nat) (block : Block) :
    (block.records width).map (·.role) =
      .opcode :: List.replicate block.operands.length .operand := by
  simp [records, headRecord, operandRecord, Function.comp_def, List.map_const']

/-- A block whose mnemonic the catalog knows and whose operands are literals. -/
structure Matches (catalog : Catalog) (block : Block) : Prop where
  /-- The mnemonic names the instruction. -/
  known : catalog.find? block.instruction.mnemonic = some block.instruction
  /-- The operands fit in a word. -/
  literals : ∀ operand ∈ block.operands, Word.Literal catalog.wordSize operand.text

/-- A block with all of its operands. -/
structure Complete (catalog : Catalog) (block : Block) : Prop extends Matches catalog block where
  /-- There are as many operands as the instruction takes. -/
  full : block.operands.length = block.instruction.arity

/-- A block that still lacks operands. -/
structure Started (catalog : Catalog) (block : Block) : Prop extends Matches catalog block where
  /-- There are fewer operands than the instruction takes. -/
  short : block.operands.length < block.instruction.arity

/-- The sum of the sizes of blocks that lack no operand: one word for every mnemonic, and one for
every operand that its instruction takes. -/
def sumSizes : List Block → Nat
  | [] => 0
  | block :: blocks => 1 + block.instruction.arity + sumSizes blocks

theorem Matches.push {catalog : Catalog} {block : Block} {operand : Token}
    (h : block.Matches catalog) (hlit : Word.Literal catalog.wordSize operand.text) :
    (block.push operand).Matches catalog := by
  refine ⟨h.known, ?_⟩
  intro t ht
  rcases List.mem_append.1 ht with ht | ht
  · exact h.literals t ht
  · rw [List.mem_singleton.1 ht]
    exact hlit

/-- Under a well-formed catalog a block is translated to words. -/
theorem Matches.ofWidth_word {catalog : Catalog} {block : Block} (hwf : catalog.WellFormed)
    (h : block.Matches catalog) {record : Record}
    (hr : record ∈ block.records catalog.wordSize) :
    Word.OfWidth catalog.wordSize record.word := by
  rcases List.mem_cons.1 hr with rfl | hr
  · exact hwf.opcode_ofWidth _ (Catalog.mem_of_find? h.known)
  · obtain ⟨operand, hoperand, rfl⟩ := List.mem_map.1 hr
    exact (h.literals operand hoperand).ofWidth_pad

/-- **Complete blocks are a prefix code.**  Let `f` write down one item for the mnemonic of a block
and one for each operand.  If the first item tells what the instruction is, and neither `rest` nor
`rest'` begins like a block, then complete blocks with `rest` behind them are written like others
with `rest'` behind them only if they are written alike one by one. -/
theorem map_eq_of_flatMap_append_eq {α β : Type} {catalog : Catalog} {f : Block → List α}
    {g : Block → β} {blocks blocks' : List Block} {rest rest' : List α}
    (hlength : ∀ b, (f b).length = 1 + b.operands.length)
    (hhead : ∀ b b', b.Complete catalog → b'.Complete catalog → (f b).head? = (f b').head? →
      b.instruction = b'.instruction)
    (hg : ∀ b b', b.instruction = b'.instruction → f b = f b' → g b = g b')
    (hrest : ∀ b, b.Complete catalog → rest.head? ≠ (f b).head?)
    (hrest' : ∀ b, b.Complete catalog → rest'.head? ≠ (f b).head?)
    (hblocks : ∀ b ∈ blocks, b.Complete catalog) (hblocks' : ∀ b ∈ blocks', b.Complete catalog)
    (h : blocks.flatMap f ++ rest = blocks'.flatMap f ++ rest') :
    blocks.map g = blocks'.map g := by
  have hfirst : ∀ (b : Block) (more : List α), (f b ++ more).head? = (f b).head? := by
    intro b more
    have hpos : 0 < (f b).length := by
      rw [hlength]
      omega
    obtain ⟨first, items, hitems⟩ := List.exists_cons_of_ne_nil (List.ne_nil_of_length_pos hpos)
    rw [hitems]
    rfl
  -- Both sides are read block by block: the first item tells the arity, and so where a block ends.
  induction blocks generalizing blocks' with
  | nil =>
      cases blocks' with
      | nil => rfl
      | cons b' bs' =>
          rw [List.flatMap_cons, List.append_assoc] at h
          refine absurd ?_ (hrest b' (hblocks' b' (List.mem_cons_self ..)))
          rw [← hfirst b', ← h]
          rfl
  | cons b bs ih =>
      have hb := hblocks b (List.mem_cons_self ..)
      cases blocks' with
      | nil =>
          rw [List.flatMap_cons, List.append_assoc] at h
          refine absurd ?_ (hrest' b hb)
          rw [← hfirst b, h]
          rfl
      | cons b' bs' =>
          have hb' := hblocks' b' (List.mem_cons_self ..)
          rw [List.flatMap_cons, List.flatMap_cons, List.append_assoc, List.append_assoc] at h
          have hinstruction : b.instruction = b'.instruction := by
            refine hhead b b' hb hb' ?_
            rw [← hfirst b, h, hfirst b']
          have hsame : (f b).length = (f b').length := by
            rw [hlength, hlength, hb.full, hb'.full, hinstruction]
          obtain ⟨hwritten, htail⟩ := List.append_inj h hsame
          rw [List.map_cons, List.map_cons, hg b b' hinstruction hwritten,
            ih (fun block hblock => hblocks block (List.mem_cons_of_mem _ hblock))
              (fun block hblock => hblocks' block (List.mem_cons_of_mem _ hblock)) htail]

end Block

/-! ### Sequences of blocks -/

/-- **The grammar of a source**: the tokens are those of the blocks, one block after another, and
every block is complete. -/
structure SplitsInto (catalog : Catalog) (tokens : List Token) (blocks : List Block) : Prop where
  /-- No block lacks an operand. -/
  complete : ∀ block ∈ blocks, block.Complete catalog
  /-- The blocks are written one after another. -/
  tokens_eq : tokens = blocks.flatMap Block.tokens

namespace SplitsInto

variable {catalog : Catalog} {tokens : List Token} {blocks : List Block}

/-- Every token gives one record, with its line. -/
theorem map_line_records (h : SplitsInto catalog tokens blocks) (width : Nat) :
    (blocks.flatMap (Block.records width)).map (·.line) = tokens.map (·.line) := by
  rw [h.tokens_eq, List.map_flatMap, List.map_flatMap]
  simp only [Block.map_line_records]

/-- The first record of every block is that of an opcode, the others are those of operands. -/
theorem map_role_records (h : SplitsInto catalog tokens blocks) (width : Nat) :
    (blocks.flatMap (Block.records width)).map (·.role) =
      blocks.flatMap fun block => .opcode :: List.replicate block.instruction.arity .operand := by
  rw [List.map_flatMap, List.flatMap_def, List.flatMap_def]
  refine congrArg List.flatten (List.map_congr_left ?_)
  intro block hblock
  rw [Block.map_role_records, (h.complete block hblock).full]

/-- There are as many tokens as the mnemonics and their arities say. -/
theorem length_eq (h : SplitsInto catalog tokens blocks) :
    tokens.length = Block.sumSizes blocks := by
  have hcomplete := h.complete
  rw [h.tokens_eq]
  clear h
  induction blocks with
  | nil => rfl
  | cons block blocks ih =>
      have hfull := (hcomplete block (List.mem_cons_self ..)).full
      rw [List.flatMap_cons, List.length_append, Block.length_tokens, hfull, Block.sumSizes,
        ih fun b hb => hcomplete b (List.mem_cons_of_mem _ hb)]

/-- **Tokens can be split into blocks in one way only.** -/
theorem unique {blocks' : List Block} (h : SplitsInto catalog tokens blocks)
    (h' : SplitsInto catalog tokens blocks') : blocks = blocks' := by
  have heq : blocks.flatMap Block.tokens ++ [] = blocks'.flatMap Block.tokens ++ [] := by
    rw [List.append_nil, List.append_nil, ← h.tokens_eq, ← h'.tokens_eq]
  have hhead : ∀ b b' : Block, b.Complete catalog → b'.Complete catalog →
      b.tokens.head? = b'.tokens.head? → b.instruction = b'.instruction := by
    intro b b' hb hb' hheads
    have hmnemonic : b.instruction.mnemonic = b'.instruction.mnemonic := by
      simpa [Block.tokens] using congrArg (Option.map Token.text) hheads
    have hknown := hb.known
    rw [hmnemonic, hb'.known] at hknown
    exact (Option.some.inj hknown).symm
  have hblock : ∀ b b' : Block, b.instruction = b'.instruction → b.tokens = b'.tokens →
      id b = id b' := by
    rintro ⟨i, line, operands⟩ ⟨i', line', operands'⟩ hi htokens
    simp_all [Block.tokens]
  simpa using Block.map_eq_of_flatMap_append_eq Block.length_tokens hhead hblock
    (fun _ _ => by simp [Block.tokens]) (fun _ _ => by simp [Block.tokens]) h.complete h'.complete
    heq

end SplitsInto

/-! ### Parses -/

/-- What has been read of a source: complete blocks, and at most one block behind them that has only
been started. -/
structure Parse (catalog : Catalog) where
  /-- The complete blocks. -/
  blocks : List Block
  /-- The block that still lacks operands, if there is one. -/
  last : Option Block
  /-- No block in front of the last one lacks an operand. -/
  complete : ∀ block ∈ blocks, block.Complete catalog
  /-- The last one does. -/
  started : ∀ block ∈ last, block.Started catalog

namespace Parse

variable {catalog : Catalog}

/-- Nothing has been read. -/
def empty (catalog : Catalog) : Parse catalog where
  blocks := []
  last := none
  complete := by simp
  started := by simp

/-- All blocks, complete or not. -/
def allBlocks (parse : Parse catalog) : List Block :=
  parse.blocks ++ parse.last.toList

/-- The tokens that have been read. -/
def tokens (parse : Parse catalog) : List Token :=
  parse.allBlocks.flatMap Block.tokens

/-- The records that they are translated to. -/
def records (parse : Parse catalog) : List Record :=
  parse.allBlocks.flatMap (Block.records catalog.wordSize)

theorem matches_of_mem {parse : Parse catalog} {block : Block} (h : block ∈ parse.allBlocks) :
    block.Matches catalog := by
  rcases List.mem_append.1 h with h | h
  · exact (parse.complete block h).toMatches
  · exact (parse.started block (Option.mem_toList.1 h)).toMatches

/-- A parse without a started block splits its tokens. -/
theorem splitsInto {parse : Parse catalog} (h : parse.last = none) :
    SplitsInto catalog parse.tokens parse.blocks :=
  ⟨parse.complete, by simp [tokens, allBlocks, h]⟩

/-- Complete blocks with one more block behind them, which may lack operands. -/
def place (blocks : List Block) (block : Block) (hblocks : ∀ b ∈ blocks, b.Complete catalog)
    (hblock : block.Matches catalog) (hle : block.operands.length ≤ block.instruction.arity) :
    Parse catalog :=
  if hfull : block.operands.length = block.instruction.arity then
    { blocks := blocks ++ [block]
      last := none
      complete := by
        intro b hb
        rcases List.mem_append.1 hb with hb | hb
        · exact hblocks b hb
        · rw [List.mem_singleton.1 hb]
          exact ⟨hblock, hfull⟩
      started := by simp }
  else
    { blocks := blocks
      last := some block
      complete := hblocks
      started := by
        intro b hb
        rw [← Option.mem_some.1 hb]
        exact ⟨hblock, by omega⟩ }

section

variable {blocks : List Block} {block : Block} {hblocks : ∀ b ∈ blocks, b.Complete catalog}
  {hblock : block.Matches catalog} {hle : block.operands.length ≤ block.instruction.arity}

theorem allBlocks_place :
    (place blocks block hblocks hblock hle).allBlocks = blocks ++ [block] := by
  unfold place
  split <;> simp [allBlocks]

theorem tokens_place :
    (place blocks block hblocks hblock hle).tokens =
      blocks.flatMap Block.tokens ++ block.tokens := by
  rw [tokens, allBlocks_place, List.flatMap_append, List.flatMap_singleton]

theorem records_place :
    (place blocks block hblocks hblock hle).records =
      blocks.flatMap (Block.records catalog.wordSize) ++ block.records catalog.wordSize := by
  rw [records, allBlocks_place, List.flatMap_append, List.flatMap_singleton]

theorem last_place :
    (place blocks block hblocks hblock hle).last =
      if block.operands.length = block.instruction.arity then none else some block := by
  unfold place
  split <;> rfl

end

end Parse

end OnePass
