import Mathlib.Algebra.Group.Nat.Defs
import Mathlib.Data.List.Induction
import OnePass.Proofs.Machine

/-
**The numbers that operands stand for.**

A source writes an operand as a binary literal with as many digits as it likes, and the machine
makes a memory word of it.  This is an encoding of numbers: every number that fits in a word has a
literal, a literal and its word are the same number, and two literals become the same word exactly
if they are the same number.  A word is its own literal, so nothing changes if it is written back.

Main definitions:

* `OnePass.Word.ofNat` — the word of a number;
* `OnePass.Machine.Awaits`, `OnePass.Machine.Emits` — a machine that waits for an operand, and the
  word that a literal adds to its program.

Main results:

* `OnePass.Word.value_ofNat`, `OnePass.Word.OfWidth.ofNat_value` — words of one width are the
  numbers below a power of two;
* `OnePass.Word.Literal.pad_eq_ofNat` — a padded literal is the word of its number;
* `OnePass.Machine.Awaits.emits_iff` — what a machine that waits makes of a text;
* `OnePass.Machine.operand_encoding` — **operands encode exactly the numbers that fit in a word**.
-/

set_option relaxedAutoImplicit false
set_option autoImplicit false

namespace OnePass

namespace Word

/-! ### Words and numbers -/

/-- The number that one digit stands for. -/
def digitValue (b : UInt8) : Nat := if b = digitOne then 1 else 0

/-- The digit that stands for the parity of a number. -/
def digitOf (n : Nat) : UInt8 := if n % 2 = 1 then digitOne else digitZero

/-- **The word of a number**: its last `width` binary digits. -/
def ofNat : (width n : Nat) → Word
  | 0, _ => []
  | width + 1, n => ofNat width (n / 2) ++ [digitOf n]

theorem digitValue_le (b : UInt8) : digitValue b ≤ 1 := by
  unfold digitValue
  split <;> omega

theorem digitValue_digitOf (n : Nat) : digitValue (digitOf n) = n % 2 := by
  unfold digitOf
  split
  · next hodd => exact hodd.symm
  · next heven => exact (Nat.mod_two_ne_one.1 heven).symm

theorem isDigit_digitOf (n : Nat) : IsDigit (digitOf n) := by
  unfold digitOf
  split
  · exact Or.inr rfl
  · exact Or.inl rfl

/-- A digit in front of which all is even is found again by the parity. -/
theorem IsDigit.digitOf_add {b : UInt8} (h : IsDigit b) (n : Nat) :
    digitOf (2 * n + digitValue b) = b := by
  rcases h with rfl | rfl
  · have hzero : digitValue digitZero = 0 := rfl
    rw [hzero]
    exact if_neg (by omega)
  · have hone : digitValue digitOne = 1 := rfl
    rw [hone]
    exact if_pos (by omega)

@[simp] theorem value_nil : value [] = 0 := rfl

/-- A digit at the end doubles what stands in front of it. -/
theorem value_concat (s : Bytes) (b : UInt8) : value (s ++ [b]) = 2 * value s + digitValue b := by
  simp [value, digitValue]

theorem value_lt (s : Bytes) : value s < 2 ^ s.length := by
  induction s using List.reverseRecOn with
  | nil => decide
  | append_singleton s b ih =>
      have hdigit := digitValue_le b
      rw [value_concat, List.length_append, List.length_singleton, Nat.pow_succ]
      omega

/-- **Zeros on the left do not change the value.** -/
theorem value_pad (s : Bytes) (width : Nat) : value (pad s width) = value s := by
  have hzeros : ∀ n, value (zero n ++ s) = value s := by
    intro n
    induction n with
    | zero => rfl
    | succ n ih => exact ih
  exact hzeros (width - s.length)

theorem ofWidth_ofNat (width n : Nat) : OfWidth width (ofNat width n) := by
  induction width generalizing n with
  | zero => exact ⟨rfl, by simp [ofNat]⟩
  | succ width ih =>
      obtain ⟨hlength, hdigits⟩ := ih (n / 2)
      refine ⟨by simp [ofNat, hlength], ?_⟩
      intro b hb
      rcases List.mem_append.1 hb with hb | hb
      · exact hdigits b hb
      · rw [List.mem_singleton.1 hb]
        exact isDigit_digitOf n

/-- A number that fits in a word is the value of its word. -/
theorem value_ofNat {width n : Nat} (h : n < 2 ^ width) : value (ofNat width n) = n := by
  induction width generalizing n with
  | zero =>
      rw [Nat.pow_zero] at h
      rw [ofNat, value_nil]
      omega
  | succ width ih =>
      rw [Nat.pow_succ] at h
      rw [ofNat, value_concat, ih (by omega), digitValue_digitOf]
      omega

/-- A word is the word of its value. -/
theorem OfWidth.ofNat_value {width : Nat} {s : Bytes} (h : OfWidth width s) :
    ofNat width (value s) = s := by
  obtain ⟨rfl, hdigits⟩ := h
  induction s using List.reverseRecOn with
  | nil => rfl
  | append_singleton s b ih =>
      have hb : IsDigit b := hdigits b (by simp)
      have hhalf : (2 * value s + digitValue b) / 2 = value s := by
        have hdigit := digitValue_le b
        omega
      rw [List.length_append, List.length_singleton, value_concat, ofNat, hhalf, hb.digitOf_add,
        ih fun c hc => hdigits c (by simp [hc])]

/-- **A padded literal is the word of its number.** -/
theorem Literal.pad_eq_ofNat {width : Nat} {s : Bytes} (h : Literal width s) :
    Word.pad s width = ofNat width (value s) := by
  rw [← h.ofWidth_pad.ofNat_value, value_pad]

theorem Literal.value_lt {width : Nat} {s : Bytes} (h : Literal width s) :
    value s < 2 ^ width :=
  Nat.lt_of_lt_of_le (Word.value_lt s) (Nat.pow_le_pow_right (by decide) h.2.1)

/-- A word is its own literal. -/
theorem OfWidth.literal {width : Nat} {s : Bytes} (h : OfWidth width s) (hpos : 1 ≤ width) :
    Literal width s := by
  obtain ⟨rfl, hdigits⟩ := h
  exact ⟨hpos, Nat.le_refl _, hdigits⟩

theorem literal_iff_ne_nil {width : Nat} {s : Bytes} :
    Literal width s ↔ s ≠ [] ∧ (∀ b ∈ s, IsDigit b) ∧ s.length ≤ width := by
  rw [Literal, ← List.length_pos_iff]
  constructor
  · rintro ⟨hpos, hle, hdigits⟩
    exact ⟨hpos, hdigits, hle⟩
  · rintro ⟨hpos, hdigits, hle⟩
    exact ⟨hpos, hle, hdigits⟩

end Word

/-! ### What a machine makes of a literal -/

namespace Machine

/-- The machine waits for an operand, in words of the given width. -/
structure Awaits (m : Machine) (width : Nat) : Prop where
  state_eq : m.state = .expectArgument
  wordSize_eq : m.catalog.wordSize = width

/-- The machine accepts a text and adds a word for it to its program. -/
def Emits (m : Machine) (line : Int) (text : Bytes) (word : Word) : Prop :=
  ∃ record m', m.feed text line = .ok (record, m') ∧ m'.program.words = m.program.words ++ [word]

variable {m m' : Machine} {width : Nat}

/-- A machine that waits knows the instruction that it waits for. -/
theorem Awaits.exists_pending (h : m.Awaits width) : ∃ pending, m.pending = some pending := by
  have hstate := h.state_eq
  unfold state at hstate
  split at hstate
  · next hsome => exact Option.isSome_iff_exists.1 hsome
  · cases hstate

/-- **What a machine that waits makes of a text**: the word of its number, if it is a literal. -/
theorem Awaits.emits_iff (h : m.Awaits width) {line : Int} {text : Bytes} {word : Word} :
    m.Emits line text word ↔
      Word.Literal width text ∧ word = Word.ofNat width (Word.value text) := by
  obtain ⟨pending, hpending⟩ := h.exists_pending
  obtain rfl := h.wordSize_eq
  constructor
  · rintro ⟨record, m', hfeed, hwords⟩
    by_cases hlit : Word.Literal m.catalog.wordSize text
    · rw [feed_of_literal hpending hlit] at hfeed
      cases hfeed
      simp only [supply, Program.words_push, List.append_cancel_left_eq, List.cons.injEq,
        and_true] at hwords
      exact ⟨hlit, hwords.symm.trans hlit.pad_eq_ofNat⟩
    · rw [feed_of_not_literal hpending hlit] at hfeed
      cases hfeed
  · rintro ⟨hlit, rfl⟩
    refine ⟨_, _, feed_of_literal hpending hlit, ?_⟩
    rw [← hlit.pad_eq_ofNat]
    exact Program.words_push m.program _

/-- A machine that waits accepts literals and nothing else. -/
theorem Awaits.exists_emits_iff (h : m.Awaits width) {line : Int} {text : Bytes} :
    (∃ word, m.Emits line text word) ↔ Word.Literal width text := by
  simp only [h.emits_iff, exists_and_left, exists_eq, and_true]

/-- **Operands encode exactly the numbers that fit in a word.**  A machine that waits for an operand
accepts a text exactly if it is a non-empty string of binary digits that is no longer than a word;
the check that nothing is left of the text without the digits at its ends says the same.  The word
that it emits has all digits of a word and the value of the text.  Two texts become the same word
exactly if they have the same value, every value is that of a text, and a word becomes itself. -/
theorem operand_encoding (hm : m.Awaits width) (hm' : m'.Awaits width) (hpos : 1 ≤ width)
    (line line' : Int) :
    (∀ text, (∃ word, m.Emits line text word) ↔
      text ≠ [] ∧ (∀ b ∈ text, b = Bytes.ofAscii '0' ∨ b = Bytes.ofAscii '1') ∧
        text.length ≤ width) ∧
    (∀ text, (∃ word, m.Emits line text word) ↔
      text ≠ [] ∧ Word.trimDigits text = [] ∧ text.length ≤ width) ∧
    (∀ text word, m.Emits line text word →
      word.length = width ∧ (∀ b ∈ word, b = Bytes.ofAscii '0' ∨ b = Bytes.ofAscii '1') ∧
        Word.value word = Word.value text ∧ Word.value text < 2 ^ width) ∧
    (∀ text text' word word', m.Emits line text word → m'.Emits line' text' word' →
      (word = word' ↔ Word.value text = Word.value text')) ∧
    (∀ n < 2 ^ width, ∃ text word, m.Emits line text word ∧ Word.value text = n) ∧
    (∀ text word, m.Emits line text word → m'.Emits line' word word) := by
  have haccepts : ∀ text, (∃ word, m.Emits line text word) ↔
      text ≠ [] ∧ (∀ b ∈ text, Word.IsDigit b) ∧ text.length ≤ width :=
    fun text => hm.exists_emits_iff.trans Word.literal_iff_ne_nil
  refine ⟨haccepts, ?_, ?_, ?_, ?_, ?_⟩
  · intro text
    rw [haccepts, Word.trimDigits_eq_nil_iff]
  · intro text word hword
    obtain ⟨hlit, rfl⟩ := hm.emits_iff.1 hword
    obtain ⟨hlength, hdigits⟩ := Word.ofWidth_ofNat width (Word.value text)
    exact ⟨hlength, hdigits, Word.value_ofNat hlit.value_lt, hlit.value_lt⟩
  · intro text text' word word' hword hword'
    obtain ⟨hlit, rfl⟩ := hm.emits_iff.1 hword
    obtain ⟨hlit', rfl⟩ := hm'.emits_iff.1 hword'
    constructor
    · intro heq
      rw [← Word.value_ofNat hlit.value_lt, heq, Word.value_ofNat hlit'.value_lt]
    · intro heq
      rw [heq]
  · intro n hn
    have hlit := (Word.ofWidth_ofNat width n).literal hpos
    exact ⟨Word.ofNat width n, _, hm.emits_iff.2 ⟨hlit, rfl⟩, Word.value_ofNat hn⟩
  · intro text word hword
    obtain ⟨hlit, rfl⟩ := hm.emits_iff.1 hword
    have hwidth := Word.ofWidth_ofNat width (Word.value text)
    exact hm'.emits_iff.2 ⟨hwidth.literal hpos, hwidth.ofNat_value.symm⟩

/-- Two machines with words of three digits, one that waits for its first operand and one for its
second.  The literal `10` becomes `010`, and so does that word; `0010` is too long, and a byte that
is no digit is found between two that are. -/
theorem operand_encoding_three_digits :
    let catalog : Catalog := ⟨[], 3, [⟨Bytes.ofString "A", Bytes.ofString "101", 2⟩]⟩
    let new : Machine := { catalog := catalog }
    let first := new.run [.feed (Bytes.ofString "A") 1]
    let second := first.run [.feed (Bytes.ofString "11") 2]
    first.Awaits 3 ∧ second.Awaits 3 ∧
      first.Emits 2 (Bytes.ofString "10") (Bytes.ofString "010") ∧
      second.Emits 3 (Bytes.ofString "010") (Bytes.ofString "010") ∧
      (¬ ∃ word, first.Emits 2 (Bytes.ofString "0010") word) ∧
      (¬ ∃ word, first.Emits 2 (Bytes.ofString "1x1") word) ∧
      ∃ text word, first.Emits 2 text word ∧ Word.value text = 7 := by
  intro catalog new first second
  have hfirst : first.Awaits 3 := ⟨rfl, rfl⟩
  have hsecond : second.Awaits 3 := ⟨rfl, rfl⟩
  have hemits : first.Emits 2 (Bytes.ofString "10") (Bytes.ofString "010") := ⟨_, _, rfl, rfl⟩
  obtain ⟨haccepts, -, -, -, hvalues, hself⟩ :=
    operand_encoding hfirst hsecond (by decide) 2 3
  refine ⟨hfirst, hsecond, hemits, hself _ _ hemits, ?_, ?_, hvalues 7 (by decide)⟩
  · rw [haccepts]
    rintro ⟨-, -, hle⟩
    exact absurd hle (by decide)
  · rw [haccepts]
    rintro ⟨-, hdigits, -⟩
    exact absurd (hdigits (Bytes.ofAscii 'x') (by decide)) (by decide)

end Machine

end OnePass
