import Mathlib.Data.List.TakeWhile
import OnePass.Word

/-
**Literals and words.**

A memory word has a fixed number of binary digits.  A literal is what a source may write in place of
one: it needs at least one digit and at most as many as the word has, and zeros on its left make it
a word.

Main definitions:

* `OnePass.Word.IsDigit` — one of the two binary digits;
* `OnePass.Word.OfWidth` — a string of exactly `width` binary digits;
* `OnePass.Word.Literal` — a string of one to `width` binary digits.

Main results:

* `OnePass.Word.trimDigits_eq_nil_iff` — nothing but digits is cut off at the ends of a text;
* `OnePass.Word.literal_iff` — the test for an operand is the test for a literal;
* `OnePass.Word.Literal.ofWidth_pad` — **a padded literal is a word**.
-/

set_option relaxedAutoImplicit false
set_option autoImplicit false

namespace OnePass.Word

/-- One of the two binary digits. -/
def IsDigit (b : UInt8) : Prop := b = digitZero ∨ b = digitOne

/-- A string of exactly `width` binary digits. -/
def OfWidth (width : Nat) (w : Bytes) : Prop := w.length = width ∧ ∀ b ∈ w, IsDigit b

/-- A string of one to `width` binary digits. -/
def Literal (width : Nat) (s : Bytes) : Prop :=
  1 ≤ s.length ∧ s.length ≤ width ∧ ∀ b ∈ s, IsDigit b

instance (b : UInt8) : Decidable (IsDigit b) := inferInstanceAs (Decidable (_ ∨ _))

instance (width : Nat) (w : Bytes) : Decidable (OfWidth width w) :=
  inferInstanceAs (Decidable (_ ∧ _))

instance (width : Nat) (s : Bytes) : Decidable (Literal width s) :=
  inferInstanceAs (Decidable (_ ∧ _))

@[simp] theorem isDigit_eq_true {b : UInt8} : isDigit b = true ↔ IsDigit b := by
  simp [isDigit, IsDigit]

theorem isDigit_zero : IsDigit digitZero := Or.inl rfl

/-- **Nothing is left of a text of digits**, and of no other: a byte between the digits at both ends
is never cut off. -/
theorem trimDigits_eq_nil_iff {s : Bytes} : trimDigits s = [] ↔ ∀ b ∈ s, IsDigit b := by
  rw [trimDigits, List.dropWhile_eq_nil_iff]
  constructor
  · intro h b hb
    -- What is cut off at the end are digits, and so is all that is cut off behind that.
    rw [← List.mem_reverse, ← List.takeWhile_append_dropWhile (p := isDigit) (l := s.reverse),
      List.mem_append] at hb
    rcases hb with hb | hb
    · exact isDigit_eq_true.1 (List.mem_takeWhile_imp hb)
    · exact isDigit_eq_true.1 (h b (List.mem_reverse.2 hb))
  · intro h b hb
    have hmem : b ∈ s.reverse := (List.dropWhile_sublist _).subset (List.mem_reverse.1 hb)
    exact isDigit_eq_true.2 (h b (List.mem_reverse.1 hmem))

/-- The test that an operand has to pass says that it is a literal. -/
theorem literal_iff {width : Nat} {s : Bytes} :
    Literal width s ↔ isBinary s ∧ s.length ≤ width := by
  have hbinary : isBinary s ↔ s ≠ [] ∧ ∀ b ∈ s, IsDigit b := by
    simp [isBinary, trimDigits_eq_nil_iff]
  rw [hbinary, Literal, ← List.length_pos_iff]
  constructor
  · rintro ⟨hpos, hle, hdigits⟩
    exact ⟨⟨hpos, hdigits⟩, hle⟩
  · rintro ⟨⟨hpos, hdigits⟩, hle⟩
    exact ⟨hpos, hle, hdigits⟩

theorem Literal.ne_nil {width : Nat} {s : Bytes} (h : Literal width s) : s ≠ [] :=
  List.ne_nil_of_length_pos h.1

theorem length_pad {width : Nat} {s : Bytes} (h : s.length ≤ width) :
    (pad s width).length = width := by
  rw [pad, Bytes.padZeros, List.length_append, List.length_replicate]
  omega

/-- A text that is wide enough stays as it is. -/
theorem pad_eq_self {width : Nat} {s : Bytes} (h : width ≤ s.length) : pad s width = s := by
  rw [pad, Bytes.padZeros, Nat.sub_eq_zero_of_le h, List.replicate_zero, List.nil_append]

/-- **A padded literal is a word.** -/
theorem Literal.ofWidth_pad {width : Nat} {s : Bytes} (h : Literal width s) :
    OfWidth width (pad s width) := by
  obtain ⟨_, hle, hdigits⟩ := h
  refine ⟨length_pad hle, ?_⟩
  intro b hb
  rw [pad, Bytes.padZeros, List.mem_append] at hb
  rcases hb with hb | hb
  · rw [List.eq_of_mem_replicate hb]
    exact isDigit_zero
  · exact hdigits b hb

/-- A padded literal is a literal again. -/
theorem Literal.pad {width : Nat} {s : Bytes} (h : Literal width s) :
    Literal width (pad s width) := by
  obtain ⟨hlength, hdigits⟩ := h.ofWidth_pad
  refine ⟨?_, Nat.le_of_eq hlength, hdigits⟩
  rw [hlength]
  exact Nat.le_trans h.1 h.2.1

end OnePass.Word
