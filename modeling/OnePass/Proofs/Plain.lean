import Mathlib.Algebra.Group.Nat.Defs
import OnePass.Program
import OnePass.Proofs.Scanner
import OnePass.Proofs.Utf8
import OnePass.Proofs.Word

/-
**Plain text.**

Most of what the assembler prints is plain: printable ASCII, in which every byte is a character of
its own.  Numbers are plain, and they can be read back: a text of digits has one value, in whatever
base it is written and whatever zeros are put in front of it.  A text of lines can be read back as
well, if no line holds a line feed.

Main definitions:

* `OnePass.Bytes.Plain` — a text of printable ASCII characters;
* `OnePass.Bytes.digitsValue` — the number that digits denote.

Main results:

* `OnePass.Bytes.Plain.chars_eq` — **a plain text is read byte by byte**;
* `OnePass.Bytes.digitsValue_toDigits` — **digits denote the number they were written for**;
* `OnePass.Bytes.ofInt_inj` — different numbers are written differently;
* `OnePass.Bytes.lines_unlines` — **a text of lines is cut at its line feeds** into these lines.
-/

set_option relaxedAutoImplicit false
set_option autoImplicit false

namespace OnePass.Bytes

/-! ### Plain texts -/

/-- A printable ASCII character. -/
def IsPlain (b : UInt8) : Prop := 0x20 ≤ b.toNat ∧ b.toNat < 0x7F

/-- A text of printable ASCII characters. -/
def Plain (s : Bytes) : Prop := ∀ b ∈ s, IsPlain b

instance (b : UInt8) : Decidable (IsPlain b) := inferInstanceAs (Decidable (_ ∧ _))

instance (s : Bytes) : Decidable (Plain s) := List.decidableBAll _ s

namespace Plain

variable {s t : Bytes}

theorem append (hs : Plain s) (ht : Plain t) : Plain (s ++ t) := by
  intro b hb
  rcases List.mem_append.1 hb with hb | hb
  · exact hs b hb
  · exact ht b hb

theorem replicate (n : Nat) {b : UInt8} (hb : IsPlain b) : Plain (List.replicate n b) := by
  intro b' hb'
  rwa [List.eq_of_mem_replicate hb']

/-- Control characters are not plain. -/
theorem not_mem (hs : Plain s) {b : UInt8} (hb : b.toNat < 0x20) : b ∉ s := by
  intro hmem
  have := (hs b hmem).1
  omega

/-- A plain text is the characters of its bytes, written one after another. -/
theorem eq_encode (hs : Plain s) : s = Utf8.encode (s.map fun b => Char.ofNat b.toNat) := by
  refine (Utf8.encode_map_ofNat ?_).symm
  intro b hb
  have := (hs b hb).2
  omega

theorem pieces_eq (hs : Plain s) : Utf8.pieces s = s.map fun b => .good (Char.ofNat b.toNat) := by
  have hread := Utf8.readPieces_encode [] (s.map fun b => Char.ofNat b.toNat)
  rw [← hs.eq_encode, List.map_map] at hread
  exact hread

/-- **A plain text is read byte by byte.** -/
theorem chars_eq (hs : Plain s) : Utf8.chars s = s.map fun b => Char.ofNat b.toNat := by
  have hread := Utf8.chars_encode (s.map fun b => Char.ofNat b.toNat)
  rwa [← hs.eq_encode] at hread

end Plain

theorem IsPlain.toNat_char {b : UInt8} (h : IsPlain b) :
    (Char.ofNat b.toNat).toNat = b.toNat :=
  Utf8.toNat_ofNat (Or.inl (Nat.lt_trans h.2 (by decide)))

/-! ### Digits -/

/-- The value of a digit, from zero to fifteen. -/
def digitValue (b : UInt8) : Nat :=
  if b.toNat < 58 then b.toNat - 48 else b.toNat - 87

/-- **The number that digits denote**, the most significant one first. -/
def digitsValue (base : Nat) (s : Bytes) : Nat :=
  s.foldl (fun n b => base * n + digitValue b) 0

section

variable {base : Nat} {s : Bytes}

theorem digitsValue_concat (s : Bytes) (b : UInt8) :
    digitsValue base (s ++ [b]) = base * digitsValue base s + digitValue b := by
  simp [digitsValue]

theorem digitValue_digitChar {n : Nat} (h : n < 16) : digitValue (ofAscii n.digitChar) = n := by
  revert n
  decide

/-- **Digits denote the number they were written for.** -/
theorem digitsValue_toDigits (hbase : 1 < base) (hle : base ≤ 16) (n : Nat) :
    digitsValue base ((Nat.toDigits base n).map ofAscii) = n := by
  -- The last digit is the remainder, and those in front of it are the digits of the quotient.
  induction n using Nat.strongRecOn with
  | ind n ih =>
      by_cases hn : n < base
      · rw [Nat.toDigits_of_lt_base hn]
        have hdigit := digitValue_digitChar (Nat.lt_of_lt_of_le hn hle)
        simp [digitsValue, hdigit]
      · have hrest := ih (n / base) (Nat.div_lt_self (by omega) hbase)
        have hdigit := digitValue_digitChar
          (Nat.lt_of_lt_of_le (Nat.mod_lt n (Nat.zero_lt_of_lt hbase)) hle)
        rw [Nat.toDigits_of_base_le hbase (Nat.le_of_not_lt hn), List.map_append,
          List.map_singleton, digitsValue_concat, hrest, hdigit, Nat.div_add_mod]

/-- Zeros in front of a number do not change it. -/
theorem digitsValue_padZeros (width : Nat) (s : Bytes) :
    digitsValue base (padZeros width s) = digitsValue base s := by
  have hzeros : ∀ n, (List.replicate n (ofAscii '0')).foldl
      (fun n b => base * n + digitValue b) 0 = 0 := by
    intro n
    induction n with
    | zero => rfl
    | succ n ih =>
        rw [List.replicate_succ, List.foldl_cons]
        exact ih
  rw [digitsValue, padZeros, List.foldl_append, hzeros]
  rfl

theorem le_length_padZeros (width : Nat) (s : Bytes) : width ≤ (padZeros width s).length := by
  rw [padZeros, List.length_append, List.length_replicate]
  omega

end

theorem digitsValue_ofNat (n : Nat) : digitsValue 10 (ofNat n) = n :=
  digitsValue_toDigits (by decide) (by decide) n

theorem ofNat_inj {m n : Nat} (h : ofNat m = ofNat n) : m = n := by
  rw [← digitsValue_ofNat m, h, digitsValue_ofNat]

theorem digitsValue_hex (width n : Nat) : digitsValue 16 (hex width n) = n := by
  rw [hex, digitsValue_padZeros]
  exact digitsValue_toDigits (by decide) (by decide) n

/-- A number that is small enough has as many hexadecimal digits as were asked for. -/
theorem length_hex {width n : Nat} (hpos : 0 < width) (hn : n < 16 ^ width) :
    (hex width n).length = width := by
  have hle : (Nat.toDigits 16 n).length ≤ width :=
    (Nat.length_toDigits_le_iff (by decide) hpos).2 hn
  rw [hex, padZeros, List.length_append, List.length_replicate, List.length_map]
  omega

/-! ### Numbers are plain -/

/-- Every digit is the digit of a number below the base. -/
theorem exists_of_mem_toDigits {base n : Nat} {c : Char} (hbase : 1 < base)
    (h : c ∈ Nat.toDigits base n) : ∃ d < base, c = d.digitChar := by
  induction n using Nat.strongRecOn with
  | ind n ih =>
      by_cases hn : n < base
      · rw [Nat.toDigits_of_lt_base hn, List.mem_singleton] at h
        exact ⟨n, hn, h⟩
      · rw [Nat.toDigits_of_base_le hbase (Nat.le_of_not_lt hn), List.mem_append,
          List.mem_singleton] at h
        rcases h with h | h
        · exact ih (n / base) (Nat.div_lt_self (by omega) hbase) h
        · exact ⟨n % base, Nat.mod_lt n (Nat.zero_lt_of_lt hbase), h⟩

/-- A decimal digit. -/
def IsDecimal (b : UInt8) : Prop := 48 ≤ b.toNat ∧ b.toNat < 58

instance (b : UInt8) : Decidable (IsDecimal b) := inferInstanceAs (Decidable (_ ∧ _))

theorem isDecimal_of_mem_ofNat {n : Nat} : ∀ b ∈ ofNat n, IsDecimal b := by
  have hdigits : ∀ d < 10, IsDecimal (ofAscii d.digitChar) := by decide
  intro b hb
  obtain ⟨c, hc, rfl⟩ := List.mem_map.1 hb
  obtain ⟨d, hd, rfl⟩ := exists_of_mem_toDigits (by decide) hc
  exact hdigits d hd

/-- A number has decimal digits also with zeros in front of it. -/
theorem isDecimal_of_mem_padZeros {width n : Nat} :
    ∀ b ∈ padZeros width (ofNat n), IsDecimal b := by
  intro b hb
  rcases List.mem_append.1 hb with hb | hb
  · rw [List.eq_of_mem_replicate hb]
    decide
  · exact isDecimal_of_mem_ofNat b hb

/-- A number has decimal digits, and a minus sign in front of them if it is negative. -/
theorem eq_or_isDecimal_of_mem_ofInt {n : Int} : ∀ b ∈ ofInt n, b = ofAscii '-' ∨ IsDecimal b := by
  intro b hb
  cases n with
  | ofNat n => exact Or.inr (isDecimal_of_mem_ofNat b hb)
  | negSucc n =>
      rcases List.mem_cons.1 hb with rfl | hb
      · exact Or.inl rfl
      · exact Or.inr (isDecimal_of_mem_ofNat b hb)

theorem IsDecimal.isPlain {b : UInt8} (h : IsDecimal b) : IsPlain b := by
  unfold IsDecimal at h
  unfold IsPlain
  omega

theorem plain_ofNat (n : Nat) : Plain (ofNat n) :=
  fun b hb => (isDecimal_of_mem_ofNat b hb).isPlain

theorem plain_ofInt (n : Int) : Plain (ofInt n) := by
  intro b hb
  rcases eq_or_isDecimal_of_mem_ofInt b hb with rfl | hb
  · decide
  · exact hb.isPlain

theorem plain_hex (width n : Nat) : Plain (hex width n) := by
  have hdigits : ∀ d < 16, IsPlain (ofAscii d.digitChar) := by decide
  refine (Plain.replicate _ (by decide)).append ?_
  intro b hb
  obtain ⟨c, hc, rfl⟩ := List.mem_map.1 hb
  obtain ⟨d, hd, rfl⟩ := exists_of_mem_toDigits (by decide) hc
  exact hdigits d hd

/-- A number has no blanks in it. -/
theorem blank_not_mem_ofInt (n : Int) : ofAscii ' ' ∉ ofInt n := by
  intro hmem
  rcases eq_or_isDecimal_of_mem_ofInt _ hmem with hminus | hdigit
  · exact absurd hminus (by decide)
  · exact absurd hdigit (by decide)

theorem ofInt_ne_nil (n : Int) : ofInt n ≠ [] := by
  cases n <;> simp [ofInt, ofNat]

/-- **Different numbers are written differently.** -/
theorem ofInt_inj {m n : Int} (h : ofInt m = ofInt n) : m = n := by
  -- A minus sign is no digit.
  have hminus : ∀ (k : Nat) (t : Bytes), ofNat k ≠ ofAscii '-' :: t := by
    intro k t hk
    have hdigit := isDecimal_of_mem_ofNat (n := k) (ofAscii '-') (hk ▸ List.mem_cons_self ..)
    exact absurd hdigit.1 (by decide)
  cases m with
  | ofNat m =>
      cases n with
      | ofNat n => rw [ofNat_inj h]
      | negSucc n => exact absurd h (hminus m _)
  | negSucc m =>
      cases n with
      | ofNat n => exact absurd h.symm (hminus n _)
      | negSucc n =>
          have hsucc : m + 1 = n + 1 := ofNat_inj (List.cons.inj h).2
          rw [Nat.succ.inj hsucc]

/-! ### Joined texts -/

@[simp] theorem join_singleton (sep part : Bytes) : join sep [part] = part := by
  simp [join]

@[simp] theorem join_cons_cons (sep part part' : Bytes) (parts : List Bytes) :
    join sep (part :: part' :: parts) = part ++ sep ++ join sep (part' :: parts) := by
  simp [join]

/-! ### Lines -/

/-- What stands in front of the first occurrence of a byte is told apart from what is behind it. -/
theorem append_cons_inj {b : UInt8} {s t x y : Bytes} (hs : b ∉ s) (ht : b ∉ t)
    (h : s ++ b :: x = t ++ b :: y) : s = t ∧ x = y := by
  have hsplit := congrArg (List.splitOn b) h
  rw [List.splitOn_append_cons_self_of_not_mem hs, List.splitOn_append_cons_self_of_not_mem ht]
    at hsplit
  obtain ⟨rfl, -⟩ := List.cons.inj hsplit
  exact ⟨rfl, (List.cons.inj (List.append_cancel_left h)).2⟩

theorem lines_ne_nil (s : Bytes) : lines s ≠ [] := by
  cases s with
  | nil => simp [lines, splitOn]
  | cons b s =>
      change splitOn.step newline b (lines s) ≠ []
      unfold splitOn.step
      split
      · simp
      · split <;> simp

theorem lines_cons_of_ne {b : UInt8} {s part : Bytes} {parts : List Bytes} (hb : b ≠ newline)
    (h : lines s = part :: parts) : lines (b :: s) = (b :: part) :: parts := by
  change splitOn.step newline b (lines s) = _
  rw [h]
  exact if_neg hb

/-- A text without a line feed is one line. -/
theorem lines_of_not_mem {s : Bytes} (h : newline ∉ s) : lines s = [s] := by
  induction s with
  | nil => rfl
  | cons b s ih =>
      obtain ⟨hb, hs⟩ := not_or.1 (mt List.mem_cons.2 h)
      exact lines_cons_of_ne (Ne.symm hb) (ih hs)

/-- The first line of a text reaches up to its first line feed. -/
theorem lines_append_newline {line : Bytes} (h : newline ∉ line) (s : Bytes) :
    lines (line ++ newline :: s) = line :: lines s := by
  induction line with
  | nil =>
      obtain ⟨part, parts, hs⟩ := List.exists_cons_of_ne_nil (lines_ne_nil s)
      change splitOn.step newline newline (lines s) = [] :: lines s
      simp [hs, splitOn.step]
  | cons b line ih =>
      obtain ⟨hb, hline⟩ := not_or.1 (mt List.mem_cons.2 h)
      exact lines_cons_of_ne (Ne.symm hb) (ih hline)

/-- **A text of lines is cut at its line feeds into these lines**, with nothing behind the last
one. -/
theorem lines_unlines {ls : List Bytes} (h : ∀ line ∈ ls, newline ∉ line) :
    lines (unlines ls) = ls ++ [[]] := by
  induction ls with
  | nil => rfl
  | cons line ls ih =>
      obtain ⟨hline, hls⟩ := List.forall_mem_cons.1 h
      rw [unlines_cons, lines_append_newline hline, ih hls, List.cons_append]

/-- A text of lines has as many line feeds as lines. -/
theorem count_newline_unlines {ls : List Bytes} (h : ∀ line ∈ ls, newline ∉ line) :
    (unlines ls).count newline = ls.length := by
  induction ls with
  | nil => rfl
  | cons line ls ih =>
      obtain ⟨hline, hls⟩ := List.forall_mem_cons.1 h
      rw [unlines_cons, List.count_append, List.count_eq_zero_of_not_mem hline,
        List.count_cons_self, ih hls, List.length_cons, Nat.zero_add]

end OnePass.Bytes

namespace OnePass

/-! ### Words and roles -/

theorem Word.OfWidth.plain {width : Nat} {word : Bytes} (h : OfWidth width word) :
    Bytes.Plain word := by
  intro b hb
  rcases h.2 b hb with rfl | rfl <;> decide

namespace Role

theorem plain_name (role : Role) : Bytes.Plain role.name := by
  cases role <;> decide

theorem blank_not_mem_name (role : Role) : Bytes.ofAscii ' ' ∉ role.name := by
  cases role <;> decide

theorem name_inj {role role' : Role} (h : role.name = role'.name) : role = role' := by
  cases role with
  | opcode =>
      cases role' with
      | opcode => rfl
      | operand => exact absurd h (by decide)
  | operand =>
      cases role' with
      | opcode => exact absurd h (by decide)
      | operand => rfl

end Role

end OnePass
