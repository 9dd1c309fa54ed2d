import OnePass.Text.Utf8

/-
**Reading back what was written in UTF-8.**

Characters are written one after another, each as one to four bytes.  A reader finds exactly these
characters again, whatever bytes follow: the first byte of a character tells how many there are, and
the longer forms are not mistaken for shorter ones.  ASCII keeps to itself: a byte below 128 is
never part of a longer form, so such a byte in a text is that character, and the other way round.  A
text can therefore be cut in front of such a byte, and each part is read as if it stood alone.

Main definitions:

* `OnePass.Utf8.Begins` — the piece that a text begins with, and what is behind it;
* `OnePass.Utf8.Valid` — a text that some characters are written as;
* `OnePass.Utf8.Piece.bytes` — the bytes that a piece is read from.

Main results:

* `OnePass.Utf8.readPieces_encodeChar` — a reader finds a character that was written;
* `OnePass.Utf8.chars_encode` — **what was written is read back**;
* `OnePass.Utf8.ofAscii_mem_of_mem_chars`, `OnePass.Utf8.mem_of_ofAscii_mem_encode` — an ASCII
  character is read only where its byte stands, and its byte is written only for it;
* `OnePass.Utf8.encode_map_ofNat` — ASCII text is written as it stands;
* `OnePass.Utf8.pieces_append` — **a text falls apart in front of an ASCII byte**;
* `OnePass.Utf8.valid_iff` — a text is valid exactly if a reader finds no bad byte in it;
* `OnePass.Utf8.flatMap_bytes_pieces` — **a text consists of its pieces**.
-/

set_option relaxedAutoImplicit false
set_option autoImplicit false

namespace OnePass.Utf8

/-! ### Forms of one to four bytes -/

section

variable {b₀ b₁ b₂ b₃ : UInt8} {n m k j : Nat}

theorem continuation?_of_toNat (h : b₁.toNat = m + 128) (hm : m < 64) :
    continuation? b₁ = some m := by
  have hlow : (0x80 : UInt8) ≤ b₁ := UInt8.le_iff_toNat_le.2 (by change 128 ≤ _; omega)
  have hhigh : b₁ < (0xC0 : UInt8) := UInt8.lt_iff_toNat_lt.2 (by change _ < 192; omega)
  rw [continuation?, if_pos ⟨hlow, hhigh⟩, h]
  simp

theorem two?_of_toNat (h₀ : b₀.toNat = n + 192) (hn : n < 32) (h₁ : b₁.toNat = m + 128)
    (hm : m < 64) : two? b₀ b₁ = checked? 0x80 (n * 64 + m) := by
  have hlow : (0xC0 : UInt8) ≤ b₀ := UInt8.le_iff_toNat_le.2 (by change 192 ≤ _; omega)
  have hhigh : b₀ < (0xE0 : UInt8) := UInt8.lt_iff_toNat_lt.2 (by change _ < 224; omega)
  simp [two?, hlow, hhigh, continuation?_of_toNat h₁ hm, h₀]

theorem three?_of_toNat (h₀ : b₀.toNat = n + 224) (hn : n < 16) (h₁ : b₁.toNat = m + 128)
    (hm : m < 64) (h₂ : b₂.toNat = k + 128) (hk : k < 64) :
    three? b₀ b₁ b₂ = checked? 0x800 ((n * 64 + m) * 64 + k) := by
  have hlow : (0xE0 : UInt8) ≤ b₀ := UInt8.le_iff_toNat_le.2 (by change 224 ≤ _; omega)
  have hhigh : b₀ < (0xF0 : UInt8) := UInt8.lt_iff_toNat_lt.2 (by change _ < 240; omega)
  simp [three?, hlow, hhigh, continuation?_of_toNat h₁ hm, continuation?_of_toNat h₂ hk, h₀]

theorem four?_of_toNat (h₀ : b₀.toNat = n + 240) (hn : n < 8) (h₁ : b₁.toNat = m + 128)
    (hm : m < 64) (h₂ : b₂.toNat = k + 128) (hk : k < 64) (h₃ : b₃.toNat = j + 128)
    (hj : j < 64) :
    four? b₀ b₁ b₂ b₃ = checked? 0x10000 (((n * 64 + m) * 64 + k) * 64 + j) := by
  have hlow : (0xF0 : UInt8) ≤ b₀ := UInt8.le_iff_toNat_le.2 (by change 240 ≤ _; omega)
  have hhigh : b₀ < (0xF8 : UInt8) := UInt8.lt_iff_toNat_lt.2 (by change _ < 248; omega)
  simp [four?, hlow, hhigh, continuation?_of_toNat h₁ hm, continuation?_of_toNat h₂ hk,
    continuation?_of_toNat h₃ hj, h₀]

theorem two?_eq_none (h : 224 ≤ b₀.toNat) : two? b₀ b₁ = none := by
  have hhigh : ¬ b₀ < (0xE0 : UInt8) := UInt8.not_lt.2 (UInt8.le_iff_toNat_le.2 h)
  simp [two?, hhigh]

theorem three?_eq_none (h : 240 ≤ b₀.toNat) : three? b₀ b₁ b₂ = none := by
  have hhigh : ¬ b₀ < (0xF0 : UInt8) := UInt8.not_lt.2 (UInt8.le_iff_toNat_le.2 h)
  simp [three?, hhigh]

end

theorem checked?_toNat {least : Nat} {c : Char} (h : least ≤ c.toNat) :
    checked? least c.toNat = some c := by
  rw [checked?, if_pos ⟨h, c.valid⟩, Char.ofNat_toNat]

theorem toNat_ofNat {n : Nat} (h : n.isValidChar) : (Char.ofNat n).toNat = n := by
  rw [Char.ofNat, dif_pos h]
  rfl

/-- A character that passes the check has the number that was checked, which is not below the least
one. -/
theorem toNat_of_checked? {least n : Nat} {c : Char} (h : checked? least n = some c) :
    c.toNat = n ∧ least ≤ c.toNat := by
  unfold checked? at h
  split at h
  · next hn =>
    cases h
    rw [toNat_ofNat hn.2]
    exact ⟨rfl, hn.1⟩
  · cases h

theorem toNat_of_continuation? {b : UInt8} {m : Nat} (h : continuation? b = some m) :
    b.toNat = m + 128 ∧ m < 64 := by
  unfold continuation? at h
  split at h
  · next hb =>
    have hlow : 128 ≤ b.toNat := UInt8.le_iff_toNat_le.1 hb.1
    have hhigh : b.toNat < 192 := UInt8.lt_iff_toNat_lt.1 hb.2
    have hm : b.toNat - 128 = m := Option.some.inj h
    omega
  · cases h

section

variable {b₀ b₁ b₂ b₃ : UInt8} {c : Char}

/-- The parts from which the number of a character of two bytes is put together. -/
theorem parts_of_two? (h : two? b₀ b₁ = some c) :
    ∃ n m, b₀.toNat = n + 192 ∧ n < 32 ∧ b₁.toNat = m + 128 ∧ m < 64 ∧ c.toNat = n * 64 + m ∧
      0x80 ≤ c.toNat := by
  unfold two? at h
  split at h
  · cases h
  · next hlead =>
    obtain ⟨hlow, hhigh⟩ := Classical.not_not.1 hlead
    have hlow : 192 ≤ b₀.toNat := UInt8.le_iff_toNat_le.1 hlow
    have hhigh : b₀.toNat < 224 := UInt8.lt_iff_toNat_lt.1 hhigh
    simp only [Option.bind_eq_bind, Option.bind_eq_some_iff] at h
    obtain ⟨m, hm, hc⟩ := h
    obtain ⟨hb₁, hm⟩ := toNat_of_continuation? hm
    exact ⟨b₀.toNat - 192, m, by omega, by omega, hb₁, hm, toNat_of_checked? hc⟩

theorem parts_of_three? (h : three? b₀ b₁ b₂ = some c) :
    ∃ n m k, b₀.toNat = n + 224 ∧ n < 16 ∧ b₁.toNat = m + 128 ∧ m < 64 ∧ b₂.toNat = k + 128 ∧
      k < 64 ∧ c.toNat = (n * 64 + m) * 64 + k ∧ 0x800 ≤ c.toNat := by
  unfold three? at h
  split at h
  · cases h
  · next hlead =>
    obtain ⟨hlow, hhigh⟩ := Classical.not_not.1 hlead
    have hlow : 224 ≤ b₀.toNat := UInt8.le_iff_toNat_le.1 hlow
    have hhigh : b₀.toNat < 240 := UInt8.lt_iff_toNat_lt.1 hhigh
    simp only [Option.bind_eq_bind, Option.bind_eq_some_iff] at h
    obtain ⟨m, hm, k, hk, hc⟩ := h
    obtain ⟨hb₁, hm⟩ := toNat_of_continuation? hm
    obtain ⟨hb₂, hk⟩ := toNat_of_continuation? hk
    exact ⟨b₀.toNat - 224, m, k, by omega, by omega, hb₁, hm, hb₂, hk, toNat_of_checked? hc⟩

theorem parts_of_four? (h : four? b₀ b₁ b₂ b₃ = some c) :
    ∃ n m k j, b₀.toNat = n + 240 ∧ n < 8 ∧ b₁.toNat = m + 128 ∧ m < 64 ∧ b₂.toNat = k + 128 ∧
      k < 64 ∧ b₃.toNat = j + 128 ∧ j < 64 ∧ c.toNat = ((n * 64 + m) * 64 + k) * 64 + j ∧
      0x10000 ≤ c.toNat := by
  unfold four? at h
  split at h
  · cases h
  · next hlead =>
    obtain ⟨hlow, hhigh⟩ := Classical.not_not.1 hlead
    have hlow : 240 ≤ b₀.toNat := UInt8.le_iff_toNat_le.1 hlow
    have hhigh : b₀.toNat < 248 := UInt8.lt_iff_toNat_lt.1 hhigh
    simp only [Option.bind_eq_bind, Option.bind_eq_some_iff] at h
    obtain ⟨m, hm, k, hk, j, hj, hc⟩ := h
    obtain ⟨hb₁, hm⟩ := toNat_of_continuation? hm
    obtain ⟨hb₂, hk⟩ := toNat_of_continuation? hk
    obtain ⟨hb₃, hj⟩ := toNat_of_continuation? hj
    exact ⟨b₀.toNat - 240, m, k, j, by omega, by omega, hb₁, hm, hb₂, hk, hb₃, hj,
      toNat_of_checked? hc⟩

end

/-! ### What was written is read back -/

section

variable {done : List Piece} {b₀ b₁ b₂ b₃ : UInt8} {c : Char} {s : Bytes}

theorem readPieces_one (h : b₀.toNat < 128) :
    readPieces done (b₀ :: s) = readPieces (.good (Char.ofNat b₀.toNat) :: done) s := by
  have hlt : b₀ < (0x80 : UInt8) := UInt8.lt_iff_toNat_lt.2 h
  rw [readPieces.eq_def]
  simp [hlt]

theorem readPieces_two (h : 128 ≤ b₀.toNat) (htwo : two? b₀ b₁ = some c) :
    readPieces done (b₀ :: b₁ :: s) = readPieces (.good c :: done) s := by
  have hlt : ¬ b₀ < (0x80 : UInt8) := UInt8.not_lt.2 (UInt8.le_iff_toNat_le.2 h)
  rw [readPieces.eq_def]
  simp [hlt, htwo]

theorem readPieces_three (h : 224 ≤ b₀.toNat) (hthree : three? b₀ b₁ b₂ = some c) :
    readPieces done (b₀ :: b₁ :: b₂ :: s) = readPieces (.good c :: done) s := by
  have hlt : ¬ b₀ < (0x80 : UInt8) :=
    UInt8.not_lt.2 (UInt8.le_iff_toNat_le.2 (Nat.le_trans (by decide) h))
  rw [readPieces.eq_def]
  simp [hlt, two?_eq_none h, hthree]

theorem readPieces_four (h : 240 ≤ b₀.toNat) (hfour : four? b₀ b₁ b₂ b₃ = some c) :
    readPieces done (b₀ :: b₁ :: b₂ :: b₃ :: s) = readPieces (.good c :: done) s := by
  have hlt : ¬ b₀ < (0x80 : UInt8) :=
    UInt8.not_lt.2 (UInt8.le_iff_toNat_le.2 (Nat.le_trans (by decide) h))
  have htwo : two? b₀ b₁ = none := two?_eq_none (Nat.le_trans (by decide) h)
  rw [readPieces.eq_def]
  simp [hlt, htwo, three?_eq_none h, hfour]

end

/-- **A reader finds a character that was written**, whatever bytes follow. -/
theorem readPieces_encodeChar (done : List Piece) (c : Char) (s : Bytes) :
    readPieces done (String.utf8EncodeChar c ++ s) = readPieces (.good c :: done) s := by
  have hbyte : ∀ n, n < 256 → (UInt8.ofNat n).toNat = n := by
    intro n hn
    rw [UInt8.toNat_ofNat']
    exact Nat.mod_eq_of_lt hn
  have hbound : c.toNat < 1114112 := by
    rcases c.valid with h | h
    · exact Nat.lt_trans h (by decide)
    · exact h.2
  have hv : c.val.toNat = c.toNat := rfl
  rw [String.utf8EncodeChar.eq_1, hv]
  -- One case for each number of bytes: the number of the character is put together from its parts.
  split
  · next h1 =>
    have hlead : (UInt8.ofNat c.toNat).toNat = c.toNat := hbyte _ (by omega)
    rw [List.cons_append, readPieces_one (by omega), hlead, Char.ofNat_toNat, List.nil_append]
  split
  · next h1 h2 =>
    have hlead := hbyte (c.toNat / 64 % 32 + 192) (by omega)
    have htwo := two?_of_toNat hlead (by omega) (hbyte (c.toNat % 64 + 128) (by omega)) (by omega)
    have hsum : c.toNat / 64 % 32 * 64 + c.toNat % 64 = c.toNat := by omega
    rw [hsum, checked?_toNat (by omega)] at htwo
    exact readPieces_two (by omega) htwo
  split
  · next h2 h3 =>
    have hlead := hbyte (c.toNat / 4096 % 16 + 224) (by omega)
    have hthree := three?_of_toNat hlead (by omega)
      (hbyte (c.toNat / 64 % 64 + 128) (by omega)) (by omega)
      (hbyte (c.toNat % 64 + 128) (by omega)) (by omega)
    have hsum : (c.toNat / 4096 % 16 * 64 + c.toNat / 64 % 64) * 64 + c.toNat % 64 = c.toNat := by
      omega
    rw [hsum, checked?_toNat (by omega)] at hthree
    exact readPieces_three (by omega) hthree
  · next h3 =>
    have hlead := hbyte (c.toNat / 262144 % 8 + 240) (by omega)
    have hfour := four?_of_toNat hlead (by omega)
      (hbyte (c.toNat / 4096 % 64 + 128) (by omega)) (by omega)
      (hbyte (c.toNat / 64 % 64 + 128) (by omega)) (by omega)
      (hbyte (c.toNat % 64 + 128) (by omega)) (by omega)
    have hsum : ((c.toNat / 262144 % 8 * 64 + c.toNat / 4096 % 64) * 64 +
        c.toNat / 64 % 64) * 64 + c.toNat % 64 = c.toNat := by omega
    rw [hsum, checked?_toNat (by omega)] at hfour
    exact readPieces_four (by omega) hfour

theorem readPieces_encode (done : List Piece) (cs : List Char) :
    readPieces done (encode cs) = done.reverse ++ cs.map .good := by
  induction cs generalizing done with
  | nil => simp [encode, readPieces]
  | cons c cs ih =>
      have hcons : encode (c :: cs) = String.utf8EncodeChar c ++ encode cs := rfl
      rw [hcons, readPieces_encodeChar, ih]
      simp

/-- **What was written is read back.** -/
theorem chars_encode (cs : List Char) : chars (encode cs) = cs := by
  rw [chars, pieces, readPieces_encode, List.reverse_nil, List.nil_append, List.map_map]
  exact List.map_id cs

/-! ### ASCII keeps to itself -/

section

variable {b₀ b₁ b₂ b₃ : UInt8} {c : Char}

theorem le_toNat_of_two? (h : two? b₀ b₁ = some c) : 128 ≤ c.toNat := by
  obtain ⟨n, m, -, -, -, -, -, hle⟩ := parts_of_two? h
  exact hle

theorem le_toNat_of_three? (h : three? b₀ b₁ b₂ = some c) : 128 ≤ c.toNat := by
  obtain ⟨n, m, k, -, -, -, -, -, -, -, hle⟩ := parts_of_three? h
  omega

theorem le_toNat_of_four? (h : four? b₀ b₁ b₂ b₃ = some c) : 128 ≤ c.toNat := by
  obtain ⟨n, m, k, j, -, -, -, -, -, -, -, -, -, hle⟩ := parts_of_four? h
  omega

end

/-- A piece that reads as an ASCII character has been read before, or its byte stands in the
text. -/
theorem mem_or_ofAscii_mem {done : List Piece} {s : Bytes} {p : Piece} (hp : p ∈ readPieces done s)
    (hascii : p.char.toNat < 128) : p ∈ done ∨ Bytes.ofAscii p.char ∈ s := by
  -- A piece that is no ASCII character is not the one that is looked for.
  have skip : ∀ {done : List Piece} {q : Piece} {rest : Bytes} (read : Bytes),
      128 ≤ q.char.toNat → p ∈ q :: done ∨ Bytes.ofAscii p.char ∈ rest →
      p ∈ done ∨ Bytes.ofAscii p.char ∈ read ++ rest := by
    intro done q rest read hq h
    rcases h with h | h
    · rcases List.mem_cons.1 h with rfl | h
      · omega
      · exact Or.inl h
    · exact Or.inr (List.mem_append_right read h)
  have hbad : ∀ b, 128 ≤ (Piece.bad b).char.toNat := by
    intro b
    change 128 ≤ replacement.toNat
    decide
  fun_induction readPieces done s with
  | case1 done => exact Or.inl (List.mem_reverse.1 hp)
  | case2 done b₀ r₀ hlt ih =>
      rcases ih hp with h | h
      · rcases List.mem_cons.1 h with rfl | h
        · refine Or.inr (List.mem_cons.2 (Or.inl ?_))
          have hb : b₀.toNat.isValidChar := Or.inl (Nat.lt_trans b₀.toNat_lt (by decide))
          simp [Piece.char, Bytes.ofAscii, toNat_ofNat hb]
        · exact Or.inl h
      · exact Or.inr (List.mem_cons_of_mem _ h)
  | case3 done b₀ hlt ih => exact skip [b₀] (hbad b₀) (ih hp)
  | case4 done b₀ hlt b₁ r₁ c htwo ih => exact skip [b₀, b₁] (le_toNat_of_two? htwo) (ih hp)
  | case5 done b₀ hlt b₁ htwo ih => exact skip [b₀] (hbad b₀) (ih hp)
  | case6 done b₀ hlt b₁ htwo b₂ r₂ c hthree ih =>
      exact skip [b₀, b₁, b₂] (le_toNat_of_three? hthree) (ih hp)
  | case7 done b₀ hlt b₁ htwo b₂ hthree ih => exact skip [b₀] (hbad b₀) (ih hp)
  | case8 done b₀ hlt b₁ htwo b₂ hthree b₃ r₃ c hfour ih =>
      exact skip [b₀, b₁, b₂, b₃] (le_toNat_of_four? hfour) (ih hp)
  | case9 done b₀ hlt b₁ htwo b₂ hthree b₃ r₃ hfour ih => exact skip [b₀] (hbad b₀) (ih hp)

/-- **An ASCII character is read only where its byte stands.** -/
theorem ofAscii_mem_of_mem_chars {s : Bytes} {c : Char} (h : c ∈ chars s) (hc : c.toNat < 128) :
    Bytes.ofAscii c ∈ s := by
  obtain ⟨p, hp, rfl⟩ := List.mem_map.1 h
  rcases mem_or_ofAscii_mem hp hc with h | h
  · cases h
  · exact h

theorem toNat_ofAscii {c : Char} (h : c.toNat < 128) : (Bytes.ofAscii c).toNat = c.toNat := by
  rw [Bytes.ofAscii, Nat.toUInt8, UInt8.toNat_ofNat']
  exact Nat.mod_eq_of_lt (by omega)

theorem ofAscii_inj {a c : Char} (ha : a.toNat < 128) (hc : c.toNat < 128)
    (h : Bytes.ofAscii a = Bytes.ofAscii c) : a = c := by
  rw [← Char.ofNat_toNat a, ← toNat_ofAscii ha, h, toNat_ofAscii hc, Char.ofNat_toNat]

theorem encodeChar_of_lt {c : Char} (h : c.toNat < 128) :
    String.utf8EncodeChar c = [Bytes.ofAscii c] := by
  have hle : c.val.toNat ≤ 127 := Nat.le_of_lt_succ h
  rw [String.utf8EncodeChar.eq_1, if_pos hle]
  rfl

theorem ofNat_eq {b : UInt8} {n : Nat} (h : b.toNat = n) : UInt8.ofNat n = b := by
  rw [← h, UInt8.ofNat_toNat]

theorem encodeChar_ofNat {b : UInt8} (h : b.toNat < 128) :
    String.utf8EncodeChar (Char.ofNat b.toNat) = [b] := by
  have hvalid : b.toNat.isValidChar := Or.inl (Nat.lt_trans h (by decide))
  rw [encodeChar_of_lt ((toNat_ofNat hvalid).symm ▸ h), Bytes.ofAscii, toNat_ofNat hvalid]
  exact congrArg (fun b => [b]) (ofNat_eq rfl)

/-- No byte of a longer form is an ASCII character. -/
theorem le_toNat_of_mem_encodeChar {c : Char} {b : UInt8} (hb : b ∈ String.utf8EncodeChar c)
    (hc : 128 ≤ c.toNat) : 128 ≤ b.toNat := by
  have hv : c.val.toNat = c.toNat := rfl
  rw [String.utf8EncodeChar.eq_1, hv] at hb
  have hbyte : ∀ n, 128 ≤ n → n < 256 → b = UInt8.ofNat n → 128 ≤ b.toNat := by
    rintro n hle hlt rfl
    rw [UInt8.toNat_ofNat', Nat.mod_eq_of_lt hlt]
    exact hle
  split at hb
  · omega
  split at hb
  · simp only [List.mem_cons, List.not_mem_nil, or_false] at hb
    rcases hb with hb | hb <;> exact hbyte _ (by omega) (by omega) hb
  split at hb
  · simp only [List.mem_cons, List.not_mem_nil, or_false] at hb
    rcases hb with hb | hb | hb <;> exact hbyte _ (by omega) (by omega) hb
  · simp only [List.mem_cons, List.not_mem_nil, or_false] at hb
    rcases hb with hb | hb | hb | hb <;> exact hbyte _ (by omega) (by omega) hb

/-- **The byte of an ASCII character is written only for it.** -/
theorem mem_of_ofAscii_mem_encode {cs : List Char} {a : Char} (ha : a.toNat < 128)
    (h : Bytes.ofAscii a ∈ encode cs) : a ∈ cs := by
  obtain ⟨c, hc, hb⟩ := List.mem_flatMap.1 h
  by_cases hlt : c.toNat < 128
  · rw [encodeChar_of_lt hlt, List.mem_singleton] at hb
    rwa [ofAscii_inj ha hlt hb]
  · have hle := le_toNat_of_mem_encodeChar hb (by omega)
    rw [toNat_ofAscii ha] at hle
    omega

theorem ofAscii_mem_encode {cs : List Char} {a : Char} (ha : a.toNat < 128) (h : a ∈ cs) :
    Bytes.ofAscii a ∈ encode cs := by
  refine List.mem_flatMap.2 ⟨a, h, ?_⟩
  rw [encodeChar_of_lt ha]
  exact List.mem_singleton_self _

/-- An ASCII byte at the end of a text is a character of its own. -/
theorem exists_encode_append {cs : List Char} {b : UInt8} (hb : b.toNat < 128)
    (h : (encode cs).getLast? = some b) :
    ∃ cs' c, cs = cs' ++ [c] ∧ encode cs = encode cs' ++ [b] := by
  rcases List.eq_nil_or_concat cs with rfl | ⟨cs', c, rfl⟩
  · cases h
  have happend : encode (cs'.concat c) = encode cs' ++ String.utf8EncodeChar c := by
    simp [encode]
  rw [happend, List.getLast?_append,
    List.getLast?_eq_some_getLast String.utf8EncodeChar_ne_nil, Option.some_or] at h
  have hmem : b ∈ String.utf8EncodeChar c := Option.some.inj h ▸ List.getLast_mem _
  -- The last character is ASCII, since otherwise none of its bytes would be.
  have hc : c.toNat < 128 := by
    refine Nat.lt_of_not_le fun hle => ?_
    have := le_toNat_of_mem_encodeChar hmem hle
    omega
  rw [encodeChar_of_lt hc, List.mem_singleton] at hmem
  exact ⟨cs', c, List.concat_eq_append, by rw [happend, encodeChar_of_lt hc, hmem]⟩

/-- **ASCII text is written as it stands.** -/
theorem encode_map_ofNat {s : Bytes} (h : ∀ b ∈ s, b.toNat < 128) :
    encode (s.map fun b => Char.ofNat b.toNat) = s := by
  induction s with
  | nil => rfl
  | cons b s ih =>
      obtain ⟨hb, hs⟩ := List.forall_mem_cons.1 h
      have hrest := ih hs
      unfold encode at hrest ⊢
      rw [List.map_cons, List.flatMap_cons, encodeChar_ofNat hb, hrest, List.singleton_append]

/-! ### What is read is written back -/

section

variable {b₀ b₁ b₂ b₃ : UInt8} {c : Char}

theorem encodeChar_of_two? (h : two? b₀ b₁ = some c) : String.utf8EncodeChar c = [b₀, b₁] := by
  obtain ⟨n, m, hb₀, hn, hb₁, hm, hc, hle⟩ := parts_of_two? h
  have hv : c.val.toNat = c.toNat := rfl
  have hlead : b₀.toNat = c.toNat / 64 % 32 + 192 := by omega
  have hlast : b₁.toNat = c.toNat % 64 + 128 := by omega
  rw [String.utf8EncodeChar.eq_1, hv, if_neg (by omega), if_pos (by omega), ofNat_eq hlead,
    ofNat_eq hlast]

theorem encodeChar_of_three? (h : three? b₀ b₁ b₂ = some c) :
    String.utf8EncodeChar c = [b₀, b₁, b₂] := by
  obtain ⟨n, m, k, hb₀, hn, hb₁, hm, hb₂, hk, hc, hle⟩ := parts_of_three? h
  have hv : c.val.toNat = c.toNat := rfl
  have hlead : b₀.toNat = c.toNat / 4096 % 16 + 224 := by omega
  have hmid : b₁.toNat = c.toNat / 64 % 64 + 128 := by omega
  have hlast : b₂.toNat = c.toNat % 64 + 128 := by omega
  rw [String.utf8EncodeChar.eq_1, hv, if_neg (by omega), if_neg (by omega), if_pos (by omega),
    ofNat_eq hlead, ofNat_eq hmid, ofNat_eq hlast]

theorem encodeChar_of_four? (h : four? b₀ b₁ b₂ b₃ = some c) :
    String.utf8EncodeChar c = [b₀, b₁, b₂, b₃] := by
  obtain ⟨n, m, k, j, hb₀, hn, hb₁, hm, hb₂, hk, hb₃, hj, hc, hle⟩ := parts_of_four? h
  have hv : c.val.toNat = c.toNat := rfl
  have hlead : b₀.toNat = c.toNat / 262144 % 8 + 240 := by omega
  have hhigh : b₁.toNat = c.toNat / 4096 % 64 + 128 := by omega
  have hlow : b₂.toNat = c.toNat / 64 % 64 + 128 := by omega
  have hlast : b₃.toNat = c.toNat % 64 + 128 := by omega
  rw [String.utf8EncodeChar.eq_1, hv, if_neg (by omega), if_neg (by omega), if_neg (by omega),
    ofNat_eq hlead, ofNat_eq hhigh, ofNat_eq hlow, ofNat_eq hlast]

end

/-! ### A text splits at its ASCII bytes -/

section

variable {b₀ b₁ b₂ b₃ : UInt8} {c : Char}

theorem continuation?_of_lt (h : b₁.toNat < 128) : continuation? b₁ = none := by
  refine if_neg fun hb => ?_
  have hle : 128 ≤ b₁.toNat := UInt8.le_iff_toNat_le.1 hb.1
  omega

/-- No longer form has an ASCII byte behind its first one. -/
theorem two?_of_ascii (h : b₁.toNat < 128) : two? b₀ b₁ = none := by
  simp [two?, continuation?_of_lt h]

theorem three?_of_ascii (h : b₁.toNat < 128 ∨ b₂.toNat < 128) : three? b₀ b₁ b₂ = none := by
  rcases h with h | h
  · simp [three?, continuation?_of_lt h]
  · simp [three?, continuation?_of_lt h]

theorem four?_of_ascii (h : b₁.toNat < 128 ∨ b₂.toNat < 128 ∨ b₃.toNat < 128) :
    four? b₀ b₁ b₂ b₃ = none := by
  rcases h with h | h | h
  · simp [four?, continuation?_of_lt h]
  · simp [four?, continuation?_of_lt h]
  · simp [four?, continuation?_of_lt h]

/-- A byte that begins no form is a bad one. -/
theorem readPieces_bad {done : List Piece} {s : Bytes} (h : 128 ≤ b₀.toNat)
    (htwo : ∀ b₁ t, s = b₁ :: t → two? b₀ b₁ = none)
    (hthree : ∀ b₁ b₂ t, s = b₁ :: b₂ :: t → three? b₀ b₁ b₂ = none)
    (hfour : ∀ b₁ b₂ b₃ t, s = b₁ :: b₂ :: b₃ :: t → four? b₀ b₁ b₂ b₃ = none) :
    readPieces done (b₀ :: s) = readPieces (.bad b₀ :: done) s := by
  have hlt : ¬ b₀ < (0x80 : UInt8) := UInt8.not_lt.2 (UInt8.le_iff_toNat_le.2 h)
  rw [readPieces.eq_def]
  rcases s with _ | ⟨b₁, _ | ⟨b₂, _ | ⟨b₃, t⟩⟩⟩
  · simp [hlt]
  · simp [hlt, htwo b₁ _ rfl]
  · simp [hlt, htwo b₁ _ rfl, hthree b₁ b₂ _ rfl]
  · simp [hlt, htwo b₁ _ rfl, hthree b₁ b₂ _ rfl, hfour b₁ b₂ b₃ _ rfl]

end

/-- Where a text may be cut without harm: at its end, and in front of an ASCII byte. -/
def Cuttable (tail : Bytes) : Prop :=
  ∀ b ∈ tail.head?, b.toNat < 128

theorem cuttable_nil : Cuttable [] := by
  simp [Cuttable]

/-- What a reader finds at the beginning of a text: a character that was written there, or a bad
byte. -/
inductive Begins : Bytes → Piece → Bytes → Prop
  | good (c : Char) (rest : Bytes) : Begins (String.utf8EncodeChar c ++ rest) (.good c) rest
  | bad (b : UInt8) (rest : Bytes) : Begins (b :: rest) (.bad b) rest

theorem Begins.length_lt {s rest : Bytes} {p : Piece} (h : Begins s p rest) :
    rest.length < s.length := by
  cases h with
  | good c =>
      have := List.length_pos_iff.2 (String.utf8EncodeChar_ne_nil (c := c))
      rw [List.length_append]
      omega
  | bad b => simp

/-- **The first piece of a text is found without a look behind a cut.** -/
theorem exists_begins (b₀ : UInt8) (r : Bytes) :
    ∃ p rest, Begins (b₀ :: r) p rest ∧ ∀ done tail, Cuttable tail →
      readPieces done (b₀ :: r ++ tail) = readPieces (p :: done) (rest ++ tail) := by
  by_cases hascii : b₀.toNat < 128
  · refine ⟨.good (Char.ofNat b₀.toNat), r, ?_, fun done tail _ => readPieces_one hascii⟩
    have := Begins.good (Char.ofNat b₀.toNat) r
    rwa [encodeChar_ofNat hascii] at this
  by_cases htwo : ∃ b₁ t c, r = b₁ :: t ∧ two? b₀ b₁ = some c
  · obtain ⟨b₁, t, c, rfl, hc⟩ := htwo
    refine ⟨.good c, t, ?_, fun done tail _ => readPieces_two (by omega) hc⟩
    have := Begins.good c t
    rwa [encodeChar_of_two? hc] at this
  by_cases hthree : ∃ b₁ b₂ t c, r = b₁ :: b₂ :: t ∧ three? b₀ b₁ b₂ = some c
  · obtain ⟨b₁, b₂, t, c, rfl, hc⟩ := hthree
    obtain ⟨n, m, k, hb₀, -⟩ := parts_of_three? hc
    refine ⟨.good c, t, ?_, fun done tail _ => readPieces_three (by omega) hc⟩
    have := Begins.good c t
    rwa [encodeChar_of_three? hc] at this
  by_cases hfour : ∃ b₁ b₂ b₃ t c, r = b₁ :: b₂ :: b₃ :: t ∧ four? b₀ b₁ b₂ b₃ = some c
  · obtain ⟨b₁, b₂, b₃, t, c, rfl, hc⟩ := hfour
    obtain ⟨n, m, k, j, hb₀, -⟩ := parts_of_four? hc
    refine ⟨.good c, t, ?_, fun done tail _ => readPieces_four (by omega) hc⟩
    have := Begins.good c t
    rwa [encodeChar_of_four? hc] at this
  -- No form fits in front of the cut, and none reaches across it.
  refine ⟨.bad b₀, r, .bad b₀ r, fun done tail htail => ?_⟩
  rw [List.cons_append]
  refine readPieces_bad (by omega) ?_ ?_ ?_
  · intro b₁ t heq
    rcases r with _ | ⟨a₁, r⟩
    · obtain rfl : tail = b₁ :: t := heq
      exact two?_of_ascii (htail b₁ rfl)
    · cases heq
      exact Option.eq_none_iff_forall_ne_some.2 fun c hc => htwo ⟨_, _, c, rfl, hc⟩
  · intro b₁ b₂ t heq
    rcases r with _ | ⟨a₁, _ | ⟨a₂, r⟩⟩
    · obtain rfl : tail = b₁ :: b₂ :: t := heq
      exact three?_of_ascii (Or.inl (htail b₁ rfl))
    · obtain ⟨rfl, rfl⟩ := List.cons.inj heq
      exact three?_of_ascii (Or.inr (htail b₂ rfl))
    · cases heq
      exact Option.eq_none_iff_forall_ne_some.2 fun c hc => hthree ⟨_, _, _, c, rfl, hc⟩
  · intro b₁ b₂ b₃ t heq
    rcases r with _ | ⟨a₁, _ | ⟨a₂, _ | ⟨a₃, r⟩⟩⟩
    · obtain rfl : tail = b₁ :: b₂ :: b₃ :: t := heq
      exact four?_of_ascii (Or.inl (htail b₁ rfl))
    · obtain ⟨rfl, rfl⟩ := List.cons.inj heq
      exact four?_of_ascii (Or.inr (Or.inl (htail b₂ rfl)))
    · simp only [List.cons_append, List.nil_append, List.cons.injEq] at heq
      obtain ⟨rfl, rfl, rfl⟩ := heq
      exact four?_of_ascii (Or.inr (Or.inr (htail b₃ rfl)))
    · cases heq
      exact Option.eq_none_iff_forall_ne_some.2 fun c hc => hfour ⟨_, _, _, _, c, rfl, hc⟩

theorem readPieces_eq (done : List Piece) (s : Bytes) :
    readPieces done s = done.reverse ++ pieces s := by
  -- The first piece leaves less of the text to read.
  induction hn : s.length using Nat.strongRecOn generalizing done s with
  | ind n ih =>
      cases s with
      | nil => simp [pieces, readPieces]
      | cons b₀ r =>
          obtain ⟨p, rest, hbegins, hread⟩ := exists_begins b₀ r
          have hstep : ∀ done, readPieces done (b₀ :: r) = (p :: done).reverse ++ pieces rest := by
            intro done
            have hfirst := hread done [] cuttable_nil
            rw [List.append_nil, List.append_nil] at hfirst
            rw [hfirst, ih rest.length (hn ▸ hbegins.length_lt) (p :: done) rest rfl]
          rw [pieces, hstep, hstep]
          simp

/-- The pieces of a text are those at its beginning, one after another. -/
theorem exists_pieces_eq_cons (b₀ : UInt8) (r : Bytes) :
    ∃ p rest, Begins (b₀ :: r) p rest ∧ ∀ tail, Cuttable tail →
      pieces (b₀ :: r ++ tail) = p :: pieces (rest ++ tail) := by
  obtain ⟨p, rest, hbegins, hread⟩ := exists_begins b₀ r
  refine ⟨p, rest, hbegins, fun tail htail => ?_⟩
  rw [pieces, hread [] tail htail, readPieces_eq]
  rfl

/-- **A text falls apart at a cut**: each side is read as if it stood alone. -/
theorem pieces_append (s : Bytes) {tail : Bytes} (htail : Cuttable tail) :
    pieces (s ++ tail) = pieces s ++ pieces tail := by
  induction hn : s.length using Nat.strongRecOn generalizing s with
  | ind n ih =>
      cases s with
      | nil => rfl
      | cons b₀ r =>
          obtain ⟨p, rest, hbegins, hpieces⟩ := exists_pieces_eq_cons b₀ r
          have hfirst := hpieces [] cuttable_nil
          rw [List.append_nil, List.append_nil] at hfirst
          rw [hpieces tail htail, hfirst, ih rest.length (hn ▸ hbegins.length_lt) rest rfl,
            List.cons_append]

/-- **A text is read on both sides of an ASCII character as if they stood alone.** -/
theorem chars_append_cons (s t : Bytes) {c : Char} (hc : c.toNat < 128) :
    chars (s ++ Bytes.ofAscii c :: t) = chars s ++ c :: chars t := by
  have hbyte := toNat_ofAscii hc
  have htail : Cuttable (Bytes.ofAscii c :: t) := by
    intro b hb
    rw [← Option.some.inj hb, hbyte]
    exact hc
  have hhead : pieces (Bytes.ofAscii c :: t) = .good c :: pieces t := by
    rw [pieces, readPieces_one (hbyte.symm ▸ hc), readPieces_eq, hbyte, Char.ofNat_toNat]
    rfl
  rw [chars, pieces_append s htail, hhead, List.map_append, List.map_cons]
  rfl

/-! ### Valid texts -/

/-- **Valid UTF-8**: the bytes of some characters. -/
def Valid (s : Bytes) : Prop :=
  ∃ cs : List Char, s = encode cs

/-- **A text is valid exactly if a reader finds no bad byte in it.** -/
theorem valid_iff {s : Bytes} : Valid s ↔ ∀ b, Piece.bad b ∉ pieces s := by
  constructor
  · rintro ⟨cs, rfl⟩ b hb
    rw [pieces, readPieces_encode] at hb
    simp at hb
  · intro h
    induction hn : s.length using Nat.strongRecOn generalizing s with
    | ind n ih =>
        cases s with
        | nil => exact ⟨[], rfl⟩
        | cons b₀ r =>
            obtain ⟨p, rest, hbegins, hpieces⟩ := exists_pieces_eq_cons b₀ r
            have hfirst := hpieces [] cuttable_nil
            rw [List.append_nil, List.append_nil] at hfirst
            rw [hfirst] at h
            obtain ⟨cs, hcs⟩ := ih rest.length (hn ▸ hbegins.length_lt)
              (fun b hb => h b (List.mem_cons_of_mem p hb)) rfl
            generalize b₀ :: r = s at hbegins
            cases hbegins with
            | good c => exact ⟨c :: cs, by rw [hcs]; rfl⟩
            | bad b => exact absurd (List.mem_cons_self ..) (h b)

instance (s : Bytes) : Decidable (Valid s) :=
  decidable_of_iff ((pieces s).all fun | .good _ => true | .bad _ => false) <| by
    rw [valid_iff, List.all_eq_true]
    constructor
    · intro h b hb
      exact absurd (h _ hb) (by simp)
    · intro h p hp
      cases p with
      | good c => rfl
      | bad b => exact absurd hp (h b)

/-! ### A text consists of its pieces -/

/-- The bytes that a piece is read from. -/
def Piece.bytes : Piece → Bytes
  | .good c => String.utf8EncodeChar c
  | .bad b => [b]

theorem Begins.eq_append {s rest : Bytes} {p : Piece} (h : Begins s p rest) :
    s = p.bytes ++ rest := by
  cases h with
  | good c => rfl
  | bad b => rfl

/-- **A text consists of its pieces**, one after another. -/
theorem flatMap_bytes_pieces (s : Bytes) : (pieces s).flatMap Piece.bytes = s := by
  induction hn : s.length using Nat.strongRecOn generalizing s with
  | ind n ih =>
      cases s with
      | nil => rfl
      | cons b₀ r =>
          obtain ⟨p, rest, hbegins, hpieces⟩ := exists_pieces_eq_cons b₀ r
          have hfirst := hpieces [] cuttable_nil
          rw [List.append_nil, List.append_nil] at hfirst
          rw [hfirst, List.flatMap_cons, ih rest.length (hn ▸ hbegins.length_lt) rest rfl,
            ← hbegins.eq_append]

/-- Two texts that are read alike are the same. -/
theorem eq_of_pieces_eq {s t : Bytes} (h : pieces s = pieces t) : s = t := by
  rw [← flatMap_bytes_pieces s, h, flatMap_bytes_pieces]

/-- A piece that a reader can find: ASCII bytes are never bad. -/
def Piece.Proper : Piece → Prop
  | .good _ => True
  | .bad b => 128 ≤ b.toNat

theorem proper_of_mem_readPieces {done : List Piece} {s : Bytes} {p : Piece}
    (hdone : ∀ q ∈ done, q.Proper) (hp : p ∈ readPieces done s) : p.Proper := by
  have hgood : ∀ {done : List Piece} (c : Char), (∀ q ∈ done, q.Proper) →
      ∀ q ∈ Piece.good c :: done, q.Proper := by
    intro done c h
    exact List.forall_mem_cons.2 ⟨trivial, h⟩
  have hbad : ∀ {done : List Piece} {b : UInt8}, ¬ b < (0x80 : UInt8) → (∀ q ∈ done, q.Proper) →
      ∀ q ∈ Piece.bad b :: done, q.Proper := by
    intro done b hb h
    exact List.forall_mem_cons.2 ⟨UInt8.le_iff_toNat_le.1 (UInt8.not_lt.1 hb), h⟩
  fun_induction readPieces done s with
  | case1 done => exact hdone p (List.mem_reverse.1 hp)
  | case2 done b₀ r₀ hlt ih => exact ih (hgood _ hdone) hp
  | case3 done b₀ hlt ih => exact ih (hbad hlt hdone) hp
  | case4 done b₀ hlt b₁ r₁ c htwo ih => exact ih (hgood c hdone) hp
  | case5 done b₀ hlt b₁ htwo ih => exact ih (hbad hlt hdone) hp
  | case6 done b₀ hlt b₁ htwo b₂ r₂ c hthree ih => exact ih (hgood c hdone) hp
  | case7 done b₀ hlt b₁ htwo b₂ hthree ih => exact ih (hbad hlt hdone) hp
  | case8 done b₀ hlt b₁ htwo b₂ hthree b₃ r₃ c hfour ih => exact ih (hgood c hdone) hp
  | case9 done b₀ hlt b₁ htwo b₂ hthree b₃ r₃ hfour ih => exact ih (hbad hlt hdone) hp

/-- A reader finds proper pieces only. -/
theorem proper_of_mem_pieces {s : Bytes} {p : Piece} (h : p ∈ pieces s) : p.Proper :=
  proper_of_mem_readPieces (by simp) h

/-- **An ASCII byte is read as its character**, wherever it stands. -/
theorem good_mem_pieces {s : Bytes} {a : Char} (ha : a.toNat < 128) (h : Bytes.ofAscii a ∈ s) :
    Piece.good a ∈ pieces s := by
  rw [← flatMap_bytes_pieces s] at h
  obtain ⟨p, hp, hbyte⟩ := List.mem_flatMap.1 h
  cases p with
  | good c =>
      have hc : a ∈ [c] :=
        mem_of_ofAscii_mem_encode ha (List.mem_flatMap.2 ⟨c, List.mem_singleton_self c, hbyte⟩)
      rwa [List.mem_singleton.1 hc]
  | bad b =>
      have hb : 128 ≤ b.toNat := proper_of_mem_pieces hp
      rw [← List.mem_singleton.1 hbyte, toNat_ofAscii ha] at hb
      omega

theorem encode_append (cs ds : List Char) : encode (cs ++ ds) = encode cs ++ encode ds :=
  List.flatMap_append

/-- Characters that were written are read first, whatever bytes follow. -/
theorem pieces_encode_append (cs : List Char) (s : Bytes) :
    pieces (encode cs ++ s) = cs.map .good ++ pieces s := by
  induction cs with
  | nil => rfl
  | cons c cs ih =>
      have hcons : encode (c :: cs) ++ s = String.utf8EncodeChar c ++ (encode cs ++ s) :=
        List.append_assoc ..
      rw [hcons, pieces, readPieces_encodeChar, readPieces_eq, ih]
      rfl

end OnePass.Utf8
