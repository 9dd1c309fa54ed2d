import OnePass.Proofs.Plain
import OnePass.Text.Quoted

/-
**Reading quoted text.**

A text between quotes stands on a single line and can be read back, whatever bytes it holds.  How a
piece of the text is written tells where it ends: a character that stands for itself is found as in
any other text, and a backslash is followed by a letter that says how many digits there are.  The
quote at the end is never taken for a part of the text, so what stands behind a quoted text is not
touched by what stands in it.

Main definitions:

* `OnePass.Text.readEscape` — the piece that is written at the beginning of a text, and what is
  behind it.

Main results:

* `OnePass.Text.readEscape_escape` — **what was written for a piece is read as this piece**;
* `OnePass.Text.quote_append_inj` — **a quoted text is told apart from all others**, and from what
  is behind it;
* `OnePass.Text.le_toNat_of_mem_quote` — a quoted text has no control characters.
-/

set_option relaxedAutoImplicit false
set_option autoImplicit false

namespace OnePass.Text

open Bytes (ofString ofAscii)
open Utf8 (Piece)

/-! ### Reading one piece -/

/-- The character that a letter behind a backslash stands for. -/
def readLetter (letter : UInt8) : Char :=
  match letter.toNat with
  | 0x61 => '\x07'
  | 0x62 => '\x08'
  | 0x74 => '\t'
  | 0x6E => '\n'
  | 0x76 => '\x0b'
  | 0x66 => '\x0c'
  | 0x72 => '\r'
  | n => Char.ofNat n

/-- The number that the first `width` digits of a text denote, and what is behind them. -/
def readDigits (width : Nat) (s : Bytes) : Nat × Bytes :=
  (Bytes.digitsValue 16 (s.take width), s.drop width)

/-- The piece whose number is given by two digits. -/
def readByte (n : Nat) : Piece :=
  if n < 128 then .good (Char.ofNat n) else .bad n.toUInt8

/-- The piece that is written behind a backslash. -/
def readBackslash : Bytes → Option (Piece × Bytes)
  | [] => none
  | letter :: s =>
    if letter = ofAscii 'x' then some ((readDigits 2 s).map readByte id)
    else if letter = ofAscii 'u' then some ((readDigits 4 s).map (.good ∘ Char.ofNat) id)
    else if letter = ofAscii 'U' then some ((readDigits 8 s).map (.good ∘ Char.ofNat) id)
    else some (.good (readLetter letter), s)

/-- **The piece that is written at the beginning of a text**, and what is behind it.  There is none
in front of a quote. -/
def readEscape : Bytes → Option (Piece × Bytes)
  | [] => none
  | b :: s =>
    if b = ofAscii '"' then none
    else if b = ofAscii '\\' then readBackslash s
    else (Utf8.pieces (b :: s)).head?.map fun p => (p, (b :: s).drop p.bytes.length)

theorem readEscape_backslash (s : Bytes) : readEscape (ofAscii '\\' :: s) = readBackslash s := by
  rw [readEscape, if_neg (by decide), if_pos rfl]

theorem readEscape_quote (s : Bytes) : readEscape (ofAscii '"' :: s) = none := by
  rw [readEscape, if_pos rfl]

/-- A character that stands for itself is read. -/
theorem readEscape_encodeChar {c : Char} (hquote : c ≠ '"') (hslash : c ≠ '\\') (s : Bytes) :
    readEscape (String.utf8EncodeChar c ++ s) = some (.good c, s) := by
  have hencode : Utf8.encode [c] = String.utf8EncodeChar c := List.flatMap_singleton ..
  have hpieces : Utf8.pieces (String.utf8EncodeChar c ++ s) = .good c :: Utf8.pieces s := by
    rw [← hencode]
    exact Utf8.pieces_encode_append [c] s
  obtain ⟨b, r, hbytes⟩ := List.exists_cons_of_ne_nil (String.utf8EncodeChar_ne_nil (c := c))
  -- The first byte of another character is neither a quote nor a backslash.
  have hne : ∀ a : Char, a.toNat < 128 → c ≠ a → b ≠ ofAscii a := by
    rintro a ha hca rfl
    have hmem : a ∈ [c] :=
      Utf8.mem_of_ofAscii_mem_encode ha (by rw [hencode, hbytes]; exact List.mem_cons_self ..)
    exact hca (List.mem_singleton.1 hmem).symm
  have hdrop : (String.utf8EncodeChar c ++ s).drop (Piece.good c).bytes.length = s :=
    List.drop_left
  rw [hbytes, List.cons_append] at hpieces hdrop ⊢
  rw [readEscape, if_neg (hne '"' (by decide) hquote), if_neg (hne '\\' (by decide) hslash),
    hpieces, List.head?_cons, Option.map_some, hdrop]

/-- A number in hexadecimal digits is read. -/
theorem readDigits_hex {width n : Nat} (hpos : 0 < width) (hn : n < 16 ^ width) (s : Bytes) :
    readDigits width (Bytes.hex width n ++ s) = (n, s) := by
  have hlength := Bytes.length_hex hpos hn
  rw [readDigits, List.take_left' hlength, List.drop_left' hlength, Bytes.digitsValue_hex]

theorem readEscape_two {n : Nat} (hn : n < 0x100) (s : Bytes) :
    readEscape (ofString "\\x" ++ Bytes.hex 2 n ++ s) = some (readByte n, s) := by
  rw [List.append_assoc]
  change readEscape (ofAscii '\\' :: ofAscii 'x' :: (Bytes.hex 2 n ++ s)) = _
  rw [readEscape_backslash, readBackslash, if_pos rfl, readDigits_hex (by decide) hn]
  rfl

theorem readEscape_four {n : Nat} (hn : n < 0x10000) (s : Bytes) :
    readEscape (ofString "\\u" ++ Bytes.hex 4 n ++ s) = some (.good (Char.ofNat n), s) := by
  rw [List.append_assoc]
  change readEscape (ofAscii '\\' :: ofAscii 'u' :: (Bytes.hex 4 n ++ s)) = _
  rw [readEscape_backslash, readBackslash, if_neg (by decide), if_pos rfl,
    readDigits_hex (by decide) hn]
  rfl

theorem readEscape_eight {n : Nat} (hn : n < 0x100000000) (s : Bytes) :
    readEscape (ofString "\\U" ++ Bytes.hex 8 n ++ s) = some (.good (Char.ofNat n), s) := by
  rw [List.append_assoc]
  change readEscape (ofAscii '\\' :: ofAscii 'U' :: (Bytes.hex 8 n ++ s)) = _
  rw [readEscape_backslash, readBackslash, if_neg (by decide), if_neg (by decide), if_pos rfl,
    readDigits_hex (by decide) hn]
  rfl

/-- The letter of a control character names it, and is not one that digits follow. -/
theorem readLetter_of_controlLetter? {c letter : Char} (h : controlLetter? c = some letter) :
    readLetter (ofAscii letter) = c ∧ letter ∉ ['x', 'u', 'U'] ∧ 0x20 ≤ letter.toNat ∧
      letter.toNat < 128 := by
  unfold controlLetter? at h
  split at h <;> cases h
  all_goals
    next hc =>
      rw [← Char.ofNat_toNat c, hc]
      decide

/-- A letter that no digits follow is read. -/
theorem readEscape_letter {letter : Char} (hascii : letter.toNat < 128)
    (hletter : letter ∉ ['x', 'u', 'U']) (s : Bytes) :
    readEscape ([ofAscii '\\', ofAscii letter] ++ s) =
      some (.good (readLetter (ofAscii letter)), s) := by
  have hlt : ∀ a ∈ ['x', 'u', 'U'], a.toNat < 128 := by
    intro a ha
    simp only [List.mem_cons, List.not_mem_nil, or_false] at ha
    rcases ha with rfl | rfl | rfl <;> decide
  have hne : ∀ a ∈ ['x', 'u', 'U'], ofAscii letter ≠ ofAscii a := by
    intro a ha heq
    exact hletter (Utf8.ofAscii_inj hascii (hlt a ha) heq ▸ ha)
  change readEscape (ofAscii '\\' :: ofAscii letter :: s) = _
  rw [readEscape_backslash, readBackslash, if_neg (hne 'x' (by simp)), if_neg (hne 'u' (by simp)),
    if_neg (hne 'U' (by simp))]

/-- **What was written for a piece is read as this piece**, whatever is behind it. -/
theorem readEscape_escape {p : Piece} (hp : p.Proper) (s : Bytes) :
    readEscape (escape '"' p ++ s) = some (p, s) := by
  cases p with
  | bad b =>
      have hbyte : readByte b.toNat = .bad b := by
        rw [readByte, if_neg (Nat.not_lt.2 hp)]
        exact congrArg Piece.bad UInt8.ofNat_toNat
      rw [escape, readEscape_two b.toNat_lt, hbyte]
  | good c =>
      have hbound : c.toNat < 0x110000 := by
        rcases c.valid with h | h
        · exact Nat.lt_trans h (by decide)
        · exact h.2
      -- One case for each way in which a character can be written.
      rw [escape, escapeChar]
      split
      · next hmark =>
        rcases hmark with rfl | rfl
        · exact readEscape_letter (by decide) (by decide) s
        · exact readEscape_letter (by decide) (by decide) s
      split
      · next hmark hprint =>
        obtain ⟨hquote, hslash⟩ := not_or.1 hmark
        exact readEscape_encodeChar hquote hslash s
      split
      · next letter hletter =>
        obtain ⟨hread, hdigits, -, hascii⟩ := readLetter_of_controlLetter? hletter
        rw [readEscape_letter hascii hdigits, hread]
      split
      · next hcontrol =>
        have hbyte : readByte c.toNat = .good c := by
          rw [readByte, if_pos (by omega), Char.ofNat_toNat]
        rw [readEscape_two (by omega), hbyte]
      split
      · next hshort => rw [readEscape_four hshort, Char.ofNat_toNat]
      · rw [readEscape_eight (by omega), Char.ofNat_toNat]

/-! ### Reading a whole text -/

/-- Pieces that are written alike in front of a quote are the same. -/
theorem pieces_eq_of_escapes_eq {ps qs : List Piece} {s t : Bytes} (hps : ∀ p ∈ ps, p.Proper)
    (hqs : ∀ q ∈ qs, q.Proper)
    (h : ps.flatMap (escape '"') ++ ofAscii '"' :: s =
      qs.flatMap (escape '"') ++ ofAscii '"' :: t) :
    ps = qs ∧ s = t := by
  -- Both sides are read piece by piece, and end where a quote is found.
  induction ps generalizing qs with
  | nil =>
      cases qs with
      | nil => exact ⟨rfl, (List.cons.inj h).2⟩
      | cons q qs =>
          rw [List.flatMap_cons, List.append_assoc] at h
          have hread := congrArg readEscape h
          rw [readEscape_escape (hqs q (List.mem_cons_self ..))] at hread
          exact absurd ((readEscape_quote s).symm.trans hread) (by simp)
  | cons p ps ih =>
      have hp := hps p (List.mem_cons_self ..)
      rw [List.flatMap_cons, List.append_assoc] at h
      have hread := congrArg readEscape h
      rw [readEscape_escape hp] at hread
      cases qs with
      | nil => exact absurd (hread.trans (readEscape_quote t)) (by simp)
      | cons q qs =>
          rw [List.flatMap_cons, List.append_assoc,
            readEscape_escape (hqs q (List.mem_cons_self ..))] at hread
          obtain ⟨rfl, hrest⟩ := Prod.mk.inj (Option.some.inj hread)
          obtain ⟨rfl, hst⟩ := ih (fun p hp => hps p (List.mem_cons_of_mem _ hp))
            (fun q hq => hqs q (List.mem_cons_of_mem _ hq)) hrest
          exact ⟨rfl, hst⟩

/-- **A quoted text is told apart from all others, and from what is behind it.** -/
theorem quote_append_inj {s t x y : Bytes} (h : quote s ++ x = quote t ++ y) : s = t ∧ x = y := by
  have hquoted : (Utf8.pieces s).flatMap (escape '"') ++ ofAscii '"' :: x =
      (Utf8.pieces t).flatMap (escape '"') ++ ofAscii '"' :: y := by
    simpa [quote] using h
  obtain ⟨hpieces, hxy⟩ := pieces_eq_of_escapes_eq (fun _ => Utf8.proper_of_mem_pieces)
    (fun _ => Utf8.proper_of_mem_pieces) hquoted
  exact ⟨Utf8.eq_of_pieces_eq hpieces, hxy⟩

/-! ### Control characters -/

theorem le_toNat_of_isPrintable {c : Char} (h : isPrintable c = true) : 0x20 ≤ c.toNat := by
  have hranges : ∀ range ∈ printableRanges.ranges, 0x20 ≤ range.1 := by decide +kernel
  obtain ⟨range, hrange, hlow, -⟩ := Ranges.contains_iff.1 h
  exact Nat.le_trans (hranges range hrange) hlow

/-- A printable character is written without control characters. -/
theorem le_toNat_of_mem_encodeChar {c : Char} {b : UInt8} (hc : 0x20 ≤ c.toNat)
    (hb : b ∈ String.utf8EncodeChar c) : 0x20 ≤ b.toNat := by
  by_cases hascii : c.toNat < 128
  · rw [Utf8.encodeChar_of_lt hascii, List.mem_singleton] at hb
    rwa [hb, Utf8.toNat_ofAscii hascii]
  · exact Nat.le_trans (by decide) (Utf8.le_toNat_of_mem_encodeChar hb (Nat.le_of_not_lt hascii))

theorem le_toNat_of_mem_escape {p : Piece} {b : UInt8} (h : b ∈ escape '"' p) :
    0x20 ≤ b.toNat := by
  have hdigits : ∀ (letter : String) (width n : Nat), Bytes.Plain (ofString letter) →
      b ∈ ofString letter ++ Bytes.hex width n → 0x20 ≤ b.toNat := by
    intro letter width n hletter hb
    exact ((hletter.append (Bytes.plain_hex width n)) b hb).1
  have hpair : ∀ a : Char, 0x20 ≤ a.toNat → a.toNat < 128 → b ∈ [ofAscii '\\', ofAscii a] →
      0x20 ≤ b.toNat := by
    intro a ha hascii hb
    rcases List.mem_cons.1 hb with rfl | hb
    · decide
    · rw [List.mem_singleton.1 hb, Utf8.toNat_ofAscii hascii]
      exact ha
  cases p with
  | bad bad => exact hdigits "\\x" 2 _ (by decide) h
  | good c =>
      rw [escape, escapeChar] at h
      split at h
      · next hmark =>
        rcases hmark with rfl | rfl
        · exact hpair '"' (by decide) (by decide) h
        · exact hpair '\\' (by decide) (by decide) h
      split at h
      · next hprint => exact le_toNat_of_mem_encodeChar (le_toNat_of_isPrintable hprint) h
      split at h
      · next letter hletter =>
        obtain ⟨-, -, hrange, hascii⟩ := readLetter_of_controlLetter? hletter
        exact hpair letter hrange hascii h
      split at h
      · exact hdigits "\\x" 2 _ (by decide) h
      split at h
      · exact hdigits "\\u" 4 _ (by decide) h
      · exact hdigits "\\U" 8 _ (by decide) h

/-- **A quoted text has no control characters**, whatever text it is. -/
theorem le_toNat_of_mem_quote {s : Bytes} {b : UInt8} (h : b ∈ quote s) : 0x20 ≤ b.toNat := by
  rcases List.mem_cons.1 h with rfl | h
  · decide
  · rcases List.mem_append.1 h with h | h
    · obtain ⟨p, -, hb⟩ := List.mem_flatMap.1 h
      exact le_toNat_of_mem_escape hb
    · rw [List.mem_singleton.1 h]
      decide

end OnePass.Text
