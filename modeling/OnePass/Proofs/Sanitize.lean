import Mathlib.Data.List.TakeWhile
import OnePass.Proofs.Utf8
import OnePass.Proofs.Word
import OnePass.Source.Sanitize

/-
**Tokens are left as they are.**

What is left of a line when its comment and its blanks are gone is written in UTF-8 and holds no
layout: no comment marker, no space and no tab.  A text like this is its own token.  So a token may
be written on a line again and is read back, and bytes that are not UTF-8 are replaced once only.

A comment is cut off byte by byte, while blanks are taken out of a text that is read as UTF-8.  The
two may be done in either order all the same: a comment marker is ASCII, and a text is read on both
sides of it as if they stood alone, also where it breaks a longer form off.

Main definitions:

* `OnePass.Source.Clean` — a text of characters that are no layout.

Main results:

* `OnePass.Source.Clean.sanitize_eq` — **a clean text is its own token**;
* `OnePass.Source.clean_sanitize` — every token is clean;
* `OnePass.Source.clean_of_isDigit` — a text of binary digits is clean;
* `OnePass.Source.stripBlanks_stripComment` — comments and blanks may go in either order;
* `OnePass.Source.stripBlanks_eq_filter` — a valid text loses its blanks and nothing else;
* `OnePass.Source.sanitize_laws` — **the laws of the sanitizer**, whatever bytes a line holds.
-/

set_option relaxedAutoImplicit false
set_option autoImplicit false

namespace OnePass.Source

/-- A text of characters none of which is a comment marker or a blank. -/
def Clean (s : Bytes) : Prop :=
  ∃ cs : List Char, s = Utf8.encode cs ∧ ∀ c ∈ cs, c ≠ ';' ∧ isBlank c = false

/-- A text without a comment marker has no comment. -/
theorem stripComment_eq_self {s : Bytes} (h : commentMarker ∉ s) : stripComment s = s := by
  rw [stripComment, List.takeWhile_eq_self_iff]
  intro b hb
  have hne : b ≠ commentMarker := fun heq => h (heq ▸ hb)
  simpa using hne

/-- In front of its comment a line has no comment marker. -/
theorem commentMarker_notMem_stripComment (line : Bytes) : commentMarker ∉ stripComment line := by
  intro h
  simpa using List.mem_takeWhile_imp h

/-- **A clean text is its own token.** -/
theorem Clean.sanitize_eq {s : Bytes} (h : Clean s) : sanitize s = s := by
  obtain ⟨cs, rfl, hcs⟩ := h
  have hmarker : commentMarker ∉ Utf8.encode cs := by
    intro hmem
    exact (hcs ';' (Utf8.mem_of_ofAscii_mem_encode (by decide) hmem)).1 rfl
  have hfilter : cs.filter (!isBlank ·) = cs := by
    rw [List.filter_eq_self]
    intro c hc
    simp [(hcs c hc).2]
  rw [sanitize, stripComment_eq_self hmarker, stripBlanks, Utf8.chars_encode, hfilter]

/-- **Every token is clean.** -/
theorem clean_sanitize (line : Bytes) : Clean (sanitize line) := by
  refine ⟨_, rfl, ?_⟩
  intro c hc
  obtain ⟨hmem, hblank⟩ := List.mem_filter.1 hc
  refine ⟨?_, by simpa using hblank⟩
  -- A comment marker is read only where its byte stands, and that is behind what is read.
  rintro rfl
  exact commentMarker_notMem_stripComment line (Utf8.ofAscii_mem_of_mem_chars hmem (by decide))

/-- The sanitizer brings no ASCII character into a line. -/
theorem ofAscii_mem_of_mem_sanitize {line : Bytes} {a : Char} (ha : a.toNat < 128)
    (h : Bytes.ofAscii a ∈ sanitize line) : Bytes.ofAscii a ∈ line := by
  have hchar := (List.mem_filter.1 (Utf8.mem_of_ofAscii_mem_encode ha h)).1
  exact (List.takeWhile_sublist _).subset (Utf8.ofAscii_mem_of_mem_chars hchar ha)

/-- A text of binary digits is clean. -/
theorem clean_of_isDigit {s : Bytes} (h : ∀ b ∈ s, Word.IsDigit b) : Clean s := by
  have hdigit : ∀ b ∈ s, b.toNat = 48 ∨ b.toNat = 49 := by
    intro b hb
    rcases h b hb with rfl | rfl
    · exact Or.inl rfl
    · exact Or.inr rfl
  refine ⟨s.map fun b => Char.ofNat b.toNat, ?_, ?_⟩
  · rw [Utf8.encode_map_ofNat]
    intro b hb
    have := hdigit b hb
    omega
  · intro c hc
    obtain ⟨b, hb, rfl⟩ := List.mem_map.1 hc
    rcases hdigit b hb with hb | hb
    · rw [hb]
      decide
    · rw [hb]
      decide

/-! ### Comments and blanks -/

theorem stripComment_append {front : Bytes} (h : commentMarker ∉ front) (comment : Bytes) :
    stripComment (front ++ commentMarker :: comment) = front := by
  have hfront : ∀ b ∈ front, decide (b ≠ commentMarker) = true := by
    intro b hb
    exact decide_eq_true fun heq => h (heq ▸ hb)
  rw [stripComment, List.takeWhile_append_of_pos hfront]
  simp

/-- Blanks are taken out on both sides of a comment marker, which stays where it is. -/
theorem stripBlanks_append (front comment : Bytes) :
    stripBlanks (front ++ commentMarker :: comment) =
      stripBlanks front ++ commentMarker :: stripBlanks comment := by
  have hchars : Utf8.chars (front ++ commentMarker :: comment) =
      Utf8.chars front ++ ';' :: Utf8.chars comment := Utf8.chars_append_cons _ _ (by decide)
  have hmarker : String.utf8EncodeChar ';' = [commentMarker] := Utf8.encodeChar_of_lt (by decide)
  rw [stripBlanks, hchars, List.filter_append, List.filter_cons_of_pos (by decide)]
  simp only [stripBlanks, Utf8.encode, List.flatMap_append, List.flatMap_cons, hmarker,
    List.singleton_append]

theorem commentMarker_notMem_stripBlanks {s : Bytes} (h : commentMarker ∉ s) :
    commentMarker ∉ stripBlanks s := by
  intro hmem
  have hchar := (List.mem_filter.1 (Utf8.mem_of_ofAscii_mem_encode (by decide) hmem)).1
  exact h (Utf8.ofAscii_mem_of_mem_chars hchar (by decide))

/-- **Comments and blanks may be taken out in either order.** -/
theorem stripBlanks_stripComment (line : Bytes) :
    stripBlanks (stripComment line) = stripComment (stripBlanks line) := by
  by_cases hmem : commentMarker ∈ line
  · obtain ⟨front, comment, rfl, hfront⟩ := List.eq_append_cons_of_mem hmem
    rw [stripComment_append hfront, stripBlanks_append,
      stripComment_append (commentMarker_notMem_stripBlanks hfront)]
  · rw [stripComment_eq_self hmem, stripComment_eq_self (commentMarker_notMem_stripBlanks hmem)]

/-! ### Valid lines -/

/-- A byte that is neither a space nor a tab. -/
def isInk (b : UInt8) : Bool :=
  b ≠ Bytes.ofAscii ' ' ∧ b ≠ Bytes.ofAscii '\t'

/-- The bytes of a character go or stay together. -/
theorem filter_isInk_encodeChar (c : Char) :
    (String.utf8EncodeChar c).filter isInk = if isBlank c then [] else String.utf8EncodeChar c := by
  by_cases hc : c.toNat < 128
  · rw [Utf8.encodeChar_of_lt hc]
    by_cases hblank : isBlank c
    · rw [if_pos hblank]
      rcases of_decide_eq_true hblank with rfl | rfl
      · decide
      · decide
    · rw [if_neg hblank]
      have hne : ¬ (c = ' ' ∨ c = '\t') := fun h => hblank (decide_eq_true h)
      refine List.filter_eq_self.2 fun b hb => decide_eq_true ?_
      rw [List.mem_singleton.1 hb]
      exact ⟨fun h => hne (Or.inl (Utf8.ofAscii_inj hc (by decide) h)),
        fun h => hne (Or.inr (Utf8.ofAscii_inj hc (by decide) h))⟩
  · -- No byte of a longer form is a blank.
    have hblank : ¬ isBlank c := by
      intro h
      rcases of_decide_eq_true h with rfl | rfl
      · exact hc (by decide)
      · exact hc (by decide)
    rw [if_neg hblank]
    refine List.filter_eq_self.2 fun b hb => decide_eq_true ?_
    have hle := Utf8.le_toNat_of_mem_encodeChar hb (by omega)
    constructor
    · rintro rfl
      exact absurd hle (by decide)
    · rintro rfl
      exact absurd hle (by decide)

/-- **A valid text loses its blanks and nothing else.** -/
theorem stripBlanks_eq_filter {s : Bytes} (h : Utf8.Valid s) : stripBlanks s = s.filter isInk := by
  obtain ⟨cs, rfl⟩ := h
  rw [stripBlanks, Utf8.chars_encode]
  induction cs with
  | nil => rfl
  | cons c cs ih =>
      have hcons : Utf8.encode (c :: cs) = String.utf8EncodeChar c ++ Utf8.encode cs := rfl
      rw [hcons, List.filter_append, filter_isInk_encodeChar, ← ih]
      by_cases hblank : isBlank c
      · rw [if_pos hblank, List.filter_cons_of_neg (by simp [hblank]), List.nil_append]
      · rw [if_neg hblank, List.filter_cons_of_pos (by simp [hblank])]
        rfl

/-! ### The laws of the sanitizer -/

/-- A clean text is valid and holds no layout. -/
theorem Clean.valid {s : Bytes} (h : Clean s) : Utf8.Valid s := by
  obtain ⟨cs, rfl, -⟩ := h
  exact ⟨cs, rfl⟩

theorem Clean.ofAscii_notMem {s : Bytes} (h : Clean s) {a : Char} (ha : a = ';' ∨ isBlank a) :
    Bytes.ofAscii a ∉ s := by
  obtain ⟨cs, rfl, hcs⟩ := h
  have hascii : a.toNat < 128 := by
    rcases ha with rfl | ha
    · decide
    · rcases of_decide_eq_true ha with rfl | rfl
      · decide
      · decide
  intro hmem
  obtain ⟨hne, hblank⟩ := hcs a (Utf8.mem_of_ofAscii_mem_encode hascii hmem)
  rcases ha with ha | ha
  · exact hne ha
  · rw [hblank] at ha
    cases ha

/-- **The laws of the sanitizer**, whatever bytes a line holds: comments and blanks may go in either
order, a token is its own token, it is valid UTF-8 without layout, and where what stands in front of
the comment is valid, nothing but its spaces and tabs is taken out of it. -/
theorem sanitize_laws (line : Bytes) :
    stripBlanks (stripComment line) = stripComment (stripBlanks line) ∧
    sanitize (sanitize line) = sanitize line ∧
    Utf8.Valid (sanitize line) ∧
    Bytes.ofAscii ' ' ∉ sanitize line ∧ Bytes.ofAscii '\t' ∉ sanitize line ∧
    Bytes.ofAscii ';' ∉ sanitize line ∧
    ∀ front comment : Bytes, Bytes.ofAscii ';' ∉ front →
      line = front ∨ line = front ++ Bytes.ofAscii ';' :: comment → Utf8.Valid front →
      sanitize line = front.filter fun b => b ≠ Bytes.ofAscii ' ' ∧ b ≠ Bytes.ofAscii '\t' := by
  have hclean := clean_sanitize line
  refine ⟨stripBlanks_stripComment line, hclean.sanitize_eq, hclean.valid,
    hclean.ofAscii_notMem (Or.inr rfl), hclean.ofAscii_notMem (Or.inr rfl),
    hclean.ofAscii_notMem (Or.inl rfl), ?_⟩
  intro front comment hfront hline hvalid
  have hstrip : stripComment line = front := by
    rcases hline with rfl | rfl
    · exact stripComment_eq_self hfront
    · exact stripComment_append hfront comment
  rw [sanitize, hstrip]
  exact stripBlanks_eq_filter hvalid

/-- A line whose comment breaks a longer form off: the line is not valid, what stands in front of
the comment is. -/
theorem sanitize_laws_broken_comment :
    let front := Bytes.ofString "A\tÄ "
    let line := front ++ Bytes.ofAscii ';' :: [0xE2, 0x82]
    ¬ Utf8.Valid line ∧ Utf8.Valid front ∧ sanitize line = Bytes.ofString "AÄ" := by
  have hvalid : Utf8.Valid (Bytes.ofString "A\tÄ ") := by decide
  obtain ⟨-, -, -, -, -, -, hlaw⟩ :=
    sanitize_laws (Bytes.ofString "A\tÄ " ++ Bytes.ofAscii ';' :: [0xE2, 0x82])
  exact ⟨by decide, hvalid, hlaw _ _ (by decide) (Or.inr rfl) hvalid⟩

end OnePass.Source
