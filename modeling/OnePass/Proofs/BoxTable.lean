import Mathlib.Algebra.GroupWithZero.Nat
import Mathlib.Algebra.Order.BigOperators.Group.List
import Mathlib.Algebra.Order.Group.Nat
import Mathlib.Data.List.DropRight
import Mathlib.Data.List.Forall2
import OnePass.Image.BoxTable
import OnePass.Proofs.Plain

/-
**What a drawn table shows.**

A table is drawn to be looked at, but it can also be read: what stands between two bars of a line is
a cell, with blanks around it.  For this the cells must be plain texts that neither begin nor end
with a blank, and the title must not be wider than the columns.  Then a column is at least as wide
as each of its cells, every line has the same number of characters, and the cells that are read are
the cells that were drawn, in the same order.

Main definitions:

* `OnePass.BoxTable.readCells` — **the cells of a drawn line**, read without knowing the table;
* `OnePass.BoxTable.IsCell` — a text that can be told apart from the blanks around it;
* `OnePass.BoxTable.IsSimple` — a table of such texts;
* `OnePass.BoxTable.Drawing` — a text of lines of one width, together with the cells on each.

Main results:

* `OnePass.BoxTable.forall₂_columnWidths` — **a column is as wide as each of its cells**;
* `OnePass.BoxTable.trim_fit` — a cell is what is left of a fitted cell without its blanks;
* `OnePass.BoxTable.Drawing.render` — **a drawn table is a rectangle that shows its cells**.
-/

set_option relaxedAutoImplicit false
set_option autoImplicit false

namespace OnePass

open Bytes (ofString ofAscii)

/-! ### Plain text takes one column for every byte -/

namespace Text

theorem charWidth_of_plain {c : Char} (hlow : 0x20 ≤ c.toNat) (hhigh : c.toNat < 0x7F) :
    charWidth c = 1 := by
  have hranges : ∀ n < 0x7F, 0x20 ≤ n →
      zeroWidthRanges.contains n = false ∧ wideRanges.contains n = false := by decide
  obtain ⟨hzero, hwide⟩ := hranges c.toNat hhigh hlow
  simp [charWidth, hzero, hwide]

/-- Printable ASCII characters never open an escape sequence. -/
theorem foldl_addWidth_of_plain {cs : List Char} (columns : Nat)
    (h : ∀ c ∈ cs, 0x20 ≤ c.toNat ∧ c.toNat < 0x7F) :
    cs.foldl addWidth (.outside, columns) = (.outside, columns + cs.length) := by
  induction cs generalizing columns with
  | nil => rfl
  | cons c cs ih =>
      obtain ⟨⟨hlow, hhigh⟩, hcs⟩ := List.forall_mem_cons.1 h
      have hescape : c ≠ '\x1b' := by
        rintro rfl
        exact absurd hlow (by decide)
      have hstep : addWidth (.outside, columns) c = (.outside, columns + 1) := by
        simp [addWidth, Escape.next, hescape, charWidth_of_plain hlow hhigh]
      rw [List.foldl_cons, hstep, ih _ hcs, List.length_cons, Nat.add_right_comm, Nat.add_assoc]

end Text

namespace BoxTable

open Bytes (Plain)
open Utf8 (encode encode_append)

namespace Cell

theorem lineWidth_of_plain {s : Bytes} (hs : Plain s) : lineWidth s = s.length := by
  have hchars : ∀ c ∈ s.map (fun b => Char.ofNat b.toNat), 0x20 ≤ c.toNat ∧ c.toNat < 0x7F := by
    intro c hc
    obtain ⟨b, hb, rfl⟩ := List.mem_map.1 hc
    rw [(hs b hb).toNat_char]
    exact hs b hb
  rw [lineWidth, hs.chars_eq, Text.textWidth, Text.foldl_addWidth_of_plain 0 hchars, Nat.zero_add,
    List.length_map]

/-- A plain text is a cell of one line. -/
theorem settle_of_plain {s : Bytes} (hs : Plain s) : settle s = [s] := by
  have hreturn : Bytes.carriageReturn ∉ s := hs.not_mem (by decide)
  rw [settle, Bytes.lines_of_not_mem (hs.not_mem (by decide)), List.map_singleton, settleLine,
    if_neg (by simpa using hreturn)]

theorem width_settle_of_plain {s : Bytes} (hs : Plain s) : width (settle s) = s.length := by
  simp [settle_of_plain hs, width, lineWidth_of_plain hs]

theorem map_settle_of_plain {cells : List Bytes} (h : ∀ s ∈ cells, Plain s) :
    cells.map settle = cells.map ([·]) :=
  List.map_congr_left fun s hs => settle_of_plain (h s hs)

end Cell

/-! ### The width of a column -/

section

variable {xs ys widths : List Nat}

theorem forall₂_le_zipWith_max_left (h : List.Forall₂ (· ≤ ·) xs widths)
    (hlength : ys.length = widths.length) :
    List.Forall₂ (· ≤ ·) xs (List.zipWith max widths ys) := by
  induction h generalizing ys with
  | nil => exact .nil
  | cons hle _ ih =>
      obtain ⟨y, ys, rfl⟩ := List.exists_cons_of_length_eq_add_one hlength
      exact .cons (Nat.le_trans hle (Nat.le_max_left ..)) (ih (Nat.succ.inj hlength))

theorem forall₂_le_zipWith_max_right (hlength : ys.length = widths.length) :
    List.Forall₂ (· ≤ ·) ys (List.zipWith max widths ys) := by
  induction ys generalizing widths with
  | nil => simp
  | cons y ys ih =>
      obtain ⟨w, widths, rfl⟩ := List.exists_cons_of_length_eq_add_one hlength.symm
      exact .cons (Nat.le_max_right ..) (ih (Nat.succ.inj hlength))

/-- Maxima of rows are bounds of all rows, and of whatever the first widths were bounds of. -/
theorem forall₂_le_foldl_max {rows : List (List Nat)}
    (hlength : ∀ ys ∈ rows, ys.length = widths.length) :
    (∀ xs, List.Forall₂ (· ≤ ·) xs widths →
      List.Forall₂ (· ≤ ·) xs (rows.foldl (List.zipWith max) widths)) ∧
    ∀ ys ∈ rows, List.Forall₂ (· ≤ ·) ys (rows.foldl (List.zipWith max) widths) := by
  induction rows generalizing widths with
  | nil => exact ⟨fun xs h => h, by simp⟩
  | cons row rows ih =>
      obtain ⟨hrow, hrows⟩ := List.forall_mem_cons.1 hlength
      have hwidths : (List.zipWith max widths row).length = widths.length := by
        rw [List.length_zipWith, hrow, Nat.min_self]
      obtain ⟨hbound, hmem⟩ := ih fun ys hys => (hrows ys hys).trans hwidths.symm
      refine ⟨fun xs h => hbound xs (forall₂_le_zipWith_max_left h hrow), ?_⟩
      refine List.forall_mem_cons.2 ⟨?_, hmem⟩
      exact hbound row (forall₂_le_zipWith_max_right hrow)

end

/-- **A column is as wide as each of its cells.** -/
theorem forall₂_columnWidths {heads : List Cell} {rows : List (List Cell)}
    (hlength : ∀ cells ∈ rows, cells.length = heads.length) :
    ∀ cells ∈ heads :: rows,
      List.Forall₂ (fun cell width => Cell.width cell ≤ width) cells (columnWidths heads rows) := by
  have hfold : columnWidths heads rows =
      (rows.map (·.map Cell.width)).foldl (List.zipWith max) (heads.map Cell.width) :=
    List.foldl_map.symm
  have hmapped : ∀ ys ∈ rows.map (·.map Cell.width), ys.length = (heads.map Cell.width).length := by
    intro ys hys
    obtain ⟨cells, hcells, rfl⟩ := List.mem_map.1 hys
    rw [List.length_map, List.length_map, hlength cells hcells]
  obtain ⟨hbound, hmem⟩ := forall₂_le_foldl_max hmapped
  rw [hfold]
  refine List.forall_mem_cons.2 ⟨?_, fun cells hcells => ?_⟩
  · exact List.forall₂_map_left_iff.1 (hbound _ (List.forall₂_refl _))
  · exact List.forall₂_map_left_iff.1 (hmem _ (List.mem_map_of_mem hcells))

/-! ### Reading a drawn line -/

/-- A text without the blanks at its ends. -/
def trim (s : Bytes) : Bytes :=
  (s.dropWhile (· == ofAscii ' ')).rdropWhile (· == ofAscii ' ')

/-- **The cells of a drawn line**: what stands between two bars, without the blanks around it.  A
rule has no bars and shows no cells. -/
def readCells (line : Bytes) : List Bytes :=
  ((Utf8.chars line).splitOn '│').tail.dropLast.map fun part => trim (encode part)

/-- A plain text that can be told apart from the blanks around it. -/
def IsCell (s : Bytes) : Prop :=
  Plain s ∧ s.head? ≠ some (ofAscii ' ') ∧ s.getLast? ≠ some (ofAscii ' ')

instance (s : Bytes) : Decidable (IsCell s) := inferInstanceAs (Decidable (_ ∧ _))

/-- A plain text without blanks can be told apart from the blanks around it. -/
theorem isCell_of_not_mem {s : Bytes} (hs : Plain s) (h : ofAscii ' ' ∉ s) : IsCell s :=
  ⟨hs, fun hhead => h (List.mem_of_mem_head? hhead), fun hlast => h (List.mem_of_getLast? hlast)⟩

theorem dropWhile_blanks {s : Bytes} (n : Nat) (h : s.head? ≠ some (ofAscii ' ')) :
    (List.replicate n (ofAscii ' ') ++ s).dropWhile (· == ofAscii ' ') = s := by
  rw [List.dropWhile_append_of_pos (by simp)]
  cases s with
  | nil => rfl
  | cons b s =>
      have hb : b ≠ ofAscii ' ' := fun hb => h (congrArg some hb)
      simp [hb]

theorem trim_blanks {s : Bytes} (hs : IsCell s) (m n : Nat) :
    trim (List.replicate m (ofAscii ' ') ++ s ++ List.replicate n (ofAscii ' ')) = s := by
  obtain ⟨-, hhead, hlast⟩ := hs
  have hright : (s ++ List.replicate n (ofAscii ' ')).rdropWhile (· == ofAscii ' ') = s := by
    rw [List.rdropWhile, List.reverse_append, List.reverse_replicate, dropWhile_blanks,
      List.reverse_reverse]
    rwa [List.head?_reverse]
  cases s with
  | nil =>
      -- There are only blanks, and all of them go from the left.
      have hnone := dropWhile_blanks (m + n) hhead
      rw [List.append_nil] at hnone
      rw [List.append_nil, List.replicate_append_replicate, trim, hnone]
      rfl
  | cons b s =>
      rw [List.append_assoc, trim, dropWhile_blanks, hright]
      exact hhead

/-- A fitted text is the text with blanks on one side, as many as are missing. -/
theorem exists_fit_eq (align : Align) (width : Nat) {s : Bytes} (hs : Plain s) :
    ∃ m n, m + n = width - s.length ∧
      fit align width s =
        List.replicate m (ofAscii ' ') ++ s ++ List.replicate n (ofAscii ' ') := by
  cases align with
  | left => exact ⟨0, width - s.length, by omega, by simp [fit, Cell.lineWidth_of_plain hs]⟩
  | right => exact ⟨width - s.length, 0, by omega, by simp [fit, Cell.lineWidth_of_plain hs]⟩

section

variable {align : Align} {width : Nat} {s : Bytes}

theorem length_fit (hs : Plain s) (hle : s.length ≤ width) :
    (fit align width s).length = width := by
  obtain ⟨m, n, hmn, hfit⟩ := exists_fit_eq align width hs
  simp only [hfit, List.length_append, List.length_replicate]
  omega

theorem plain_fit (hs : Plain s) : Plain (fit align width s) := by
  obtain ⟨m, n, -, hfit⟩ := exists_fit_eq align width hs
  rw [hfit]
  exact ((Plain.replicate m (by decide)).append hs).append (Plain.replicate n (by decide))

/-- **A cell is what is left of a fitted cell** between two bars without its blanks. -/
theorem trim_fit (hs : IsCell s) :
    trim (ofAscii ' ' :: fit align width s ++ [ofAscii ' ']) = s := by
  obtain ⟨m, n, -, hfit⟩ := exists_fit_eq align width hs.1
  have hblanks : ofAscii ' ' :: fit align width s ++ [ofAscii ' '] =
      List.replicate (m + 1) (ofAscii ' ') ++ s ++ List.replicate (n + 1) (ofAscii ' ') := by
    rw [hfit, List.replicate_succ, List.replicate_succ']
    simp only [List.cons_append, List.append_assoc]
  rw [hblanks, trim_blanks hs]

end

/-- The cells of a row, moved to their places. -/
def fitted (layout : List (Align × Nat)) (cells : List Bytes) : List Bytes :=
  List.zipWith (fun place s => fit place.1 place.2 s) layout cells

/-- Cells that fit take all the width there is, and are found between the blanks again. -/
theorem fitted_of_isCell {layout : List (Align × Nat)} {cells : List Bytes}
    (hcells : ∀ s ∈ cells, IsCell s)
    (hfits : List.Forall₂ (fun s place => s.length ≤ place.2) cells layout) :
    (fitted layout cells).map List.length = layout.map (·.2) ∧
      (fitted layout cells).map (fun s => trim (ofAscii ' ' :: s ++ [ofAscii ' '])) = cells ∧
      ∀ s ∈ fitted layout cells, Plain s := by
  induction hfits with
  | nil => exact ⟨rfl, rfl, by simp [fitted]⟩
  | @cons s place cells layout hle _ ih =>
      obtain ⟨hcell, hcells⟩ := List.forall_mem_cons.1 hcells
      obtain ⟨hlength, hread, hplain⟩ := ih hcells
      refine ⟨?_, ?_, ?_⟩
      · exact congrArg₂ List.cons (length_fit hcell.1 hle) hlength
      · exact congrArg₂ List.cons (trim_fit hcell) hread
      · exact List.forall_mem_cons.2 ⟨plain_fit hcell.1, hplain⟩

/-- A row of plain cells is one line high. -/
theorem row_of_plain {layout : List (Align × Nat)} {cells : List Bytes} (hne : cells ≠ [])
    (hplain : ∀ s ∈ cells, Plain s) :
    row layout (cells.map Cell.settle) = barred (fitted layout cells) := by
  have hheight : ((cells.map ([·])).map List.length).foldl max 0 = 1 := by
    obtain ⟨s, cells, rfl⟩ := List.exists_cons_of_ne_nil hne
    rw [List.map_map, List.foldl_map, List.foldl_cons]
    exact List.foldl_fixed' (fun _ => rfl) cells
  rw [Cell.map_settle_of_plain hplain, row, hheight]
  simp [fitted, List.zipWith_map_right]

/-! ### Lines of characters -/

theorem join_map_encode (sep : List Char) (parts : List (List Char)) :
    Bytes.join (encode sep) (parts.map encode) = encode (sep.intercalate parts) := by
  induction parts with
  | nil => rfl
  | cons part parts ih =>
      cases parts with
      | nil => simp
      | cons part' parts =>
          rw [List.map_cons, List.map_cons, Bytes.join_cons_cons, ← List.map_cons, ih,
            List.intercalate_cons_cons, encode_append, encode_append]

/-- Parts with a separator between neighbours are as long as if there were one behind each, but for
the last one. -/
theorem length_intercalate_add (sep : List Char) {parts : List (List Char)} (hne : parts ≠ []) :
    (sep.intercalate parts).length + sep.length = (parts.map (·.length + sep.length)).sum := by
  induction parts with
  | nil => exact absurd rfl hne
  | cons part parts ih =>
      cases parts with
      | nil => simp
      | cons part' parts =>
          have hrest := ih (List.cons_ne_nil _ _)
          rw [List.intercalate_cons_cons, List.map_cons, List.sum_cons, ← hrest]
          simp only [List.length_append]
          omega

/-- What stands in joined parts stands in the separator or in one of the parts. -/
theorem mem_intercalate {c : Char} {sep : List Char} {parts : List (List Char)}
    (h : c ∈ sep.intercalate parts) : c ∈ sep ∨ ∃ part ∈ parts, c ∈ part := by
  induction parts with
  | nil => cases h
  | cons part parts ih =>
      cases parts with
      | nil => exact Or.inr ⟨part, by simp, by simpa using h⟩
      | cons part' parts =>
          rw [List.intercalate_cons_cons, List.mem_append, List.mem_append] at h
          rcases h with (h | h) | h
          · exact Or.inr ⟨part, by simp, h⟩
          · exact Or.inl h
          · rcases ih h with h | ⟨part'', hpart, h⟩
            · exact Or.inl h
            · exact Or.inr ⟨part'', List.mem_cons_of_mem _ hpart, h⟩

/-- The characters of a line of cells. -/
def barChars (cells : List (List Char)) : List Char :=
  ['│', ' '] ++ [' ', '│', ' '].intercalate cells ++ [' ', '│']

/-- The characters of a rule. -/
def ruleChars (left joint right : Char) (widths : List Nat) : List Char :=
  [left] ++ [joint].intercalate (widths.map fun width => List.replicate (width + 2) '─') ++ [right]

theorem barred_map_encode (cells : List (List Char)) :
    barred (cells.map encode) = encode (barChars cells) ++ [Bytes.newline] := by
  rw [barChars, encode_append, encode_append, ← join_map_encode]
  rfl

theorem rule_eq {left joint right : String} {l j r : Char} (hl : left.toList = [l])
    (hj : joint.toList = [j]) (hr : right.toList = [r]) (widths : List Nat) :
    rule left joint right widths = encode (ruleChars l j r widths) ++ [Bytes.newline] := by
  have hsegment : ∀ n, repeated n (ofString "─") = encode (List.replicate n '─') := by
    intro n
    rw [repeated, encode, List.flatMap_def, List.map_replicate]
    rfl
  have hliteral : ∀ (s : String) (c : Char), s.toList = [c] → ofString s = encode [c] := by
    intro s c hs
    rw [ofString, hs, encode]
  rw [ruleChars, encode_append, encode_append, ← join_map_encode, List.map_map, rule,
    hliteral left l hl, hliteral joint j hj, hliteral right r hr]
  simp only [hsegment, Function.comp_def]

/-- The number of characters on a line: a bar, and for every column its cell, two blanks and another
bar. -/
def span (widths : List Nat) : Nat :=
  (widths.map (· + 3)).sum + 1

theorem length_barChars {cells : List (List Char)} (hne : cells ≠ []) :
    (barChars cells).length = span (cells.map List.length) := by
  have hparts := length_intercalate_add [' ', '│', ' '] hne
  simp only [barChars, span, List.length_append, List.length_cons, List.length_nil, Nat.reduceAdd,
    List.map_map, Function.comp_def] at hparts ⊢
  omega

theorem length_ruleChars {left joint right : Char} {widths : List Nat} (hne : widths ≠ []) :
    (ruleChars left joint right widths).length = span widths := by
  have hsegments : widths.map (fun width => List.replicate (width + 2) '─') ≠ [] := by
    simpa using hne
  have hparts := length_intercalate_add [joint] hsegments
  simp only [List.map_map, Function.comp_def, List.length_replicate, List.length_singleton,
    Nat.add_assoc, Nat.reduceAdd] at hparts
  simp only [ruleChars, span, List.length_append, List.length_singleton]
  omega

/-- What stands behind the first bar of a line is cut into the cells, with a blank on either side.
-/
theorem splitOn_intercalate_bars {cells : List (List Char)} (hne : cells ≠ [])
    (h : ∀ cell ∈ cells, '│' ∉ cell) :
    (' ' :: [' ', '│', ' '].intercalate cells ++ [' ', '│']).splitOn '│' =
      cells.map (fun cell => ' ' :: cell ++ [' ']) ++ [[]] := by
  induction cells with
  | nil => exact absurd rfl hne
  | cons cell cells ih =>
      obtain ⟨hcell, hcells⟩ := List.forall_mem_cons.1 h
      have hpart : '│' ∉ ' ' :: cell ++ [' '] := by simp [hcell]
      cases cells with
      | nil =>
          have hcut := List.splitOn_append_cons_self_of_not_mem hpart []
          simpa using hcut
      | cons cell' cells =>
          have hcut := List.splitOn_append_cons_self_of_not_mem hpart
            (' ' :: [' ', '│', ' '].intercalate (cell' :: cells) ++ [' ', '│'])
          rw [ih (List.cons_ne_nil _ _) hcells] at hcut
          rw [List.intercalate_cons_cons]
          simpa only [List.map_cons, List.append_assoc, List.cons_append, List.nil_append]
            using hcut

/-- **A line of cells is cut at its bars into the cells.** -/
theorem splitOn_barChars {cells : List (List Char)} (hne : cells ≠ [])
    (h : ∀ cell ∈ cells, '│' ∉ cell) :
    (barChars cells).splitOn '│' = [] :: cells.map (fun cell => ' ' :: cell ++ [' ']) ++ [[]] := by
  rw [List.cons_append, ← splitOn_intercalate_bars hne h]
  exact List.splitOn_append_cons_self_of_not_mem List.not_mem_nil _

/-- Plain cells are written with characters that are neither bars nor line feeds, one for every
byte. -/
theorem exists_map_encode_eq {cells : List Bytes} (hplain : ∀ s ∈ cells, Plain s) :
    ∃ parts : List (List Char), parts.map encode = cells ∧
      parts.map List.length = cells.map List.length ∧
      ∀ part ∈ parts, ∀ c ∈ part, c ≠ '│' ∧ c ≠ '\n' := by
  refine ⟨cells.map fun s => s.map fun b => Char.ofNat b.toNat, ?_, ?_, ?_⟩
  · rw [List.map_map]
    exact (List.map_congr_left fun s hs => (hplain s hs).eq_encode.symm).trans (List.map_id cells)
  · simp [Function.comp_def]
  · intro part hpart c hc
    obtain ⟨s, hs, rfl⟩ := List.mem_map.1 hpart
    obtain ⟨b, hb, rfl⟩ := List.mem_map.1 hc
    obtain ⟨hlow, hhigh⟩ := hplain s hs b hb
    rw [← (hplain s hs b hb).toNat_char] at hlow hhigh
    refine ⟨fun hbar => ?_, fun hfeed => ?_⟩
    · rw [hbar] at hhigh
      exact absurd hhigh (by decide)
    · rw [hfeed] at hlow
      exact absurd hlow (by decide)

/-! ### Drawings -/

/-- **A text of lines of one width**, together with the cells that each of them shows. -/
def Drawing (width : Nat) (shown : List (List Bytes)) (text : Bytes) : Prop :=
  ∃ lines : List Bytes, text = Bytes.unlines lines ∧
    (∀ line ∈ lines, Bytes.newline ∉ line ∧ (Utf8.chars line).length = width) ∧
    lines.map readCells = shown

namespace Drawing

variable {width : Nat} {shown shown' : List (List Bytes)} {text text' : Bytes}

theorem append (h : Drawing width shown text) (h' : Drawing width shown' text') :
    Drawing width (shown ++ shown') (text ++ text') := by
  obtain ⟨lines, rfl, hlines, rfl⟩ := h
  obtain ⟨lines', rfl, hlines', rfl⟩ := h'
  refine ⟨lines ++ lines', List.flatMap_append.symm, ?_, List.map_append⟩
  intro line hline
  rcases List.mem_append.1 hline with hline | hline
  · exact hlines line hline
  · exact hlines' line hline

/-- A text shows one thing only. -/
theorem unique {width' : Nat} (h : Drawing width shown text) (h' : Drawing width' shown' text) :
    shown = shown' := by
  obtain ⟨lines, rfl, hlines, rfl⟩ := h
  obtain ⟨lines', hsame, hlines', rfl⟩ := h'
  have hcut := congrArg Bytes.lines hsame
  rw [Bytes.lines_unlines fun line hline => (hlines line hline).1,
    Bytes.lines_unlines fun line hline => (hlines' line hline).1] at hcut
  rw [List.append_cancel_right hcut]

/-- Drawings one below the other. -/
theorem flatMap {rows : List (List Bytes)} {draw : List Bytes → Bytes}
    (h : ∀ cells ∈ rows, Drawing width [cells] (draw cells)) :
    Drawing width rows (rows.flatMap draw) := by
  induction rows with
  | nil => exact ⟨[], rfl, by simp, rfl⟩
  | cons cells rows ih =>
      obtain ⟨hcells, hrows⟩ := List.forall_mem_cons.1 h
      exact hcells.append (ih hrows)

/-- A line of characters is a drawing. -/
theorem of_encode {cs : List Char} (hnewline : '\n' ∉ cs) :
    Drawing cs.length [(cs.splitOn '│').tail.dropLast.map fun part => trim (encode part)]
      (encode cs ++ [Bytes.newline]) := by
  refine ⟨[encode cs], (List.flatMap_singleton ..).symm, ?_, ?_⟩
  · intro line hline
    rw [List.mem_singleton.1 hline, Utf8.chars_encode]
    exact ⟨fun hmem => hnewline (Utf8.mem_of_ofAscii_mem_encode (by decide) hmem), rfl⟩
  · rw [List.map_singleton, readCells, Utf8.chars_encode]

/-- A rule shows no cells. -/
theorem rule (left joint right : String) {l j r : Char} {widths : List Nat} (hne : widths ≠ [])
    (hl : left.toList = [l]) (hj : joint.toList = [j]) (hr : right.toList = [r])
    (hends : '│' ∉ [l, j, r] ∧ '\n' ∉ [l, j, r]) :
    Drawing (span widths) [[]] (BoxTable.rule left joint right widths) := by
  -- Everything on the line is one of the given characters or a dash.
  have hmem : ∀ c ∈ ruleChars l j r widths, c ∈ [l, j, r] ∨ c = '─' := by
    intro c hc
    simp only [ruleChars, List.mem_append, List.mem_singleton] at hc
    rcases hc with (rfl | hc) | rfl
    · simp
    · rcases mem_intercalate hc with hc | ⟨part, hpart, hc⟩
      · simp [List.mem_singleton.1 hc]
      · obtain ⟨width, -, rfl⟩ := List.mem_map.1 hpart
        exact Or.inr (List.eq_of_mem_replicate hc)
    · simp
  have hbar : '│' ∉ ruleChars l j r widths := fun h => (hmem _ h).elim hends.1 (by decide)
  have hnewline : '\n' ∉ ruleChars l j r widths := fun h => (hmem _ h).elim hends.2 (by decide)
  have hline := of_encode hnewline
  rw [List.splitOn_eq_singleton hbar, length_ruleChars hne] at hline
  rw [rule_eq hl hj hr]
  exact hline

/-- **Cells between bars are read back**, with the blanks at their ends taken away. -/
theorem barred {cells : List Bytes} (hne : cells ≠ []) (hplain : ∀ s ∈ cells, Plain s) :
    Drawing (span (cells.map List.length))
      [cells.map fun s => trim (ofAscii ' ' :: s ++ [ofAscii ' '])] (BoxTable.barred cells) := by
  obtain ⟨parts, rfl, hlength, hchars⟩ := exists_map_encode_eq hplain
  have hparts : parts ≠ [] := by simpa using hne
  have hnewline : '\n' ∉ barChars parts := by
    intro h
    simp only [barChars, List.mem_append] at h
    rcases h with (h | h) | h
    · exact absurd h (by decide)
    · rcases mem_intercalate h with h | ⟨part, hpart, h⟩
      · exact absurd h (by decide)
      · exact (hchars part hpart _ h).2 rfl
    · exact absurd h (by decide)
  have hshown : (parts.map fun part => ' ' :: part ++ [' ']).map (fun part => trim (encode part)) =
      (parts.map encode).map fun s => trim (ofAscii ' ' :: s ++ [ofAscii ' ']) := by
    rw [List.map_map, List.map_map]
    refine List.map_congr_left fun part _ => congrArg trim ?_
    rw [encode_append]
    rfl
  have hline := of_encode hnewline
  rwa [splitOn_barChars hparts fun part hpart h => (hchars part hpart _ h).1 rfl,
    length_barChars hparts, List.cons_append, List.tail_cons, List.dropLast_concat, hlength, hshown,
    ← barred_map_encode] at hline

/-- **A row of cells that fit is one line, and shows the cells.** -/
theorem row {layout : List (Align × Nat)} {cells : List Bytes} (hne : cells ≠ [])
    (hcells : ∀ s ∈ cells, IsCell s)
    (hfits : List.Forall₂ (fun s place => s.length ≤ place.2) cells layout) :
    Drawing (span (layout.map (·.2))) [cells]
      (BoxTable.row layout (cells.map Cell.settle)) := by
  have hplain : ∀ s ∈ cells, Plain s := fun s hs => (hcells s hs).1
  obtain ⟨hlength, hread, hfitted⟩ := fitted_of_isCell hcells hfits
  have hne' : fitted layout cells ≠ [] := by
    intro hnil
    rw [hnil] at hread
    exact hne hread.symm
  have hline := barred hne' hfitted
  rw [hread, hlength] at hline
  rwa [row_of_plain hne hplain]

end Drawing

/-! ### The drawing of a table -/

/-- A table of texts that can be told apart from the blanks around them. -/
structure IsSimple (table : BoxTable) : Prop where
  /-- There is a column. -/
  columns_ne_nil : table.columns ≠ []
  /-- The title is such a text. -/
  isCell_title : IsCell table.title
  /-- The title is not wider than the headings. -/
  length_title_le : table.title.length ≤
    (table.columns.map (·.heading.length)).sum + 3 * (table.columns.length - 1)
  /-- The headings are such texts. -/
  isCell_heading : ∀ column ∈ table.columns, IsCell column.heading
  /-- The footings are such texts. -/
  isCell_footing : ∀ column ∈ table.columns, IsCell column.footing
  /-- Every row has a cell for each column. -/
  length_row : ∀ cells ∈ table.rows, cells.length = table.columns.length
  /-- The cells are such texts. -/
  isCell_of_mem : ∀ cells ∈ table.rows, ∀ s ∈ cells, IsCell s

section

variable {table : BoxTable}

/-- The width of every column of a table. -/
def widths (table : BoxTable) : List Nat :=
  columnWidths (table.columns.map (Cell.settle ·.heading))
    (table.columns.map (Cell.settle ·.footing) :: table.rows.map (·.map Cell.settle))

/-- The place of every column: where its cells stand, and how wide it is. -/
def layout (table : BoxTable) : List (Align × Nat) :=
  List.zip (table.columns.map (·.align)) table.widths

/-- The width of the title line between its blanks. -/
def innerWidth (table : BoxTable) : Nat :=
  table.widths.foldl (· + ·) 0 + 3 * (table.widths.length - 1)

/-- All rows of a table, the headings and the footings first. -/
def allRows (table : BoxTable) : List (List Bytes) :=
  table.columns.map (·.heading) :: table.columns.map (·.footing) :: table.rows

theorem render_eq (table : BoxTable) :
    table.render =
      rule "┌" "─" "┐" table.widths
        ++ barred [fit .left table.innerWidth table.title]
        ++ rule "├" "┬" "┤" table.widths
        ++ row table.layout ((table.columns.map (·.heading)).map Cell.settle)
        ++ rule "├" "┼" "┤" table.widths
        ++ table.rows.flatMap (fun cells => row table.layout (cells.map Cell.settle))
        ++ rule "├" "┼" "┤" table.widths
        ++ row table.layout ((table.columns.map (·.footing)).map Cell.settle)
        ++ rule "└" "┴" "┘" table.widths := by
  rw [List.map_map, List.map_map]
  simp only [render, List.flatMap_map]
  rfl

namespace IsSimple

theorem isCell_of_mem_allRows (h : table.IsSimple) :
    ∀ cells ∈ table.allRows, ∀ s ∈ cells, IsCell s := by
  refine List.forall_mem_cons.2 ⟨?_, List.forall_mem_cons.2 ⟨?_, h.isCell_of_mem⟩⟩
  · exact List.forall_mem_map.2 h.isCell_heading
  · exact List.forall_mem_map.2 h.isCell_footing

theorem length_of_mem_allRows (h : table.IsSimple) :
    ∀ cells ∈ table.allRows, cells.length = table.columns.length := by
  refine List.forall_mem_cons.2 ⟨List.length_map _, List.forall_mem_cons.2 ⟨?_, h.length_row⟩⟩
  exact List.length_map _

/-- The cells of every row fit into the columns. -/
theorem fits (h : table.IsSimple) : ∀ cells ∈ table.allRows,
    List.Forall₂ (fun s width => s.length ≤ width) cells table.widths := by
  intro cells hcells
  have hbounds : ∀ settled ∈ table.allRows.map (·.map Cell.settle),
      List.Forall₂ (fun cell width => Cell.width cell ≤ width) settled table.widths := by
    have hall : table.allRows.map (·.map Cell.settle) =
        table.columns.map (Cell.settle ·.heading) ::
          table.columns.map (Cell.settle ·.footing) :: table.rows.map (·.map Cell.settle) := by
      simp [allRows]
    rw [hall]
    refine forall₂_columnWidths (List.forall_mem_cons.2 ⟨by simp, List.forall_mem_map.2 ?_⟩)
    intro cells hcells
    rw [List.length_map, List.length_map, h.length_row cells hcells]
  have hplain : ∀ s ∈ cells, Plain s := fun s hs => (h.isCell_of_mem_allRows cells hcells s hs).1
  have hle := List.forall₂_map_left_iff.1 (hbounds _ (List.mem_map_of_mem hcells))
  refine ((List.forall₂_and_left ..).2 ⟨hplain, hle⟩).imp ?_
  rintro s width ⟨hs, hle⟩
  rwa [Cell.width_settle_of_plain hs] at hle

theorem length_widths (h : table.IsSimple) : table.widths.length = table.columns.length := by
  have hlength := (h.fits _ (List.mem_cons_self ..)).length_eq
  rw [← hlength, List.length_map]

theorem map_snd_layout (h : table.IsSimple) : table.layout.map (·.2) = table.widths := by
  refine List.map_snd_zip ?_
  rw [List.length_map, h.length_widths]

/-- The line of a row. -/
theorem drawing_row (h : table.IsSimple) {cells : List Bytes} (hcells : cells ∈ table.allRows) :
    Drawing (span table.widths) [cells]
      (row table.layout (cells.map Cell.settle)) := by
  have hne : cells ≠ [] := by
    rintro rfl
    exact h.columns_ne_nil (List.length_eq_zero_iff.1 (h.length_of_mem_allRows [] hcells).symm)
  have hfits := h.fits cells hcells
  rw [← h.map_snd_layout] at hfits ⊢
  exact Drawing.row hne (h.isCell_of_mem_allRows cells hcells)
    (List.forall₂_map_right_iff.1 hfits)

/-- The line of the title is as wide as the others. -/
theorem drawing_title (h : table.IsSimple) :
    Drawing (span table.widths) [[table.title]]
      (barred [fit .left table.innerWidth table.title]) := by
  have hpos := List.length_pos_iff.2 h.columns_ne_nil
  have hinner : table.innerWidth = table.widths.sum + 3 * (table.columns.length - 1) := by
    rw [innerWidth, h.length_widths, List.sum_eq_foldl]
  have hheadings : (table.columns.map (·.heading.length)).sum ≤ table.widths.sum := by
    have hfits := h.fits _ (List.mem_cons_self ..)
    rw [List.forall₂_map_left_iff] at hfits
    exact List.Forall₂.sum_le_sum (List.forall₂_map_left_iff.2 hfits)
  have hle : table.title.length ≤ table.innerWidth := by
    have := h.length_title_le
    omega
  have hspan : span table.widths = span [table.innerWidth] := by
    rw [span, List.sum_map_add, List.map_id', List.map_const', List.sum_replicate_nat,
      h.length_widths, span, List.map_singleton, List.sum_singleton, hinner]
    omega
  have hline := Drawing.barred (List.cons_ne_nil (fit .left table.innerWidth table.title) [])
    (List.forall_mem_singleton.2 (plain_fit h.isCell_title.1))
  rw [List.map_singleton, List.map_singleton, trim_fit h.isCell_title,
    length_fit h.isCell_title.1 hle] at hline
  rwa [hspan]

end IsSimple

/-- **A drawn table is a rectangle that shows its cells.** -/
theorem Drawing.render (h : table.IsSimple) :
    Drawing (span table.widths)
      ([[], [table.title], [], table.columns.map (·.heading), []] ++ table.rows ++
        [[], table.columns.map (·.footing), []])
      table.render := by
  have hne : table.widths ≠ [] := by
    intro hnil
    refine h.columns_ne_nil (List.length_eq_zero_iff.1 ?_)
    rw [← h.length_widths, hnil, List.length_nil]
  have hheadings := h.drawing_row (List.mem_cons_self ..)
  have hfootings := h.drawing_row (List.mem_cons_of_mem _ (List.mem_cons_self ..))
  have hrows := Drawing.flatMap fun cells hcells =>
    h.drawing_row (List.mem_cons_of_mem _ (List.mem_cons_of_mem _ hcells))
  have hhead := (((Drawing.rule "┌" "─" "┐" hne rfl rfl rfl (by decide)).append
    h.drawing_title).append (Drawing.rule "├" "┬" "┤" hne rfl rfl rfl (by decide))).append hheadings
  have hmiddle := Drawing.rule "├" "┼" "┤" hne rfl rfl rfl (by decide)
  have hbottom := Drawing.rule "└" "┴" "┘" hne rfl rfl rfl (by decide)
  have hall := ((((hhead.append hmiddle).append hrows).append hmiddle).append hfootings).append
    hbottom
  rw [render_eq]
  simpa only [List.append_assoc, List.cons_append, List.nil_append] using hall

end

end BoxTable

end OnePass
