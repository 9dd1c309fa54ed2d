import OnePass.Source.Scanner

/-
**The lines of a stream.**

A text falls into the lines that a line feed ends and the bytes behind the last of them.  A scanner
hands out exactly these, each without a carriage return at its end, and the bytes behind the last
line feed only if there are any.  How the text arrives does not matter, as long as it arrives: the
reads of a stream come to a text and a failure, and the failure is the stream's own unless the
stream stops to make progress.

Main definitions:

* `OnePass.Bytes.unlines` — the text of lines, every one with a line feed behind it;
* `OnePass.Bytes.LinesOf` — the lines of a text, and the bytes behind the last line feed;
* `OnePass.LineScanner.arrival` — what arrives of a stream, and the failure behind it;
* `OnePass.LineScanner.Steady` — reads that make progress often enough;
* `OnePass.IsLine` — a line that a stream hands out as it is.

Main results:

* `OnePass.LineSource.ofReads_eq` — **a stream hands out the lines of the text that arrives**;
* `OnePass.LineScanner.arrival_of_steady` — steady reads arrive completely;
* `OnePass.LineSource.ofText_unlines` — a text of lines is read back as these lines;
* `OnePass.LineSource.ending_ofText` — a text ends with the end of the input, whatever it holds.
-/

set_option relaxedAutoImplicit false
set_option autoImplicit false

namespace OnePass

/-! ### Texts of lines -/

namespace Bytes

/-- **The text of lines**, every one with a line feed behind it. -/
def unlines (lines : List Bytes) : Bytes :=
  lines.flatMap (· ++ [newline])

@[simp] theorem unlines_nil : unlines [] = [] := rfl

theorem unlines_cons (line : Bytes) (lines : List Bytes) :
    unlines (line :: lines) = line ++ newline :: unlines lines := by
  simp [unlines]

/-- Lines of one length give a text of this length and one more for each. -/
theorem length_unlines {width : Nat} {lines : List Bytes}
    (h : ∀ line ∈ lines, line.length = width) :
    (unlines lines).length = lines.length * (width + 1) := by
  induction lines with
  | nil => simp
  | cons line lines ih =>
      obtain ⟨hline, hlines⟩ := List.forall_mem_cons.1 h
      rw [unlines_cons, List.length_append, List.length_cons, List.length_cons, ih hlines, hline,
        Nat.succ_mul]
      omega

/-- **The lines of a text** are those that a line feed ends; behind the last line feed there may be
the beginning of one more. -/
structure LinesOf (text : Bytes) (lines : List Bytes) (rest : Bytes) : Prop where
  text_eq : text = unlines lines ++ rest
  not_mem : ∀ line ∈ lines, newline ∉ line
  not_mem_rest : newline ∉ rest

/-- Every text has lines. -/
theorem exists_linesOf (text : Bytes) : ∃ lines rest, LinesOf text lines rest := by
  -- A byte in front of a text is a line feed, or it belongs to the first line, or to what is behind
  -- the last line if there is none.
  induction text with
  | nil => exact ⟨[], [], rfl, by simp, by simp⟩
  | cons b text ih =>
      obtain ⟨lines, rest, rfl, hlines, hrest⟩ := ih
      by_cases hb : b = newline
      · subst hb
        exact ⟨[] :: lines, rest, by simp [unlines_cons], by simpa using hlines, hrest⟩
      cases lines with
      | nil => exact ⟨[], b :: rest, rfl, by simp, by simp [Ne.symm hb, hrest]⟩
      | cons line lines =>
          refine ⟨(b :: line) :: lines, rest, by simp [unlines_cons], ?_, hrest⟩
          simpa [Ne.symm hb] using hlines

/-- Lines with a line feed behind each leave nothing behind the last of them. -/
theorem linesOf_unlines {lines : List Bytes} (h : ∀ line ∈ lines, newline ∉ line) :
    LinesOf (unlines lines) lines [] :=
  ⟨(List.append_nil _).symm, h, by simp⟩

/-- The line that the bytes behind the last line feed make, if there are any. -/
def unfinished : Bytes → List Bytes
  | [] => []
  | b :: rest => [dropReturn (b :: rest)]

end Bytes

/-! ### Cutting a line -/

theorem decide_ne_newline {s : Bytes} (h : Bytes.newline ∉ s) :
    ∀ b ∈ s, decide (b ≠ Bytes.newline) = true := by
  intro b hb
  exact decide_eq_true fun heq => h (heq ▸ hb)

theorem cutLine?_of_not_mem {s : Bytes} (h : Bytes.newline ∉ s) : cutLine? s = none := by
  rw [cutLine?, ← List.append_nil s, List.dropWhile_append_of_pos (decide_ne_newline h)]
  rfl

/-- A line with a line feed behind it is cut there. -/
theorem cutLine?_append {line : Bytes} (h : Bytes.newline ∉ line) (rest : Bytes) :
    cutLine? (line ++ Bytes.newline :: rest) = some (dropReturn line, rest) := by
  rw [cutLine?, List.dropWhile_append_of_pos (decide_ne_newline h),
    List.takeWhile_append_of_pos (decide_ne_newline h)]
  simp

theorem mem_of_mem_dropReturn {b : UInt8} {line : Bytes} (h : b ∈ dropReturn line) : b ∈ line := by
  unfold dropReturn at h
  split at h
  · exact (List.dropLast_sublist line).subset h
  · exact h

/-- More bytes do not change where a line is cut. -/
theorem cutLine?_append_of_some {s line rest : Bytes} (h : cutLine? s = some (line, rest))
    (more : Bytes) : cutLine? (s ++ more) = some (line, rest ++ more) := by
  by_cases hmem : Bytes.newline ∈ s
  · obtain ⟨first, behind, rfl, hfirst⟩ := List.eq_append_cons_of_mem hmem
    rw [cutLine?_append hfirst] at h
    cases h
    rw [List.append_assoc, List.cons_append, cutLine?_append hfirst]
  · rw [cutLine?_of_not_mem hmem] at h
    cases h

/-! ### Draining a scanner -/

namespace LineScanner

variable {done : List Bytes} {scanner next : LineScanner} {held line : Bytes} {failure : Fault}
variable {idle : Nat} {reads : List Bytes}

theorem drain_of_ok (h : scanner.readLine = (.ok line, next)) :
    drain done scanner = drain (line :: done) next := by
  rw [drain]
  split
  · next heq =>
    rw [h] at heq
    cases heq
    rfl
  · next heq =>
    rw [h] at heq
    cases heq

theorem drain_of_error (h : scanner.readLine = (.error failure, next)) :
    drain done scanner = ⟨done.reverse, failure⟩ := by
  rw [drain]
  split
  · next heq =>
    rw [h] at heq
    cases heq
  · next heq =>
    rw [h] at heq
    cases heq
    rfl

/-- Scanners from which the next line is the same have the same lines. -/
theorem drain_eq_of_readLine_eq {scanner' : LineScanner}
    (h : scanner.readLine = scanner'.readLine) : drain done scanner = drain done scanner' := by
  rcases hread : scanner'.readLine with ⟨_ | _, next⟩
  · rw [drain_of_error (h.trans hread), drain_of_error hread]
  · rw [drain_of_ok (h.trans hread), drain_of_ok hread]

/-- If nothing more is to come, the lines held are handed out one after another, then what is behind
them, and then the failure shows. -/
theorem drain_held {lines : List Bytes} {rest : Bytes} (h : Bytes.LinesOf held lines rest) :
    drain done ⟨held, [], failure⟩ =
      ⟨done.reverse ++ (lines.map dropReturn ++ Bytes.unfinished rest), failure⟩ := by
  obtain ⟨rfl, hlines, hrest⟩ := h
  have hend : readLine ⟨[], [], failure⟩ = (.error failure, ⟨[], [], failure⟩) := rfl
  induction lines generalizing done with
  | nil =>
      cases rest with
      | nil =>
          rw [Bytes.unlines_nil, List.nil_append, drain_of_error hend]
          simp [Bytes.unfinished]
      | cons b rest =>
          have hread : readLine ⟨b :: rest, [], failure⟩ =
              (.ok (dropReturn (b :: rest)), ⟨[], [], failure⟩) := by
            simp only [readLine, readFrom, cutLine?_of_not_mem hrest, finish]
          rw [Bytes.unlines_nil, List.nil_append, drain_of_ok hread, drain_of_error hend]
          simp [Bytes.unfinished]
  | cons line lines ih =>
      obtain ⟨hline, hlines⟩ := List.forall_mem_cons.1 hlines
      have hread : readLine ⟨Bytes.unlines (line :: lines) ++ rest, [], failure⟩ =
          (.ok (dropReturn line), ⟨Bytes.unlines lines ++ rest, [], failure⟩) := by
        simp only [readLine, readFrom, Bytes.unlines_cons, List.append_assoc, List.cons_append,
          cutLine?_append hline]
      rw [drain_of_ok hread, ih hlines]
      simp

/-! ### What arrives of a stream -/

/-- **What arrives of a stream, and the failure behind it**, having met `idle` reads in a row
without a byte. -/
def arrival (failure : Fault) (idle : Nat) : List Bytes → Bytes × Fault
  | [] => ([], failure)
  | [] :: reads => if idle < emptyReads then arrival failure (idle + 1) reads else ([], noProgress)
  | (b :: bs) :: reads => (b :: bs ++ (arrival failure 0 reads).1, (arrival failure 0 reads).2)

/-- A line that is held is handed out without another read. -/
theorem readFrom_of_cutLine? {rest : Bytes} (h : cutLine? held = some (line, rest)) :
    readFrom failure held idle reads = (.ok line, ⟨rest, reads, failure⟩) := by
  rcases reads with _ | ⟨_ | _, reads⟩ <;> simp only [readFrom, h]

/-- The scanner that has received all that arrives. -/
def settled (scanner : LineScanner) : LineScanner :=
  ⟨scanner.held ++ (arrival scanner.failure 0 scanner.reads).1, [],
    (arrival scanner.failure 0 scanner.reads).2⟩

/-- A scanner gets the same line, or the same failure, as if all had arrived. -/
theorem readFrom_arrival {text : Bytes} {cause : Fault} (h : idle = 0 ∨ cutLine? held = none)
    (harrival : arrival failure idle reads = (text, cause)) :
    readFrom failure held idle reads = readLine ⟨held ++ text, [], cause⟩ ∨
      ∃ line next, readFrom failure held idle reads = (.ok line, next) ∧
        readLine ⟨held ++ text, [], cause⟩ = (.ok line, next.settled) := by
  -- The induction follows the reads up to the one that completes a line.
  induction reads generalizing held idle text with
  | nil =>
      cases harrival
      refine Or.inl ?_
      simp only [readLine, readFrom, List.append_nil]
  | cons read reads ih =>
      cases hcut : cutLine? held with
      | some cut =>
          obtain rfl : idle = 0 := h.resolve_right (by simp [hcut])
          refine Or.inr ⟨cut.1, ⟨cut.2, read :: reads, failure⟩, readFrom_of_cutLine? hcut, ?_⟩
          rw [settled, harrival]
          exact readFrom_of_cutLine? (cutLine?_append_of_some hcut text)
      | none =>
          cases read with
          | nil =>
              by_cases hidle : idle < emptyReads
              · rw [arrival, if_pos hidle] at harrival
                rw [readFrom, hcut]
                simpa only [if_pos hidle] using ih (Or.inr hcut) harrival
              · rw [arrival, if_neg hidle] at harrival
                cases harrival
                refine Or.inl ?_
                simp only [readLine, readFrom, hcut, if_neg hidle, List.append_nil]
          | cons b bs =>
              cases harrival
              rw [readFrom, hcut]
              simpa only [List.append_assoc] using
                @ih (held ++ b :: bs) 0 _ (Or.inl rfl) rfl

/-- A stream hands out the same lines as if all had arrived at once. -/
theorem drain_settled (done : List Bytes) (scanner : LineScanner) :
    drain done scanner = drain done scanner.settled := by
  -- Every line that is handed out leaves less of the stream.
  induction hsize : scanner.size using Nat.strongRecOn generalizing done scanner with
  | ind n ih =>
      have hstep : scanner.readLine = scanner.settled.readLine ∨
          ∃ line next, scanner.readLine = (.ok line, next) ∧
            scanner.settled.readLine = (.ok line, next.settled) :=
        readFrom_arrival (Or.inl rfl) rfl
      rcases hstep with hread | ⟨line, next, hread, hsettled⟩
      · exact drain_eq_of_readLine_eq hread
      · rw [drain_of_ok hread, drain_of_ok hsettled]
        exact ih next.size (hsize ▸ size_readLine_lt hread) _ _ rfl

/-- The failure behind what arrives is the stream's own, or that of a stream without progress. -/
theorem snd_arrival (failure : Fault) (idle : Nat) (reads : List Bytes) :
    (arrival failure idle reads).2 = failure ∨ (arrival failure idle reads).2 = noProgress := by
  fun_induction arrival failure idle reads with
  | case1 => exact Or.inl rfl
  | case2 idle reads hidle ih => exact ih
  | case3 idle reads hidle => exact Or.inr rfl
  | case4 idle b bs reads ih => exact ih

/-- **Steady reads**: never are more than `emptyReads` reads in a row without a byte. -/
def Steady (reads : List Bytes) : Prop :=
  ¬ List.replicate (emptyReads + 1) [] <:+: reads

/-- Steady reads arrive completely, and the failure behind them is the stream's own. -/
theorem arrival_of_steady (h : Steady reads) :
    arrival failure 0 reads = (reads.flatten, failure) := by
  suffices hidle : ∀ idle reads, idle ≤ emptyReads → Steady (List.replicate idle [] ++ reads) →
      arrival failure idle reads = (reads.flatten, failure) from
    hidle 0 reads (Nat.zero_le _) (by simpa using h)
  intro idle reads hle hsteady
  fun_induction arrival failure idle reads with
  | case1 => rfl
  | case2 idle reads hlt ih =>
      refine ih hlt ?_
      rwa [List.replicate_succ', List.append_assoc, List.singleton_append]
  | case3 idle reads hlt =>
      obtain rfl : idle = emptyReads := by omega
      refine absurd ?_ hsteady
      rw [← List.singleton_append, ← List.append_assoc, ← List.replicate_succ']
      exact (List.prefix_append _ _).isInfix
  | case4 idle b bs reads ih =>
      have hreads : Steady reads := fun hinfix => hsteady <|
        hinfix.trans ⟨List.replicate idle [] ++ [b :: bs], [], by simp⟩
      rw [ih (Nat.zero_le _) (by simpa using hreads)]
      simp

end LineScanner

/-! ### The lines of a stream -/

namespace LineSource

variable {reads lines : List Bytes} {text rest : Bytes} {failure cause : Fault}

/-- **A stream hands out the lines of the text that arrives**, then the bytes behind the last line
feed, and then the failure shows. -/
theorem ofReads_eq (harrival : LineScanner.arrival failure 0 reads = (text, cause))
    (hlines : Bytes.LinesOf text lines rest) :
    ofReads reads failure = ⟨lines.map dropReturn ++ Bytes.unfinished rest, cause⟩ := by
  rw [ofReads, LineScanner.toSource, LineScanner.drain_settled, LineScanner.settled, harrival]
  exact LineScanner.drain_held hlines

theorem ofText_eq (h : Bytes.LinesOf text lines rest) :
    ofText text = ⟨lines.map dropReturn ++ Bytes.unfinished rest, .endOfInput⟩ := by
  refine ofReads_eq ?_ h
  cases text with
  | nil => rfl
  | cons b text => rw [LineScanner.arrival, LineScanner.arrival, List.append_nil]

/-- No line that a text hands out has a line feed in it. -/
theorem newline_not_mem_of_mem_ofText {line : Bytes} (h : line ∈ (ofText text).lines) :
    Bytes.newline ∉ line := by
  obtain ⟨lines, rest, hlines⟩ := Bytes.exists_linesOf text
  rw [ofText_eq hlines] at h
  rcases List.mem_append.1 h with h | h
  · obtain ⟨whole, hwhole, rfl⟩ := List.mem_map.1 h
    exact fun hmem => hlines.not_mem whole hwhole (mem_of_mem_dropReturn hmem)
  · cases rest with
    | nil => cases h
    | cons b rest =>
        rw [List.mem_singleton.1 h]
        exact fun hmem => hlines.not_mem_rest (mem_of_mem_dropReturn hmem)

/-- A text ends with the end of the input, whatever it holds. -/
theorem ending_ofText (text : Bytes) : (ofText text).ending = .endOfInput := by
  obtain ⟨lines, rest, h⟩ := Bytes.exists_linesOf text
  rw [ofText_eq h]

end LineSource

/-- **A line that a stream hands out as it is**: no line feed is in it, and no carriage return at
its end. -/
def IsLine (line : Bytes) : Prop :=
  Bytes.newline ∉ line ∧ line.getLast? ≠ some Bytes.carriageReturn

instance (line : Bytes) : Decidable (IsLine line) := inferInstanceAs (Decidable (_ ∧ _))

theorem IsLine.dropReturn_eq {line : Bytes} (h : IsLine line) : dropReturn line = line :=
  if_neg h.2

/-- **A text of lines is read back as these lines.** -/
theorem LineSource.ofText_unlines {lines : List Bytes} (h : ∀ line ∈ lines, IsLine line) :
    ofText (Bytes.unlines lines) = ⟨lines, .endOfInput⟩ := by
  have hlines := Bytes.linesOf_unlines fun line hline => (h line hline).1
  have hmap : lines.map dropReturn = lines := by
    rw [List.map_congr_left fun line hline => (h line hline).dropReturn_eq, List.map_id']
  rw [ofText_eq hlines, hmap, Bytes.unfinished, List.append_nil]

end OnePass
