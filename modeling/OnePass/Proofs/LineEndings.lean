import OnePass.Assembler
import OnePass.Proofs.Scanner

/-
**Line endings and the division into reads.**

The same lines can be written in many ways: a line feed may end a line, or a carriage return and a
line feed, and the last line needs neither.  The same text can arrive in many ways: in one read or
byte by byte, cut also between a carriage return and its line feed, with reads in between that
deliver nothing.  None of this shows.  A scanner that is asked for a line again and again answers
with these lines, one after another, and from then on with the end of the input.

Main definitions:

* `OnePass.LineScanner.answers` — the answers to a number of calls, one after another;
* `OnePass.LineEnd`, `OnePass.Bytes.Written` — **the texts that lines can be written as**.

Main results:

* `OnePass.LineScanner.answers_eq` — a scanner answers with the lines of its source, and from then
  on with the fault behind them;
* `OnePass.LineSource.ofReads_of_written` — the source of a stream in which lines are written;
* `OnePass.answers_of_written` — **neither line endings nor the division into reads matter**, to a
  scanner or to an assembly.
-/

set_option relaxedAutoImplicit false
set_option autoImplicit false

namespace OnePass

/-! ### Asking a scanner again and again -/

namespace LineScanner

variable {scanner next : LineScanner} {held line : Bytes} {failure : Fault} {idle : Nat}
variable {reads : List Bytes}

/-- **The answers to a number of calls**, one after another. -/
def answers : Nat → LineScanner → List (Except Fault Bytes)
  | 0, _ => []
  | calls + 1, scanner => scanner.readLine.1 :: answers calls scanner.readLine.2

/-- A scanner that meets a failure holds nothing, and nothing is to come. -/
theorem eq_of_finish_error {cause : Fault} (h : finish held failure = (.error cause, next)) :
    next = ⟨[], [], cause⟩ := by
  cases held with
  | nil =>
      simp only [finish, Prod.mk.injEq, Except.error.injEq] at h
      rw [← h.2, ← h.1]
  | cons b rest => simp [finish] at h

theorem eq_of_readFrom_error {cause : Fault}
    (h : readFrom failure held idle reads = (.error cause, next)) : next = ⟨[], [], cause⟩ := by
  fun_induction readFrom failure held idle reads with
  | case1 => cases h
  | case2 held idle hcut => exact eq_of_finish_error h
  | case3 => cases h
  | case4 held idle reads hcut hidle ih => exact ih h
  | case5 held idle reads hcut hidle => exact eq_of_finish_error h
  | case6 => cases h
  | case7 held idle b bs reads hcut ih => exact ih h

/-- **A failure stays**: every further call meets it again. -/
theorem readLine_of_error (h : scanner.readLine = (.error failure, next)) :
    next.readLine = (.error failure, next) := by
  rw [eq_of_readFrom_error h]
  rfl

theorem answers_of_error (h : scanner.readLine = (.error failure, next)) (calls : Nat) :
    answers calls scanner = List.replicate calls (.error failure) := by
  induction calls generalizing scanner with
  | zero => rfl
  | succ calls ih =>
      rw [answers, h, ih (readLine_of_error h)]
      rfl

/-- Lines that were handed out before stand in front of the others. -/
theorem drain_eq (done : List Bytes) (scanner : LineScanner) :
    drain done scanner = ⟨done.reverse ++ scanner.toSource.lines, scanner.toSource.ending⟩ := by
  -- Every line that is handed out leaves less of the stream.
  induction hsize : scanner.size using Nat.strongRecOn generalizing done scanner with
  | ind n ih =>
      rcases hread : scanner.readLine with ⟨failure | line, next⟩
      · rw [toSource, drain_of_error hread, drain_of_error hread]
        simp
      · have hlt : next.size < n := hsize ▸ size_readLine_lt hread
        rw [toSource, drain_of_ok hread, drain_of_ok hread, ih _ hlt _ _ rfl, ih _ hlt _ _ rfl]
        simp

theorem toSource_of_ok (h : scanner.readLine = (.ok line, next)) :
    scanner.toSource = ⟨line :: next.toSource.lines, next.toSource.ending⟩ := by
  rw [toSource, drain_of_ok h, drain_eq]
  rfl

theorem toSource_of_error (h : scanner.readLine = (.error failure, next)) :
    scanner.toSource = ⟨[], failure⟩ := by
  rw [toSource, drain_of_error h]
  rfl

/-- **A scanner answers with the lines of its source**, one after another, and from then on with the
fault behind them. -/
theorem answers_eq {source : LineSource} (h : scanner.toSource = source) (extra : Nat) :
    answers (source.lines.length + extra) scanner =
      source.lines.map .ok ++ List.replicate extra (.error source.ending) := by
  obtain ⟨lines, ending⟩ := source
  induction lines generalizing scanner with
  | nil =>
      rcases hread : scanner.readLine with ⟨failure | line, next⟩
      · rw [toSource_of_error hread] at h
        cases h
        simpa using answers_of_error hread extra
      · rw [toSource_of_ok hread] at h
        cases h
  | cons first lines ih =>
      rcases hread : scanner.readLine with ⟨failure | line, next⟩
      · rw [toSource_of_error hread] at h
        cases h
      · rw [toSource_of_ok hread] at h
        cases h
        rw [List.length_cons, Nat.add_right_comm, answers, hread, ih rfl]
        rfl

/-- Reads that are not many are steady. -/
theorem steady_of_length_le (h : reads.length ≤ emptyReads) : Steady reads := by
  intro hinfix
  have hle := hinfix.length_le
  rw [List.length_replicate] at hle
  omega

end LineScanner

/-! ### Texts in which lines are written -/

/-- What may end a line. -/
inductive LineEnd where
  /-- A line feed. -/
  | lineFeed
  /-- A carriage return and a line feed. -/
  | returnLineFeed
  deriving DecidableEq, Repr

/-- The bytes that end a line. -/
def LineEnd.bytes : LineEnd → Bytes
  | .lineFeed => [Bytes.newline]
  | .returnLineFeed => [Bytes.carriageReturn, Bytes.newline]

namespace Bytes

/-- **The texts that lines can be written as.**  Every line is ended in one way or the other;
nothing need end the last one, unless it is empty. -/
inductive Written : List Bytes → Bytes → Prop
  | nil : Written [] []
  | unended {line : Bytes} (h : line ≠ []) : Written [line] line
  | ended (line : Bytes) (lineEnd : LineEnd) {lines : List Bytes} {text : Bytes}
      (h : Written lines text) : Written (line :: lines) (line ++ lineEnd.bytes ++ text)

/-- A line with one more line in front. -/
theorem LinesOf.cons {text rest line : Bytes} {lines : List Bytes} (h : LinesOf text lines rest)
    (hline : newline ∉ line) : LinesOf (line ++ newline :: text) (line :: lines) rest := by
  obtain ⟨rfl, hlines, hrest⟩ := h
  refine ⟨?_, List.forall_mem_cons.2 ⟨hline, hlines⟩, hrest⟩
  rw [unlines_cons, List.append_assoc, List.cons_append]

end Bytes

theorem dropReturn_append (line : Bytes) : dropReturn (line ++ [Bytes.carriageReturn]) = line := by
  rw [dropReturn, if_pos List.getLast?_concat, List.dropLast_concat]

/-- The bytes in front of the line feed that ends a line: the line, perhaps with a carriage
return. -/
theorem IsLine.exists_raw {line : Bytes} (h : IsLine line) (lineEnd : LineEnd) :
    ∃ raw, line ++ lineEnd.bytes = raw ++ [Bytes.newline] ∧ Bytes.newline ∉ raw ∧
      dropReturn raw = line := by
  cases lineEnd with
  | lineFeed => exact ⟨line, rfl, h.1, h.dropReturn_eq⟩
  | returnLineFeed =>
      refine ⟨line ++ [Bytes.carriageReturn], by simp [LineEnd.bytes], ?_, dropReturn_append line⟩
      rw [List.mem_append, not_or]
      exact ⟨h.1, by decide⟩

/-- Lines that are written in a text are the lines of the text. -/
theorem Bytes.Written.exists_linesOf {lines : List Bytes} {text : Bytes} (h : Written lines text)
    (hlines : ∀ line ∈ lines, IsLine line) :
    ∃ raws rest, LinesOf text raws rest ∧ raws.map dropReturn ++ unfinished rest = lines := by
  induction h with
  | nil => exact ⟨[], [], ⟨rfl, by simp, by simp⟩, rfl⟩
  | @unended line hne =>
      obtain ⟨hline, -⟩ := List.forall_mem_cons.1 hlines
      refine ⟨[], line, ⟨rfl, by simp, hline.1⟩, ?_⟩
      cases line with
      | nil => exact absurd rfl hne
      | cons b line => rw [unfinished, hline.dropReturn_eq, List.map_nil, List.nil_append]
  | ended line lineEnd h ih =>
      obtain ⟨hline, hlines⟩ := List.forall_mem_cons.1 hlines
      obtain ⟨raws, rest, hraws, hmap⟩ := ih hlines
      obtain ⟨raw, hraw, hnewline, hdrop⟩ := hline.exists_raw lineEnd
      refine ⟨raw :: raws, rest, ?_, ?_⟩
      · rw [hraw, List.append_assoc, List.singleton_append]
        exact hraws.cons hnewline
      · rw [List.map_cons, List.cons_append, hdrop, hmap]

/-- **The source of a stream in which lines are written** is that of these lines. -/
theorem LineSource.ofReads_of_written {lines reads : List Bytes}
    (hlines : ∀ line ∈ lines, IsLine line) (hwritten : Bytes.Written lines reads.flatten)
    (hsteady : LineScanner.Steady reads) : ofReads reads = ⟨lines, .endOfInput⟩ := by
  obtain ⟨raws, rest, hraws, hmap⟩ := hwritten.exists_linesOf hlines
  rw [ofReads_eq (LineScanner.arrival_of_steady hsteady) hraws, hmap]

/-- **Neither line endings nor the division into reads matter.**  However lines are written, and in
whatever reads the text arrives, a scanner answers with these lines and from then on with the end of
the input; and whatever else they are written as, and however that arrives, the assembly is the
same. -/
theorem answers_of_written {lines reads : List Bytes} (hlines : ∀ line ∈ lines, IsLine line)
    (hwritten : Bytes.Written lines reads.flatten) (hsteady : LineScanner.Steady reads) :
    (∀ extra : Nat,
      LineScanner.answers (lines.length + extra) { reads := reads, failure := .endOfInput } =
        lines.map .ok ++ List.replicate extra (.error .endOfInput)) ∧
    ∀ (catalog : Catalog) (reads' : List Bytes), Bytes.Written lines reads'.flatten →
      LineScanner.Steady reads' →
      assemble catalog (LineSource.ofReads reads) =
        assemble catalog (LineSource.ofReads reads') := by
  have hsource := LineSource.ofReads_of_written hlines hwritten hsteady
  constructor
  · intro extra
    exact LineScanner.answers_eq hsource extra
  · intro catalog reads' hwritten' hsteady'
    rw [hsource, LineSource.ofReads_of_written hlines hwritten' hsteady']

/-- Three lines of which the first ends in a carriage return and a line feed that arrive in
different reads, the second is empty and nothing ends the third. -/
theorem answers_of_written_mixed :
    let lines := [Bytes.ofString "INC", [], Bytes.ofString "1"]
    let reads := [Bytes.ofString "IN", [], Bytes.ofString "C\r", Bytes.ofString "\n\n1"]
    (∀ line ∈ lines, IsLine line) ∧ Bytes.Written lines reads.flatten ∧ LineScanner.Steady reads ∧
      LineScanner.answers 5 { reads := reads, failure := .endOfInput } =
        [.ok (Bytes.ofString "INC"), .ok [], .ok (Bytes.ofString "1"), .error .endOfInput,
          .error .endOfInput] ∧
      ∀ catalog, assemble catalog (LineSource.ofReads reads) =
        assemble catalog (LineSource.ofReads [Bytes.ofString "INC\n\r\n1\n"]) := by
  intro lines reads
  have hlines : ∀ line ∈ lines, IsLine line := by decide
  have hwritten : Bytes.Written lines reads.flatten :=
    .ended _ .returnLineFeed (.ended _ .lineFeed (.unended (by decide)))
  have hwritten' : Bytes.Written lines [Bytes.ofString "INC\n\r\n1\n"].flatten :=
    .ended _ .lineFeed (.ended _ .returnLineFeed (.ended _ .lineFeed .nil))
  have hsteady : LineScanner.Steady reads := LineScanner.steady_of_length_le (by decide)
  obtain ⟨hanswers, hassemble⟩ := answers_of_written hlines hwritten hsteady
  exact ⟨hlines, hwritten, hsteady, hanswers 2, fun catalog =>
    hassemble catalog _ hwritten' (LineScanner.steady_of_length_le (by decide))⟩

end OnePass
