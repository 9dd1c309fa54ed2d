import Mathlib.Data.ENat.Basic
import Mathlib.Data.List.Infix
import OnePass.Proofs.ImageFormat

/-
**An image that cannot be written to its end.**

`Proofs/Image` follows an emission to a writer that takes every line.  Here the writer may refuse
one, be it a word of the program or one of the words of zeros behind them.  The words are written by
one loop and the zeros by another, which counts them; still, an emission is one run over the lines
of the image.  It stops right behind the line that is refused, everything in front of that line has
been taken, and the count is that of the zeros among what was taken.

A sink whose receiver lacks room is such a writer.  It may notice at any line, or only when it is
flushed at the end; either way the receiver is left with the beginning of the image that fits.

What a writer was asked for is not part of what it becomes, so the writer is watched: a writer that
keeps a list of its calls, and is as good a writer as the one it watches.

Main definitions:

* `OnePass.FailsAt` — **the line at which a writer fails**, counted from one;
* `OnePass.Watched` — a writer together with the calls that were made to it.

Main results:

* `OnePass.Emitter.emit_of_refused` — an emission stops at the line that is refused;
* `OnePass.Emitter.emit_of_lt` — **an image for which there is no room** is a fault, and its
  beginning is what arrives behind a sink;
* `OnePass.FailsAt.exists_refused` — a writer that fails has taken all lines in front;
* `OnePass.emit_of_failsAt` — **what becomes of an image** at a writer that fails, wherever it does.
-/

set_option relaxedAutoImplicit false
set_option autoImplicit false

namespace OnePass

/-! ### Lines that are refused -/

section

variable {W : Type} [LineWriter W] {writer between writer' : W} {before after lines : List Bytes}
  {line : Bytes} {fault : Fault}

theorem writeLines_append (h : writeLines writer before = (none, between)) (after : List Bytes) :
    writeLines writer (before ++ after) = writeLines between after := by
  induction before generalizing writer with
  | nil =>
      cases h
      rfl
  | cons line before ih =>
      rw [writeLines] at h
      split at h
      · cases h
      · next hline =>
        rw [List.cons_append, writeLines, hline]
        exact ih h

/-- Lines are handed over up to the first one that is refused. -/
theorem writeLines_of_refused (hbefore : writeLines writer before = (none, between))
    (hline : writeLine between line = (some fault, writer')) (after : List Bytes) :
    writeLines writer (before ++ line :: after) = (some fault, writer') := by
  rw [writeLines_append hbefore, writeLines, hline]

/-- If not all lines are taken, there is a first one that is refused. -/
theorem exists_refused_of_writeLines (h : writeLines writer lines = (some fault, writer')) :
    ∃ before line after between, lines = before ++ line :: after ∧
      writeLines writer before = (none, between) ∧
      writeLine between line = (some fault, writer') := by
  induction lines generalizing writer with
  | nil => cases h
  | cons line lines ih =>
      rw [writeLines] at h
      split at h
      · next hline =>
        cases h
        exact ⟨[], line, lines, writer, rfl, rfl, hline⟩
      · next hline =>
        obtain ⟨before, refused, after, between, rfl, hbefore, hrefused⟩ := ih h
        refine ⟨line :: before, refused, after, between, rfl, ?_, hrefused⟩
        rw [writeLines, hline]
        exact hbefore

namespace Emitter

/-- Writing a line over and over stops at the copy that is refused. -/
theorem fill_of_refused {n : Nat} (taken : Nat)
    (hbefore : writeLines writer (List.replicate n line) = (none, between))
    (hline : writeLine between line = (some fault, writer')) (m : Nat) :
    fill line writer taken (n + (m + 1)) = (some fault, taken + n, writer') := by
  induction n generalizing writer taken with
  | zero =>
      cases hbefore
      rw [Nat.zero_add, fill, hline]
      rfl
  | succ n ih =>
      rw [List.replicate_succ, writeLines] at hbefore
      split at hbefore
      · cases hbefore
      · next hfirst =>
        rw [Nat.add_right_comm, fill, hfirst]
        simp only [ih (taken + 1) hbefore, Nat.add_right_comm, Nat.add_assoc]

/-- **An emission stops at the line that is refused**, and has counted the zeros in front of it. -/
theorem emit_of_refused {e : Emitter} {program : Program}
    (himage : e.image program = before ++ line :: after)
    (hbefore : writeLines writer before = (none, between))
    (hline : writeLine between line = (some fault, writer')) :
    e.emit writer program =
      ⟨some (writeFault fault), ⟨program.size, (before.length - program.size : Nat)⟩, writer'⟩ := by
  -- If the words of the program are in front of the line, it is one of the words of zeros.
  have hzero : ∀ zeros, before = program.words ++ zeros →
      List.replicate (e.paddingFor program) (Word.zero e.wordSize) = zeros ++ line :: after →
      e.emit writer program =
        ⟨some (writeFault fault), ⟨program.size, (before.length - program.size : Nat)⟩,
          writer'⟩ := by
    rintro zeros rfl hzeros
    obtain ⟨loaded, hloaded, hfilled⟩ := exists_writeLines_of_append hbefore
    obtain ⟨hcount, hcopies, hcopies'⟩ := List.append_eq_replicate_iff.1 hzeros.symm
    obtain rfl : line = Word.zero e.wordSize :=
      List.eq_of_mem_replicate (hcopies' ▸ List.mem_cons_self ..)
    rw [hcopies] at hfilled
    rw [List.length_cons] at hcount
    simp only [emit, hloaded, ← hcount, fill_of_refused 0 hfilled hline, Option.map_some,
      Nat.zero_add, List.length_append, Program.length_words, Nat.add_sub_cancel_left]
  rcases List.append_eq_append_iff.1 himage with ⟨zeros, hwords, hzeros⟩ | ⟨words, hwords, hrest⟩
  · exact hzero zeros hwords hzeros
  · cases words with
    | nil => exact hzero [] (by simpa using hwords.symm) hrest.symm
    | cons word words =>
        obtain ⟨rfl, -⟩ := List.cons.inj hrest
        have hlength : before.length - program.size = 0 := by
          rw [← Program.length_words, hwords, List.length_append]
          omega
        simp only [emit, hwords, writeLines_of_refused hbefore hline, hlength, Int.ofNat_zero]

/-- A fault of the writer is told by the emission. -/
theorem exists_emit_of_writeLines {e : Emitter} {program : Program}
    (h : writeLines writer (e.image program) = (some fault, writer')) :
    ∃ summary, e.emit writer program = ⟨some (writeFault fault), summary, writer'⟩ := by
  obtain ⟨before, line, after, between, himage, hbefore, hline⟩ := exists_refused_of_writeLines h
  exact ⟨_, emit_of_refused himage hbefore hline⟩

end Emitter

/-! ### Sinks without room -/

/-- **An image for which there is no room** is a fault of the emission, or of the flush behind it,
and what has arrived is its beginning. -/
theorem Emitter.emit_of_lt (e : Emitter) (program : Program) (fault : Fault) {l : Nat}
    (hlt : l < (Bytes.unlines (e.image program)).length) :
    let emission :=
      e.emit ({ receiver := { limit := some l, fault := fault } } : LineSink) program
    (emission.fault = some (writeFault fault) ∧
      emission.writer.receiver.delivered.toList = (Bytes.unlines (e.image program)).take l) ∨
    ∃ sink, emission.fault = none ∧ emission.writer.flush = (some fault, sink) ∧
      sink.receiver.delivered.toList = (Bytes.unlines (e.image program)).take l := by
  rcases (LineSink.filling_new (some l) fault).writeLines (e.image program) with
    ⟨writer, hwrite, hfilling⟩ | ⟨writer, room, hwrite, hroom, hspilled⟩
  · obtain ⟨sink, hflush, hspilled⟩ := hfilling.flush_of_not_fits rfl hlt
    rw [emit_of_writeLines hwrite]
    exact Or.inr ⟨sink, rfl, hflush, hspilled.delivered_eq⟩
  · obtain ⟨summary, hemit⟩ := exists_emit_of_writeLines hwrite
    obtain rfl : l = room := Option.some.inj hroom
    rw [hemit]
    exact Or.inl ⟨rfl, hspilled.delivered_eq⟩

/-! ### Writers that fail -/

/-- **The writer fails at the `k`-th line**, counted from one, if it is handed these lines: what is
handed over is taken exactly if it is fewer than `k` lines.  A writer that takes whatever it is
handed fails at line `⊤`. -/
def FailsAt (writer : W) (lines : List Bytes) (k : ℕ∞) : Prop :=
  ∀ handed, handed <+: lines → ((writeLines writer handed).1 = none ↔ (handed.length : ℕ∞) < k)

namespace FailsAt

variable {k : ℕ∞}

/-- A writer that does not fail takes all lines. -/
theorem exists_writeLines (h : FailsAt writer lines k) (hlt : (lines.length : ℕ∞) < k) :
    ∃ writer', writeLines writer lines = (none, writer') :=
  ⟨_, Prod.ext ((h lines List.prefix_rfl).2 hlt) rfl⟩

/-- **A writer that fails** has taken the lines in front, and refuses the next one. -/
theorem exists_refused {j : Nat} (h : FailsAt writer lines j) (hle : j ≤ lines.length) :
    ∃ before line after between fault writer', lines = before ++ line :: after ∧
      before.length + 1 = j ∧ writeLines writer before = (none, between) ∧
      writeLine between line = (some fault, writer') := by
  cases hwrite : writeLines writer lines with
  | mk answer writer' =>
    cases answer with
    | none =>
        have hlt := (h lines List.prefix_rfl).1 (by rw [hwrite])
        exact absurd (Nat.cast_lt.1 hlt) (Nat.not_lt.2 hle)
    | some fault =>
        obtain ⟨before, line, after, between, rfl, hbefore, hline⟩ :=
          exists_refused_of_writeLines hwrite
        refine ⟨before, line, after, between, fault, writer', rfl, ?_, hbefore, hline⟩
        -- The lines in front are fewer than `j`; together with the one refused they are not.
        have hfewer := (h before (List.prefix_append ..)).1 (by rw [hbefore])
        have hmany : ¬ ((before ++ [line]).length : ℕ∞) < j := by
          rw [← h (before ++ [line]) (by simp), writeLines_of_refused hbefore hline []]
          simp
        have hlt : before.length < j := Nat.cast_lt.1 hfewer
        rw [Nat.cast_lt, List.length_append, List.length_singleton] at hmany
        omega

end FailsAt

end

/-- A shelf that is to refuse a line takes those in front of it. -/
theorem LineShelf.writeLines_eq_none_iff {shelf : LineShelf}
    (h : shelf.lines.size < shelf.refused) (lines : List Bytes) :
    (writeLines shelf lines).1 = none ↔ shelf.lines.size + lines.length < shelf.refused := by
  induction lines generalizing shelf with
  | nil => simpa [writeLines] using h
  | cons line lines ih =>
      by_cases hline : shelf.lines.size + 1 = shelf.refused
      · have hput : writeLine shelf line = (some shelf.fault, shelf) := if_pos hline
        simp only [writeLines, hput, List.length_cons]
        simp only [reduceCtorEq, false_iff]
        omega
      · have hput : writeLine shelf line =
            (none, { shelf with lines := shelf.lines.push line }) := if_neg hline
        simp only [writeLines, hput, List.length_cons]
        rw [ih (by simp only [Array.size_push]; omega), Array.size_push]
        simp only [Nat.add_assoc, Nat.add_comm 1]

/-- A new shelf fails at the line that it is to refuse, whatever lines it is handed. -/
theorem LineShelf.failsAt {k : Nat} (hpos : 0 < k) (fault : Fault) (lines : List Bytes) :
    FailsAt ({ refused := k, fault := fault } : LineShelf) lines k := by
  intro handed _
  rw [writeLines_eq_none_iff (by simpa using hpos)]
  simp

/-! ### Writers that are watched -/

/-- A line that a writer was handed, and its answer. -/
structure Handover where
  /-- The line. -/
  line : Bytes
  /-- The fault with which it was refused, unless it was taken. -/
  answer : Option Fault

/-- **A writer together with the calls that were made to it**, in order. -/
structure Watched (W : Type) where
  /-- The writer. -/
  writer : W
  /-- The lines that it was handed. -/
  calls : List Handover := []

section

variable {W : Type} [LineWriter W] {writer writer' : W} {lines : List Bytes} {line : Bytes}
  {fault : Fault}

instance : LineWriter (Watched W) where
  writeLine watched line :=
    let (answer, writer') := writeLine watched.writer line
    (answer, ⟨writer', watched.calls ++ [⟨line, answer⟩]⟩)

theorem Watched.writeLine_eq {answer : Option Fault} (h : writeLine writer line = (answer, writer'))
    (calls : List Handover) :
    writeLine (⟨writer, calls⟩ : Watched W) line =
      (answer, ⟨writer', calls ++ [⟨line, answer⟩]⟩) := by
  simp only [writeLine, h]

theorem Watched.writeLines_eq (h : writeLines writer lines = (none, writer'))
    (calls : List Handover) :
    writeLines (⟨writer, calls⟩ : Watched W) lines =
      (none, ⟨writer', calls ++ lines.map fun line => ⟨line, none⟩⟩) := by
  induction lines generalizing writer calls with
  | nil =>
      cases h
      simp [writeLines]
  | cons line lines ih =>
      rw [writeLines] at h
      split at h
      · cases h
      · next hline =>
        rw [writeLines, writeLine_eq hline]
        simp [ih h]

/-- The lines that were taken, among those that were handed over. -/
def Handover.taken (calls : List Handover) : List Bytes :=
  (calls.filter (·.answer.isNone)).map (·.line)

@[simp] theorem Handover.taken_append (calls more : List Handover) :
    taken (calls ++ more) = taken calls ++ taken more := by
  simp [taken]

@[simp] theorem Handover.taken_map (lines : List Bytes) :
    taken (lines.map fun line => ⟨line, none⟩) = lines := by
  induction lines with
  | nil => rfl
  | cons line lines ih => exact congrArg (line :: ·) ih

@[simp] theorem Handover.taken_refused (line : Bytes) (fault : Fault) :
    taken [⟨line, some fault⟩] = [] := rfl

/-! ### Emissions that fail -/

namespace Emitter

variable {e : Emitter} {program : Program} {before after : List Bytes} {between : W}

/-- An emission to a writer that takes every line makes one call for each line. -/
theorem emit_watched_of_taken (h : writeLines writer (e.image program) = (none, writer')) :
    e.emit (Watched.mk writer []) program =
      ⟨none, ⟨program.size, e.paddingFor program⟩,
        ⟨writer', (e.image program).map fun line => ⟨line, none⟩⟩⟩ :=
  emit_of_writeLines (Watched.writeLines_eq h [])

/-- An emission makes no call behind the one that is refused. -/
theorem emit_watched_of_refused (himage : e.image program = before ++ line :: after)
    (hbefore : writeLines writer before = (none, between))
    (hline : writeLine between line = (some fault, writer')) :
    e.emit (Watched.mk writer []) program =
      ⟨some (writeFault fault), ⟨program.size, (before.length - program.size : Nat)⟩,
        ⟨writer', (before.map fun line => ⟨line, none⟩) ++ [⟨line, some fault⟩]⟩⟩ :=
  emit_of_refused himage (Watched.writeLines_eq hbefore []) (Watched.writeLine_eq hline _)

end Emitter

/-- The beginning of an image: words of the program, and behind all of them only zeros. -/
theorem parts_of_prefix {words taken : List Bytes} {zero : Bytes} {n : Nat}
    (h : taken <+: words ++ List.replicate n zero) :
    (∀ line ∈ taken.drop words.length, line = zero) ∧ taken.take words.length <+: words := by
  constructor
  · intro line hline
    have hdrop := h.drop words.length
    rw [List.drop_left] at hdrop
    exact List.eq_of_mem_replicate (hdrop.subset hline)
  · have htake := h.take words.length
    rwa [List.take_left] at htake

/-- **What becomes of an image at a writer that fails at line `k`.**  The words of zeros may have
any positive size, the memory any size and the words of the program any width.  If the image has
fewer than `k` lines, nothing fails and all of them are taken, each in one call.  Otherwise the
fault is that of the writer, told as a failed output; the lines in front of the `k`-th are taken,
and there is no call behind the `k`-th.  The summary counts the words of the program and the zeros
that were taken behind them; and the emission is the same whether the writer is watched or not. -/
theorem emit_of_failsAt {wordSize : Nat} (hpos : 1 ≤ wordSize) (memoryWords : Nat)
    (program : Program) {k : ℕ∞}
    (hfails : FailsAt writer (program.words ++ List.replicate (memoryWords - program.size)
      (List.replicate wordSize (Bytes.ofAscii '0'))) k) :
    ∃ emitter : Emitter,
      (({} : Emitter).withWordSize wordSize).bind (·.withMemoryWords memoryWords) = .ok emitter ∧
      let zeros := List.replicate wordSize (Bytes.ofAscii '0')
      let lines := program.words ++ List.replicate (memoryWords - program.size) zeros
      let emission := emitter.emit writer program
      let watched := emitter.emit (Watched.mk writer []) program
      let calls := watched.writer.calls
      let taken := Handover.taken calls
      (emission.fault = watched.fault ∧ emission.summary = watched.summary ∧
        emission.writer = watched.writer.writer) ∧
      (lines.length < k →
        emission.fault = none ∧ taken = lines ∧ calls.map (·.line) = lines) ∧
      (∀ j : Nat, k = j → j ≤ lines.length → ∃ cause : Fault,
        (calls.getLast?.bind (·.answer)) = some cause ∧
        emission.fault =
          some (.inputOutput (Bytes.ofString "write output") [] (some cause)) ∧
        exitCode emission.fault = 2 ∧
        taken = lines.take (j - 1) ∧ calls.map (·.line) = lines.take j) ∧
      emission.summary.words = program.size ∧
      emission.summary.padding = (taken.drop program.size).length ∧
      (∀ line ∈ taken.drop program.size, line = zeros) ∧
      taken.take program.size <+: program.words := by
  let emitter : Emitter := ⟨wordSize, memoryWords⟩
  refine ⟨emitter, Emitter.withWordSize_bind_withMemoryWords hpos memoryWords, ?_⟩
  intro zeros lines emission watched calls taken
  have hparts : ∀ front, front <+: lines →
      (∀ line ∈ front.drop program.size, line = zeros) ∧
        front.take program.size <+: program.words := by
    intro front hfront
    rw [← Program.length_words]
    exact parts_of_prefix hfront
  rcases lt_or_ge (lines.length : ℕ∞) k with hlt | hge
  · obtain ⟨writer', hwrite⟩ := hfails.exists_writeLines hlt
    have hemission : emission = _ := Emitter.emit_of_writeLines (e := emitter) hwrite
    have hwatched : watched = _ := Emitter.emit_watched_of_taken (e := emitter) hwrite
    have htaken : taken = lines := by
      simp only [taken, calls, hwatched]
      exact Handover.taken_map lines
    rw [htaken]
    refine ⟨?_, fun _ => ⟨?_, rfl, ?_⟩, ?_, ?_, ?_, hparts lines List.prefix_rfl⟩
    · rw [hemission, hwatched]
      exact ⟨rfl, rfl, rfl⟩
    · rw [hemission]
    · simp only [calls, hwatched, List.map_map]
      exact List.map_id _
    · rintro j rfl hle
      exact absurd (Nat.cast_lt.1 hlt) (Nat.not_lt.2 hle)
    · rw [hemission]
    · rw [hemission]
      simp [lines, Emitter.paddingFor, emitter]
  · obtain ⟨j, rfl⟩ := ENat.ne_top_iff_exists.1 (ne_top_of_le_ne_top (ENat.natCast_ne_top _) hge)
    obtain ⟨before, line, after, between, fault, writer', hlines, rfl, hbefore, hline⟩ :=
      hfails.exists_refused (Nat.cast_le.1 hge)
    have hemission : emission = _ := Emitter.emit_of_refused (e := emitter) hlines hbefore hline
    have hwatched : watched = _ :=
      Emitter.emit_watched_of_refused (e := emitter) hlines hbefore hline
    have htaken : taken = before := by
      simp only [taken, calls, hwatched, Handover.taken_append, Handover.taken_map,
        Handover.taken_refused, List.append_nil]
    have hfront : before <+: lines := ⟨line :: after, hlines.symm⟩
    rw [htaken]
    refine ⟨?_, fun hlt => absurd hlt hge.not_gt, ?_, ?_, ?_, hparts before hfront⟩
    · rw [hemission, hwatched]
      exact ⟨rfl, rfl, rfl⟩
    · intro j hj _
      obtain rfl : before.length + 1 = j := Nat.cast_inj.1 hj
      refine ⟨fault, ?_, ?_, ?_, ?_, ?_⟩
      · simp only [calls, hwatched, List.getLast?_concat, Option.bind_some]
      · rw [hemission]
        rfl
      · rw [hemission]
        rfl
      · have hlines' : lines = before ++ line :: after := hlines
        rw [hlines', Nat.add_sub_cancel, List.take_left]
      · have hlines' : lines = (before ++ [line]) ++ after := by
          rw [List.append_assoc]
          exact hlines
        rw [hlines', List.take_left' (by simp)]
        simp only [calls, hwatched, List.map_append, List.map_map, List.map_singleton]
        exact congrArg (· ++ [line]) (List.map_id _)
    · rw [hemission]
    · rw [hemission, List.length_drop]

end

/-- Two words of eight digits and zeros of three digits, up to a memory of five words: the second of
the zeros is refused. -/
theorem emit_of_failsAt_second_zero :
    let source : LineSource := ⟨[Bytes.ofString "INC", Bytes.ofString "1"], .endOfInput⟩
    let program := (assemble Catalog.builtIn source).program
    let shelf : LineShelf := { refused := 4, fault := .plain (Bytes.ofString "no space left") }
    let lines := program.words ++ List.replicate 3 (List.replicate 3 (Bytes.ofAscii '0'))
    FailsAt shelf lines 4 ∧ ∃ (emitter : Emitter) (cause : Fault),
      (({} : Emitter).withWordSize 3).bind (·.withMemoryWords 5) = .ok emitter ∧
      let emission := emitter.emit shelf program
      let calls := (emitter.emit (Watched.mk shelf []) program).writer.calls
      emission.fault = some (.inputOutput (Bytes.ofString "write output") [] (some cause)) ∧
      exitCode emission.fault = 2 ∧ Handover.taken calls = lines.take 3 ∧
      calls.map (·.line) = lines.take 4 ∧ emission.summary.words = 2 ∧
      emission.summary.padding = 1 := by
  intro source program shelf lines
  have hfails : FailsAt shelf lines 4 := LineShelf.failsAt (by decide) _ lines
  obtain ⟨emitter, hemitter, -, -, hrefused, hwords, hpadding, -⟩ :=
    emit_of_failsAt (by decide) 5 program hfails
  obtain ⟨cause, -, hfault, hcode, htaken, hcalls⟩ := hrefused 4 rfl (by decide)
  refine ⟨hfails, emitter, cause, hemitter, hfault, hcode, htaken, hcalls, hwords, ?_⟩
  rw [hpadding, htaken]
  rfl

end OnePass
