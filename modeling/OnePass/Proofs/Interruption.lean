import OnePass.Proofs.Diagnosis
import OnePass.Proofs.Scanner

/-
**Streams that break off.**

A stream that fails before its end leaves the lines that a line feed ended, and maybe the beginning
of one more.  The scanner hands this beginning out like any other line, and only then the failure
shows.  So the assembler judges a line of which it has not seen the end: if it is blank, or accepted
as it stands, the failure is reported; if it is not accepted, it is the line that is blamed.

Main results:

* `OnePass.result_of_broken_stream` — **what becomes of a stream that breaks off** behind lines that
  are in order;
* `OnePass.broken_mnemonic_is_blamed` — the failure of a stream can go unreported.
-/

set_option relaxedAutoImplicit false
set_option autoImplicit false

namespace OnePass

section

variable {catalog : Catalog} {m : Machine} {lines : List Bytes} {rest : Bytes}
variable {cause fault : Fault}

/-- Behind lines that are in order, an unfinished line that is blank or accepted lets the failure
show. -/
theorem result_of_unfinished_accepted
    (hfeed : ({ catalog := catalog } : Machine).feedAll (Source.tokens lines) = .ok m)
    (hcause : cause.isEndOfInput = false)
    (hrest : Source.sanitize (dropReturn rest) = [] ∨
      ∃ record m', m.feed (Source.sanitize (dropReturn rest)) (lines.length + 1 : Nat) =
        .ok (record, m')) :
    (assemble catalog ⟨lines ++ Bytes.unfinished rest, cause⟩).result =
      .error (readFault cause) := by
  -- Whatever the machine is at the end, only the failure counts there.
  have hend : ∀ (m : Machine) (number : Nat),
      (assembleFrom cause m number []).result = .error (readFault cause) := by
    intro m number
    simp [assembleFrom_nil, Assembly.result, endFault, hcause]
  rw [assemble_eq_assembleFrom, assembleFrom_append _ hfeed, Nat.zero_add]
  cases rest with
  | nil => exact hend m _
  | cons b rest =>
      rw [Bytes.unfinished]
      rcases hrest with hblank | ⟨record, m', haccepted⟩
      · rw [assembleFrom_cons_of_blank hblank, hend]
      · by_cases hblank : Source.sanitize (dropReturn (b :: rest)) = []
        · rw [assembleFrom_cons_of_blank hblank, hend]
        · rw [assembleFrom_cons_of_ok hblank haccepted, hend]

/-- Behind lines that are in order, an unfinished line that is refused is blamed. -/
theorem result_of_unfinished_refused
    (hfeed : ({ catalog := catalog } : Machine).feedAll (Source.tokens lines) = .ok m)
    (hne : Source.sanitize (dropReturn rest) ≠ [])
    (hrefused : m.feed (Source.sanitize (dropReturn rest)) (lines.length + 1 : Nat) =
      .error fault) :
    (assemble catalog ⟨lines ++ Bytes.unfinished rest, cause⟩).result = .error fault := by
  rw [assemble_eq_assembleFrom, assembleFrom_append _ hfeed, Nat.zero_add]
  cases rest with
  | nil => exact absurd rfl hne
  | cons b rest =>
      rw [Bytes.unfinished, assembleFrom_cons_of_error hne hrefused]
      rfl

/-- If a source ends too early, all its tokens are accepted, and the instruction that the fault
names waits behind them. -/
theorem exists_pending_of_unexpectedEnd {mnemonic : Bytes} {line missing : Int}
    (h : (assemble catalog ⟨lines, .endOfInput⟩).result =
      .error (.unexpectedEnd mnemonic line missing)) :
    ∃ m pending, ({ catalog := catalog } : Machine).feedAll (Source.tokens lines) = .ok m ∧
      m.pending = some pending ∧ pending.instruction.mnemonic = mnemonic := by
  cases hfeed : ({ catalog := catalog } : Machine).feedAll (Source.tokens lines) with
  | error refusal =>
      obtain ⟨k, line, m, hline, hbefore, hne, hrefused⟩ := exists_refused_line hfeed
      rw [assemble_eq_assembleFrom, assembleFrom_of_refused hline hbefore hne hrefused] at h
      cases h
      rcases Machine.feed_eq_error_iff.1 hrefused with ⟨-, -, hfault⟩ | ⟨pending, -, -, hfault⟩
      · cases hfault
      · cases hfault
  | ok m =>
      cases hpending : m.pending with
      | none =>
          rw [assemble_of_pending_eq_none hfeed rfl hpending] at h
          cases h
      | some pending =>
          rw [assemble_of_pending_eq_some hfeed rfl hpending] at h
          cases h
          exact ⟨m, pending, rfl, hpending, rfl⟩

theorem catalog_of_feedAll
    (hfeed : ({ catalog := catalog } : Machine).feedAll (Source.tokens lines) = .ok m) :
    m.catalog = catalog := by
  obtain ⟨parse, hreads, -⟩ := (Machine.reads_empty catalog).feedAll hfeed
  exact hreads.catalog_eq

end

/-- **What becomes of a stream that breaks off.**  Let the lines that a line feed ended be in order:
alone they are assembled, or end too early.  If an instruction may follow, the failure is reported
unless the unfinished line is some other text than a mnemonic; if an operand has to follow, unless
it is some other text than a literal.  Such a text is blamed in place of the failure, although the
rest of its line is not known.  A failure that counts as the end of the input is not reported at
all. -/
theorem result_of_broken_stream {catalog : Catalog} {reads lines : List Bytes}
    {received rest : Bytes} {failure cause : Fault}
    (harrival : LineScanner.arrival failure 0 reads = (received, cause))
    (hlines : Bytes.LinesOf received lines rest) :
    let ended := (assemble catalog ⟨lines.map dropReturn, .endOfInput⟩).result
    let token := Source.sanitize (dropReturn rest)
    let result := (assemble catalog (LineSource.ofReads reads failure)).result
    let unreadable : Fault := .inputOutput (Bytes.ofString "read source") [] (some cause)
    (LineScanner.Steady reads → received = reads.flatten ∧ cause = failure) ∧
    (failure.isEndOfInput = false → cause.isEndOfInput = false) ∧
    unreadable.exitCode = 2 ∧
    (cause.isEndOfInput = true → result = (assemble catalog (LineSource.ofText received)).result) ∧
    (cause.isEndOfInput = false →
      (∀ program, ended = .ok program →
        (token = [] ∨ catalog.find? token ≠ none → result = .error unreadable) ∧
        (token ≠ [] → catalog.find? token = none →
          result = .error (.unknownCommand (lines.length + 1 : Nat) token))) ∧
      ∀ mnemonic line missing, ended = .error (.unexpectedEnd mnemonic line missing) →
        (token = [] ∨ Word.Literal catalog.wordSize token → result = .error unreadable) ∧
        (token ≠ [] → ¬ Word.Literal catalog.wordSize token →
          result = .error
            (.invalidArgument (lines.length + 1 : Nat) mnemonic token catalog.wordSize))) := by
  intro ended token result unreadable
  have hlength : (lines.map dropReturn).length = lines.length := List.length_map _
  have hresult : result = (assemble catalog
      ⟨lines.map dropReturn ++ Bytes.unfinished rest, cause⟩).result := by
    simp only [result, LineSource.ofReads_eq harrival hlines]
  refine ⟨?_, ?_, rfl, ?_, ?_⟩
  · intro hsteady
    rw [LineScanner.arrival_of_steady hsteady] at harrival
    cases harrival
    exact ⟨rfl, rfl⟩
  · intro hfailure
    have hcause := LineScanner.snd_arrival failure 0 reads
    rw [harrival] at hcause
    rcases hcause with rfl | rfl
    · exact hfailure
    · rfl
  · intro heof
    rw [hresult, LineSource.ofText_eq hlines, result_of_isEndOfInput heof]
  intro hcause
  constructor
  · -- The machine is between instructions.
    intro program hok
    obtain ⟨m, hfeed, -, hpending, -⟩ := result_assembleFrom_eq_ok_iff.1 hok
    have hcatalog := catalog_of_feedAll hfeed
    constructor
    · intro htoken
      rw [hresult]
      refine result_of_unfinished_accepted hfeed hcause (htoken.imp_right fun hknown => ?_)
      obtain ⟨i, hfind⟩ := Option.ne_none_iff_exists'.1 hknown
      exact ⟨_, _, Machine.feed_of_find? hpending (hcatalog ▸ hfind)⟩
    · intro hne hunknown
      rw [hresult]
      refine result_of_unfinished_refused hfeed hne ?_
      rw [hlength]
      exact Machine.feed_of_find?_eq_none hpending (hcatalog ▸ hunknown)
  · -- An instruction waits for an operand.
    intro mnemonic line missing hshort
    obtain ⟨m, pending, hfeed, hpending, rfl⟩ := exists_pending_of_unexpectedEnd hshort
    have hcatalog := catalog_of_feedAll hfeed
    constructor
    · intro htoken
      rw [hresult]
      refine result_of_unfinished_accepted hfeed hcause (htoken.imp_right fun hlit => ?_)
      exact ⟨_, _, Machine.feed_of_literal hpending (hcatalog ▸ hlit)⟩
    · intro hne hlit
      rw [hresult]
      refine result_of_unfinished_refused hfeed hne ?_
      rw [hlength, Machine.feed_of_not_literal hpending (hcatalog ▸ hlit), hcatalog]

/-- A stream in three reads, one of them without a byte, that breaks off in an operand of `ADD`: the
failure is reported, since what has arrived of the operand is a literal. -/
theorem result_of_broken_stream_operand :
    let reads := [Bytes.ofString "ADD\r\n0", [], Bytes.ofString "\n10"]
    let failure := Fault.plain (Bytes.ofString "disk gone")
    LineScanner.arrival failure 0 reads = (Bytes.ofString "ADD\r\n0\n10", failure) ∧
      Bytes.LinesOf (Bytes.ofString "ADD\r\n0\n10")
        [Bytes.ofString "ADD\r", Bytes.ofString "0"] (Bytes.ofString "10") ∧
      (assemble Catalog.builtIn ⟨[Bytes.ofString "ADD", Bytes.ofString "0"], .endOfInput⟩).result =
        .error (.unexpectedEnd (Bytes.ofString "ADD") 1 1) ∧
      (assemble Catalog.builtIn (LineSource.ofReads reads failure)).result =
        .error (.inputOutput (Bytes.ofString "read source") [] (some failure)) := by
  intro reads failure
  have harrival : LineScanner.arrival failure 0 reads =
      (Bytes.ofString "ADD\r\n0\n10", failure) := rfl
  have hlines : Bytes.LinesOf (Bytes.ofString "ADD\r\n0\n10")
      [Bytes.ofString "ADD\r", Bytes.ofString "0"] (Bytes.ofString "10") :=
    ⟨rfl, by decide, by decide⟩
  have hended : (assemble Catalog.builtIn
      ⟨[Bytes.ofString "ADD", Bytes.ofString "0"], .endOfInput⟩).result =
        .error (.unexpectedEnd (Bytes.ofString "ADD") 1 1) := rfl
  obtain ⟨-, -, -, -, hbroken⟩ :=
    @result_of_broken_stream Catalog.builtIn reads _ _ _ failure failure harrival hlines
  have hliteral : Word.Literal 8 (Bytes.ofString "10") := Word.literal_iff.2 (by decide)
  exact ⟨harrival, hlines, hended, ((hbroken rfl).2 _ _ _ hended).1 (Or.inr hliteral)⟩

/-- **The failure of a stream can go unreported**: a stream that breaks off in the middle of a
mnemonic is said to hold an unknown command, although the lines in front of it are in order. -/
theorem broken_mnemonic_is_blamed :
    let reads := [Bytes.ofString "INC\n1\nDE"]
    let failure := Fault.plain (Bytes.ofString "disk gone")
    failure.isEndOfInput = false ∧
      (assemble Catalog.builtIn ⟨[Bytes.ofString "INC", Bytes.ofString "1"], .endOfInput⟩).fault =
        none ∧
      (assemble Catalog.builtIn (LineSource.ofReads reads failure)).fault =
        some (.unknownCommand 3 (Bytes.ofString "DE")) ∧
      (Fault.unknownCommand 3 (Bytes.ofString "DE")).exitCode = 3 := by
  intro reads failure
  have harrival : LineScanner.arrival failure 0 reads =
      (Bytes.ofString "INC\n1\nDE", failure) := rfl
  have hlines : Bytes.LinesOf (Bytes.ofString "INC\n1\nDE")
      [Bytes.ofString "INC", Bytes.ofString "1"] (Bytes.ofString "DE") :=
    ⟨rfl, by decide, by decide⟩
  rw [LineSource.ofReads_eq harrival hlines]
  exact ⟨rfl, rfl, rfl, rfl⟩

end OnePass
