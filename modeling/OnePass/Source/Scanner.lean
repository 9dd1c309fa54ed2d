import OnePass.Source.Lines

/-
**Splitting a stream of bytes into lines.**

A stream arrives in reads of any size, down to none, and then fails; the end of the input is one way
to fail.  A line ends at a line feed, and one carriage return in front of it is not part of the
line. Bytes behind the last line feed are a line as well, handed out before the failure shows.  A
stream that makes no progress in more than a hundred reads in a row is given up.

Main definitions:

* `OnePass.LineScanner` — the bytes received, the reads to come and the failure behind them;
* `OnePass.LineScanner.readLine` — **one line**, or the failure;
* `OnePass.LineScanner.toSource` — all lines that a stream hands out, as a line source;
* `OnePass.LineSource.ofReads`, `OnePass.LineSource.ofText` — the lines of a stream.

Main results:

* `OnePass.LineScanner.size_readLine_lt` — every line handed out uses up some of the stream.
-/

set_option relaxedAutoImplicit false
set_option autoImplicit false

namespace OnePass

/-! ### Cutting one line -/

/-- A line without one carriage return at its end. -/
def dropReturn (line : Bytes) : Bytes :=
  if line.getLast? = some Bytes.carriageReturn then line.dropLast else line

/-- The first line of the bytes and what follows it, if a line feed ends it. -/
def cutLine? (s : Bytes) : Option (Bytes × Bytes) :=
  match s.dropWhile (· ≠ Bytes.newline) with
  | [] => none
  | _ :: rest => some (dropReturn (s.takeWhile (· ≠ Bytes.newline)), rest)

theorem length_of_cutLine? {s line rest : Bytes} (h : cutLine? s = some (line, rest)) :
    rest.length < s.length := by
  have hle : (s.dropWhile (· ≠ Bytes.newline)).length ≤ s.length :=
    (List.dropWhile_sublist _).length_le
  unfold cutLine? at h
  split at h
  · cases h
  · next heq =>
    simp only [heq, List.length_cons] at hle
    simp only [Option.some.injEq, Prod.mk.injEq] at h
    rw [← h.2]
    omega

/-! ### The scanner -/

/-- A stream that is being split into lines. -/
structure LineScanner where
  /-- The bytes received and not yet handed out. -/
  held : Bytes := []
  /-- What the reads to come deliver. -/
  reads : List Bytes
  /-- What every read behind them meets. -/
  failure : Fault

/-- The number of reads without a byte that are put up with in a row. -/
def emptyReads : Nat := 100

/-- The failure of a stream that makes no progress. -/
def noProgress : Fault :=
  .plain (Bytes.ofString "multiple Read calls return no data or error")

namespace LineScanner

/-- The end of a stream: bytes that no line feed ended, and then the failure. -/
def finish (held : Bytes) (failure : Fault) : Except Fault Bytes × LineScanner :=
  match held with
  | [] => (.error failure, { reads := [], failure := failure })
  | b :: rest => (.ok (dropReturn (b :: rest)), { reads := [], failure := failure })

/-- One line, having met `idle` reads in a row without a byte. -/
def readFrom (failure : Fault) (held : Bytes) (idle : Nat) :
    List Bytes → Except Fault Bytes × LineScanner
  | [] =>
    match cutLine? held with
    | some (line, rest) => (.ok line, ⟨rest, [], failure⟩)
    | none => finish held failure
  | [] :: reads =>
    match cutLine? held with
    | some (line, rest) => (.ok line, ⟨rest, [] :: reads, failure⟩)
    | none =>
      if idle < emptyReads then readFrom failure held (idle + 1) reads
      else finish held noProgress
  | (b :: bs) :: reads =>
    match cutLine? held with
    | some (line, rest) => (.ok line, ⟨rest, (b :: bs) :: reads, failure⟩)
    | none => readFrom failure (held ++ b :: bs) 0 reads

/-- **One line of a stream**, or the failure behind its last one. -/
def readLine (scanner : LineScanner) : Except Fault Bytes × LineScanner :=
  readFrom scanner.failure scanner.held 0 scanner.reads

/-- The number of bytes that are still to be handed out. -/
def size (scanner : LineScanner) : Nat :=
  scanner.held.length + scanner.reads.flatten.length

theorem size_finish_lt {held line : Bytes} {failure : Fault} {next : LineScanner}
    (h : finish held failure = (.ok line, next)) : next.size < held.length := by
  cases held with
  | nil => simp [finish] at h
  | cons b rest =>
      simp only [finish, Prod.mk.injEq] at h
      simp [← h.2, size]

theorem size_readFrom_lt {failure : Fault} {held line : Bytes} {idle : Nat} {reads : List Bytes}
    {next : LineScanner} (h : readFrom failure held idle reads = (.ok line, next)) :
    next.size < held.length + reads.flatten.length := by
  -- The induction follows the reads; a line that is cut leaves fewer bytes held.
  induction reads generalizing held idle with
  | nil =>
      unfold readFrom at h
      split at h
      · next hcut =>
        have := length_of_cutLine? hcut
        simp only [Prod.mk.injEq] at h
        simpa [← h.2, size] using this
      · simpa using size_finish_lt h
  | cons read reads ih =>
      cases read with
      | nil =>
          unfold readFrom at h
          split at h
          · next hcut =>
            have := length_of_cutLine? hcut
            simp only [Prod.mk.injEq] at h
            simpa [← h.2, size] using this
          · split at h
            · simpa using ih h
            · have := size_finish_lt h
              simp only [List.flatten_cons, List.nil_append]
              omega
      | cons b bs =>
          unfold readFrom at h
          split at h
          · next hcut =>
            have := length_of_cutLine? hcut
            simp only [Prod.mk.injEq] at h
            simpa [← h.2, size] using this
          · have := ih h
            simp only [List.flatten_cons, List.length_append] at this ⊢
            omega

/-- Every line handed out uses up some of the stream. -/
theorem size_readLine_lt {scanner next : LineScanner} {line : Bytes}
    (h : scanner.readLine = (.ok line, next)) : next.size < scanner.size :=
  size_readFrom_lt h

/-- The lines behind those already handed out, which are held in reverse. -/
def drain (done : List Bytes) (scanner : LineScanner) : LineSource :=
  match h : scanner.readLine with
  | (.ok line, next) =>
    have := size_readLine_lt h
    drain (line :: done) next
  | (.error failure, _) => { lines := done.reverse, ending := failure }
termination_by scanner.size

/-- All lines that a stream hands out, and the failure behind them. -/
def toSource (scanner : LineScanner) : LineSource :=
  drain [] scanner

end LineScanner

namespace LineSource

/-- The lines of a stream that arrives in the given reads and then fails. -/
def ofReads (reads : List Bytes) (failure : Fault := .endOfInput) : LineSource :=
  LineScanner.toSource { reads := reads, failure := failure }

/-- The lines of a text. -/
def ofText (text : Bytes) : LineSource :=
  ofReads [text]

end LineSource

end OnePass
