import OnePass.Image.Sink
import OnePass.Proofs.Scanner

/-
**What a sink has delivered, at any time.**

A sink delivers in blocks that have nothing to do with lines: a block ends where the buffer is full,
in the middle of a line as a rule.  The receiver may run out of room at any byte, in the middle of a
line or right in front of its line feed, and whoever uses the sink may go on calling it all the
same.

A sink is in one of two situations.  Either it has lost nothing, and what was written is delivered
or waits in the buffer; or its receiver is full, with the first bytes of what was written, and the
sink is broken.  Whether a byte, a line or a flush leads from the first situation to the second is
decided by the room alone, and there is no way back.

Main definitions:

* `OnePass.LineSink.Call`, `OnePass.LineSink.answers` — lines and flushes in any order, and what a
  sink answers to them, going on behind a fault;
* `OnePass.LineSink.Filling`, `OnePass.LineSink.Spilled` — **the two situations** of a sink.

Main results:

* `OnePass.LineSink.Filling.flush_of_fits`, `OnePass.LineSink.Filling.flush_of_not_fits` — a flush
  delivers everything exactly if everything fits;
* `OnePass.LineSink.Accounted.push`, `OnePass.LineSink.Accounted.answers` — what one byte keeps, and
  what a whole run keeps;
* `OnePass.LineSink.Filling.writeLines` — lines are all taken, or the sink runs out of room;
* `OnePass.LineSink.integrity_of_calls` — **nothing is lost silently, and nothing fails without
  need**.
-/

set_option relaxedAutoImplicit false
set_option autoImplicit false

namespace OnePass

/-! ### Receivers with and without room -/

/-- The number of bytes is within the limit, if there is one. -/
def Fits (limit : Option Nat) (n : Nat) : Prop := ∀ l ∈ limit, n ≤ l

theorem fits_none (n : Nat) : Fits none n :=
  fun _ hl => absurd hl (by simp)

theorem not_fits_iff {limit : Option Nat} {n : Nat} :
    ¬ Fits limit n ↔ ∃ l, limit = some l ∧ l < n := by
  cases limit with
  | none => simp [fits_none]
  | some l => simp [Fits]

/-- A receiver with room takes the whole block. -/
theorem Receiver.take_of_fits {receiver : Receiver} {block : Array UInt8}
    (h : Fits receiver.limit (receiver.delivered.size + block.size)) :
    receiver.take block = (none, { receiver with delivered := receiver.delivered ++ block }) := by
  have hroom : receiver.room block.size = block.size := by
    unfold room
    split
    · rfl
    · next limit hlimit =>
      have hle := h limit hlimit
      omega
  simp [take, hroom]

/-- A receiver that lacks room takes what fits, and is full then. -/
theorem Receiver.take_of_lt {receiver : Receiver} {block : Array UInt8} {l : Nat}
    (hlimit : receiver.limit = some l) (hle : receiver.delivered.size ≤ l)
    (hlt : l < receiver.delivered.size + block.size) :
    ∃ delivered : Array UInt8,
      receiver.take block = (some receiver.fault, { receiver with delivered := delivered }) ∧
      delivered.toList = (receiver.delivered.toList ++ block.toList).take l := by
  have hroom : receiver.room block.size = l - receiver.delivered.size := by
    simp only [room, hlimit]
    omega
  refine ⟨receiver.delivered ++ block.extract 0 (l - receiver.delivered.size), ?_, ?_⟩
  · simp only [take, hroom]
    rw [if_pos (by omega)]
  · have hall : receiver.delivered.toList.take l = receiver.delivered.toList :=
      List.take_of_length_le (by simpa using hle)
    rw [List.take_append, hall, Array.toList_append, Array.toList_extract]
    simp

namespace LineSink

/-! ### Calls -/

/-- What a sink can be asked for. -/
inductive Call where
  /-- To take a line. -/
  | writeLine (line : Bytes)
  /-- To deliver what waits. -/
  | flush
  deriving DecidableEq, Repr

/-- The bytes that a call adds to what was written. -/
def Call.bytes : Call → Bytes
  | .writeLine line => line ++ [Bytes.newline]
  | .flush => []

/-- **All that was written** by some calls. -/
def written (calls : List Call) : Bytes :=
  calls.flatMap Call.bytes

/-- The answer of a sink to a call, and the sink behind it. -/
def call (sink : LineSink) : Call → Option Fault × LineSink
  | .writeLine line => sink.writeLine line
  | .flush => sink.flush

/-- **The answers of a sink to calls**, whatever it has answered before, and the sink behind them.
-/
def answers (sink : LineSink) : List Call → List (Option Fault) × LineSink
  | [] => ([], sink)
  | c :: calls =>
    let rest := (sink.call c).2.answers calls
    ((sink.call c).1 :: rest.1, rest.2)

@[simp] theorem written_nil : written [] = [] := rfl

@[simp] theorem written_cons (c : Call) (calls : List Call) :
    written (c :: calls) = c.bytes ++ written calls := rfl

@[simp] theorem written_append (calls more : List Call) :
    written (calls ++ more) = written calls ++ written more :=
  List.flatMap_append

theorem snd_answers_append (sink : LineSink) (calls more : List Call) :
    (sink.answers (calls ++ more)).2 = ((sink.answers calls).2.answers more).2 := by
  induction calls generalizing sink with
  | nil => rfl
  | cons c calls ih => exact ih (sink.call c).2

/-! ### One byte -/

section

variable {sink sink' : LineSink} {fault : Fault}

theorem push_of_room (hwhole : sink.broken = none) (hlt : sink.buffer.size < capacity)
    (b : UInt8) : sink.push b = { sink with buffer := sink.buffer.push b } := by
  simp only [push, hwhole, hlt, if_true]

/-- A byte that finds the buffer full waits in the flushed sink. -/
theorem push_of_flushed (hwhole : sink.broken = none) (hfull : ¬ sink.buffer.size < capacity)
    (hflush : sink.flush = (none, sink')) (hwhole' : sink'.broken = none)
    (hlt : sink'.buffer.size < capacity) (b : UInt8) : sink.push b = sink'.push b := by
  rw [push_of_room hwhole' hlt]
  simp only [push, hwhole, hfull, if_false, hflush]

/-- If the buffer cannot be delivered, the byte is lost. -/
theorem push_of_stuck (hwhole : sink.broken = none) (hfull : ¬ sink.buffer.size < capacity)
    (hflush : sink.flush = (some fault, sink')) (b : UInt8) : sink.push b = sink' := by
  simp only [push, hwhole, hfull, if_false, hflush]

/-! ### Broken sinks -/

theorem push_of_broken (h : sink.broken = some fault) (b : UInt8) : sink.push b = sink := by
  simp only [push, h]

theorem foldl_push_of_broken (h : sink.broken = some fault) (s : Bytes) :
    s.foldl push sink = sink := by
  induction s with
  | nil => rfl
  | cons b s ih => rw [List.foldl_cons, push_of_broken h, ih]

/-- A broken sink answers every call with its fault, and stays as it is. -/
theorem call_of_broken (h : sink.broken = some fault) (c : Call) :
    sink.call c = (some fault, sink) := by
  cases c with
  | writeLine line => simp only [call, writeLine, foldl_push_of_broken h, h]
  | flush => simp only [call, flush, h]

theorem answers_of_broken (h : sink.broken = some fault) (calls : List Call) :
    sink.answers calls = (List.replicate calls.length (some fault), sink) := by
  induction calls with
  | nil => rfl
  | cons c calls ih => simp only [answers, call_of_broken h, ih, List.length_cons,
      List.replicate_succ]

/-- A call fails exactly if the sink is broken behind it. -/
theorem fst_call (sink : LineSink) (c : Call) : (sink.call c).1 = (sink.call c).2.broken := by
  cases c with
  | writeLine line => rfl
  | flush =>
      simp only [call, flush]
      split
      · next hbroken => exact hbroken.symm
      · rfl

/-- **No call has failed exactly if the sink is not broken.** -/
theorem forall_answers_iff (hwhole : sink.broken = none) (calls : List Call) :
    (∀ answer ∈ (sink.answers calls).1, answer = none) ↔ (sink.answers calls).2.broken = none := by
  induction calls generalizing sink with
  | nil => simpa [answers] using hwhole
  | cons c calls ih =>
      have hfirst := fst_call sink c
      cases hbroken : (sink.call c).2.broken with
      | none =>
          rw [hbroken] at hfirst
          simpa [answers, hfirst] using ih hbroken
      | some fault =>
          -- The fault stays for the rest of the calls.
          rw [hbroken] at hfirst
          simp [answers, hfirst, answers_of_broken hbroken, hbroken]

end

/-! ### The two situations of a sink -/

/-- In front of a receiver with room, a sink that is not broken delivers its whole buffer. -/
theorem flush_of_fits {sink : LineSink} (hwhole : sink.broken = none)
    (h : Fits sink.receiver.limit (sink.receiver.delivered.size + sink.buffer.size)) :
    sink.flush =
      (none,
        { receiver :=
            { sink.receiver with delivered := sink.receiver.delivered ++ sink.buffer } }) := by
  simp only [flush, hwhole, Receiver.take_of_fits h]

/-- **A sink that holds all that was written to it**, on its way to a receiver with the given
limit. -/
structure Holds (limit : Option Nat) (sink : LineSink) (written : Bytes) : Prop where
  /-- The sink is not broken. -/
  whole : sink.broken = none
  /-- The receiver has the given limit. -/
  limit_eq : sink.receiver.limit = limit
  /-- What was written is delivered or waits. -/
  bytes_eq : sink.receiver.delivered.toList ++ sink.buffer.toList = written

/-- Nothing has been written to a new sink. -/
theorem holds_new (limit : Option Nat) (fault : Fault) :
    Holds limit { receiver := { limit := limit, fault := fault } } [] :=
  ⟨rfl, rfl, rfl⟩

/-- What is delivered and what waits fits if what was written fits. -/
theorem Holds.fits {limit : Option Nat} {sink : LineSink} {written : Bytes}
    (h : Holds limit sink written) (hfits : Fits limit written.length) :
    Fits sink.receiver.limit (sink.receiver.delivered.size + sink.buffer.size) := by
  rw [h.limit_eq, ← Array.length_toList, ← Array.length_toList, ← List.length_append, h.bytes_eq]
  exact hfits

section

variable {limit : Option Nat} {fault : Fault} {sink : LineSink} {written : Bytes} {l : Nat}

/-- **A sink that has lost nothing**: what was written is delivered or waits. -/
structure Filling (limit : Option Nat) (fault : Fault) (sink : LineSink) (written : Bytes) : Prop
    extends Holds limit sink written where
  fault_eq : sink.receiver.fault = fault
  size_buffer_le : sink.buffer.size ≤ capacity
  /-- The receiver has not been asked for more than it has room for. -/
  fits_delivered : Fits limit sink.receiver.delivered.size

/-- **A sink that has run out of room**: the receiver is full with the first `l` bytes of what was
written, and there are more. -/
structure Spilled (l : Nat) (fault : Fault) (sink : LineSink) (written : Bytes) : Prop where
  broken_eq : sink.broken = some fault
  lt_length : l < written.length
  delivered_eq : sink.receiver.delivered.toList = written.take l

/-- A sink in front of a receiver with the given limit, in one of its two situations. -/
def Accounted (limit : Option Nat) (fault : Fault) (sink : LineSink) (written : Bytes) : Prop :=
  Filling limit fault sink written ∨ ∃ l, limit = some l ∧ Spilled l fault sink written

theorem filling_new (limit : Option Nat) (fault : Fault) :
    Filling limit fault { receiver := { limit := limit, fault := fault } } [] :=
  { holds_new limit fault with
    fault_eq := rfl
    size_buffer_le := Nat.zero_le _
    fits_delivered := fun l _ => Nat.zero_le l }

/-- What is written to a sink that has run out of room is lost. -/
theorem Spilled.append (h : Spilled l fault sink written) (more : Bytes) :
    Spilled l fault sink (written ++ more) := by
  have hlt := h.lt_length
  refine ⟨h.broken_eq, ?_, ?_⟩
  · rw [List.length_append]
    omega
  · rw [h.delivered_eq, List.take_append_of_le_length (by omega)]

theorem Filling.flush_of_fits (h : Filling limit fault sink written)
    (hfits : Fits limit written.length) :
    ∃ sink', sink.flush = (none, sink') ∧ Filling limit fault sink' written ∧
      sink'.buffer = #[] ∧ sink'.receiver.delivered.toList = written := by
  refine ⟨_, LineSink.flush_of_fits h.whole (h.toHolds.fits hfits), ?_, rfl, ?_⟩
  · have hdelivered := h.toHolds.fits hfits
    rw [h.limit_eq, ← Array.size_append] at hdelivered
    refine ⟨⟨rfl, h.limit_eq, ?_⟩, h.fault_eq, Nat.zero_le _, hdelivered⟩
    simpa using h.bytes_eq
  · rw [Array.toList_append, h.bytes_eq]

/-- **A sink that holds more than there is room for** runs out of it when it is flushed. -/
theorem Filling.flush_of_not_fits (h : Filling limit fault sink written)
    (hlimit : limit = some l) (hlt : l < written.length) :
    ∃ sink', sink.flush = (some fault, sink') ∧ Spilled l fault sink' written := by
  have hsize : sink.receiver.delivered.size + sink.buffer.size = written.length := by
    rw [← h.bytes_eq, List.length_append, Array.length_toList, Array.length_toList]
  have hle : sink.receiver.delivered.size ≤ l := h.fits_delivered l hlimit
  obtain ⟨delivered, htake, hdelivered⟩ :=
    Receiver.take_of_lt (h.limit_eq.trans hlimit) hle (hsize ▸ hlt)
  rw [h.bytes_eq] at hdelivered
  rw [h.fault_eq] at htake
  refine ⟨{ receiver := { sink.receiver with delivered := delivered }, broken := some fault }, ?_,
    rfl, hlt, hdelivered⟩
  simp only [LineSink.flush, h.whole, htake, h.fault_eq]

theorem Filling.push_of_lt (h : Filling limit fault sink written)
    (hlt : sink.buffer.size < capacity) (b : UInt8) :
    Filling limit fault (sink.push b) (written ++ [b]) := by
  rw [push_of_room h.whole hlt]
  refine ⟨⟨h.whole, h.limit_eq, ?_⟩, h.fault_eq, ?_, h.fits_delivered⟩
  · rw [← h.bytes_eq, Array.toList_push, List.append_assoc]
  · rw [Array.size_push]
    exact hlt

namespace Accounted

/-- **What one byte keeps.** -/
theorem push (h : Accounted limit fault sink written) (b : UInt8) :
    Accounted limit fault (sink.push b) (written ++ [b]) := by
  rcases h with h | ⟨l, hlimit, h⟩
  · by_cases hlt : sink.buffer.size < capacity
    · exact Or.inl (h.push_of_lt hlt b)
    · -- The buffer is full, so everything in front of the byte is delivered now or never.
      by_cases hfits : Fits limit written.length
      · obtain ⟨sink', hflush, h', hempty, -⟩ := h.flush_of_fits hfits
        have hroom : sink'.buffer.size < capacity := by
          rw [hempty]
          decide
        rw [push_of_flushed h.whole hlt hflush h'.whole hroom]
        exact Or.inl (h'.push_of_lt hroom b)
      · obtain ⟨l, hlimit, hlt'⟩ := not_fits_iff.1 hfits
        obtain ⟨sink', hflush, h'⟩ := h.flush_of_not_fits hlimit hlt'
        rw [push_of_stuck h.whole hlt hflush]
        exact Or.inr ⟨l, hlimit, h'.append [b]⟩
  · rw [push_of_broken h.broken_eq]
    exact Or.inr ⟨l, hlimit, h.append [b]⟩

theorem foldl_push (h : Accounted limit fault sink written) (s : Bytes) :
    Accounted limit fault (s.foldl LineSink.push sink) (written ++ s) := by
  induction s generalizing sink written with
  | nil => simpa using h
  | cons b s ih =>
      have hrest := ih (h.push b)
      rwa [List.append_assoc, List.singleton_append] at hrest

theorem flush (h : Accounted limit fault sink written) :
    Accounted limit fault sink.flush.2 written := by
  rcases h with h | ⟨l, hlimit, h⟩
  · by_cases hfits : Fits limit written.length
    · obtain ⟨sink', hflush, h', -⟩ := h.flush_of_fits hfits
      rw [hflush]
      exact Or.inl h'
    · obtain ⟨l, hlimit, hlt⟩ := not_fits_iff.1 hfits
      obtain ⟨sink', hflush, h'⟩ := h.flush_of_not_fits hlimit hlt
      rw [hflush]
      exact Or.inr ⟨l, hlimit, h'⟩
  · have hflush : sink.flush = _ := call_of_broken h.broken_eq .flush
    rw [hflush]
    exact Or.inr ⟨l, hlimit, h⟩

theorem call (h : Accounted limit fault sink written) (c : Call) :
    Accounted limit fault (sink.call c).2 (written ++ c.bytes) := by
  cases c with
  | writeLine line => exact h.foldl_push (line ++ [Bytes.newline])
  | flush =>
      rw [Call.bytes, List.append_nil]
      exact h.flush

/-- **What a whole run keeps.** -/
theorem answers (h : Accounted limit fault sink written) (calls : List Call) :
    Accounted limit fault (sink.answers calls).2 (written ++ LineSink.written calls) := by
  induction calls generalizing sink written with
  | nil => simpa [LineSink.answers] using h
  | cons c calls ih =>
      have hrest := ih (h.call c)
      rw [List.append_assoc, ← written_cons] at hrest
      exact hrest

/-! ### What is known of a sink at any time -/

theorem delivered_prefix (h : Accounted limit fault sink written) :
    sink.receiver.delivered.toList <+: written := by
  rcases h with h | ⟨l, -, h⟩
  · rw [← h.bytes_eq]
    exact List.prefix_append _ _
  · rw [h.delivered_eq]
    exact List.take_prefix _ _

theorem fits_delivered (h : Accounted limit fault sink written) :
    Fits limit sink.receiver.delivered.size := by
  rcases h with h | ⟨l, rfl, h⟩
  · exact h.fits_delivered
  · intro l' hl'
    cases hl'
    rw [← Array.length_toList, h.delivered_eq]
    exact List.length_take_le l written

theorem filling (h : Accounted limit fault sink written) (hwhole : sink.broken = none) :
    Filling limit fault sink written := by
  rcases h with h | ⟨l, -, h⟩
  · exact h
  · rw [h.broken_eq] at hwhole
    cases hwhole

theorem spilled (h : Accounted limit fault sink written) (hbroken : sink.broken ≠ none) :
    ∃ l, limit = some l ∧ Spilled l fault sink written := by
  rcases h with h | h
  · exact absurd h.whole hbroken
  · exact h

/-- **A flush delivers everything exactly if everything fits**, at any time. -/
theorem flush_eq_none_iff (h : Accounted limit fault sink written) :
    (sink.flush.1 = none ↔ Fits limit written.length) ∧
      (sink.flush.1 = none → sink.flush.2.receiver.delivered.toList = written) := by
  rcases h with h | ⟨l, rfl, h⟩
  · by_cases hfits : Fits limit written.length
    · obtain ⟨sink', hflush, -, -, hdelivered⟩ := h.flush_of_fits hfits
      rw [hflush]
      exact ⟨⟨fun _ => hfits, fun _ => rfl⟩, fun _ => hdelivered⟩
    · obtain ⟨l, hlimit, hlt⟩ := not_fits_iff.1 hfits
      obtain ⟨sink', hflush, -⟩ := h.flush_of_not_fits hlimit hlt
      rw [hflush]
      simp [hfits]
  · have hflush : sink.flush = _ := call_of_broken h.broken_eq .flush
    have hfits : ¬ Fits (some l) written.length := not_fits_iff.2 ⟨l, rfl, h.lt_length⟩
    rw [hflush]
    simp [hfits]

end Accounted

/-- **Lines are all taken, or the sink runs out of room** at one of them, with the first bytes of
all that should have been written delivered. -/
theorem Filling.writeLines (h : Filling limit fault sink written) (lines : List Bytes) :
    (∃ sink', OnePass.writeLines sink lines = (none, sink') ∧
      Filling limit fault sink' (written ++ Bytes.unlines lines)) ∨
    ∃ sink' l, OnePass.writeLines sink lines = (some fault, sink') ∧ limit = some l ∧
      Spilled l fault sink' (written ++ Bytes.unlines lines) := by
  induction lines generalizing sink written with
  | nil => exact Or.inl ⟨sink, rfl, by simpa using h⟩
  | cons line lines ih =>
      have hsplit : written ++ Bytes.unlines (line :: lines) =
          (written ++ (line ++ [Bytes.newline])) ++ Bytes.unlines lines := by
        simp [Bytes.unlines_cons]
      have hfirst := fst_call sink (.writeLine line)
      rw [hsplit]
      rcases Accounted.call (Or.inl h) (.writeLine line) with hnext | ⟨l, hlimit, hnext⟩
      · have hwrite : OnePass.writeLine sink line = (none, (sink.call (.writeLine line)).2) :=
          Prod.ext (hfirst.trans hnext.whole) rfl
        simp only [OnePass.writeLines, hwrite]
        exact ih hnext
      · have hwrite : OnePass.writeLine sink line =
            (some fault, (sink.call (.writeLine line)).2) :=
          Prod.ext (hfirst.trans hnext.broken_eq) rfl
        simp only [OnePass.writeLines, hwrite]
        exact Or.inr ⟨_, l, rfl, hlimit, hnext.append _⟩

end

/-- **Nothing is lost silently, and nothing fails without need.**  A new sink, in front of a
receiver that has room for a limited number of bytes or for all, is called with lines and flushes in
any order.

Whatever it has answered, the receiver has got a beginning of what was written, within its limit.
As long as no call has failed, the rest waits in the buffer, which holds 4096 bytes at most.  A
flush succeeds exactly if all that was written fits, and all of it has arrived then.  A call that
fails, the first one or any other, leaves the receiver full of the first bytes that were written,
and has the fault of the receiver as its answer; every later call has the same answer, and nothing
arrives any more. -/
theorem integrity_of_calls (limit : Option Nat) (fault : Fault) (calls : List Call) :
    let new : LineSink := { receiver := { limit := limit, fault := fault } }
    let sink := (new.answers calls).2
    let delivered := sink.receiver.delivered.toList
    (delivered <+: written calls ∧ Fits limit delivered.length) ∧
    ((∀ answer ∈ (new.answers calls).1, answer = none) →
      delivered ++ sink.buffer.toList = written calls ∧ sink.buffer.size ≤ 4096) ∧
    ((sink.flush.1 = none ↔ Fits limit (written calls).length) ∧
      (sink.flush.1 = none → sink.flush.2.receiver.delivered.toList = written calls)) ∧
    ∀ before c after, calls = before ++ c :: after →
      let failed := (new.answers before).2.call c
      failed.1 ≠ none →
        failed.1 = some fault ∧
        (∃ l, limit = some l ∧
          failed.2.receiver.delivered.toList = (written (before ++ [c])).take l) ∧
        failed.2.answers after = (List.replicate after.length (some fault), failed.2) ∧
        sink = failed.2 := by
  intro new sink delivered
  have hnew : Accounted limit fault new [] := Or.inl (filling_new limit fault)
  have hsink : Accounted limit fault sink (written calls) := hnew.answers calls
  refine ⟨⟨hsink.delivered_prefix, ?_⟩, ?_, hsink.flush_eq_none_iff, ?_⟩
  · rw [Array.length_toList]
    exact hsink.fits_delivered
  · intro hanswers
    have hwhole := (forall_answers_iff rfl calls).1 hanswers
    have hfilling := hsink.filling hwhole
    exact ⟨hfilling.bytes_eq, hfilling.size_buffer_le⟩
  · rintro before c after rfl failed hfailed
    have hcall : Accounted limit fault failed.2 (written (before ++ [c])) := by
      have hcall := (hnew.answers before).call c
      simpa using hcall
    have hbroken : failed.1 = failed.2.broken := fst_call _ c
    rw [hbroken] at hfailed
    obtain ⟨l, hlimit, hspilled⟩ := hcall.spilled hfailed
    have hafter := answers_of_broken hspilled.broken_eq after
    have hsplit : sink = (failed.2.answers after).2 := snd_answers_append new before (c :: after)
    refine ⟨hbroken.trans hspilled.broken_eq, ⟨l, hlimit, hspilled.delivered_eq⟩, hafter, ?_⟩
    rw [hsplit, hafter]

/-- A receiver with room for five bytes, one of them for the second line: both lines are taken, the
flush fails, and so does the blank line behind it. -/
theorem integrity_of_calls_flush :
    let lines : List Call :=
      [.writeLine (Bytes.ofString "abc"), .writeLine (Bytes.ofString "de")]
    let fault := Fault.plain (Bytes.ofString "full")
    let new : LineSink := { receiver := { limit := some 5, fault := fault } }
    let failed := (new.answers lines).2.call .flush
    (new.answers lines).1.all Option.isNone ∧ failed.1 = some fault ∧
      failed.2.receiver.delivered.toList = Bytes.ofString "abc\nd" ∧
      failed.2.answers [.writeLine []] = ([some fault], failed.2) := by
  intro lines fault new failed
  -- Seven bytes were written, so the flush has to fail.
  obtain ⟨-, -, ⟨hflush, -⟩, -⟩ := integrity_of_calls (some 5) fault lines
  have hne : failed.1 ≠ none := fun hnone => absurd (hflush.1 hnone 5 rfl) (by decide)
  obtain ⟨-, -, -, hfailed⟩ := integrity_of_calls (some 5) fault (lines ++ [.flush, .writeLine []])
  obtain ⟨hanswer, ⟨l, hlimit, hdelivered⟩, hafter, -⟩ := hfailed lines .flush _ rfl hne
  rw [← Option.some.inj hlimit] at hdelivered
  refine ⟨by decide +kernel, hanswer, ?_, hafter⟩
  rw [hdelivered]
  decide

end LineSink

end OnePass
