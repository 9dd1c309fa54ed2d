import OnePass.Proofs.Registers

/-
**Refused steps leave no trace.**

The token machine answers a token that it refuses with a fault and no machine, so there is nothing
that the token could have changed.  With a machine that works in place this has to be proved: every
check comes first, and a step that meets a fault has written nothing.  So what is refused can be
left out of a run.

Main definitions:

* `OnePass.Registers.accepted` — the tokens of a run that were not refused.

Main results:

* `OnePass.Registers.perform_of_unaccepted` — a step that is not an accepted token changes nothing;
* `OnePass.Registers.run_accepted` — what is refused can be left out of a run;
* `OnePass.refused_steps_leave_no_trace` — **a run of any steps is the run of its accepted tokens**.
-/

set_option relaxedAutoImplicit false
set_option autoImplicit false

namespace OnePass

open Machine (State Step)

namespace Registers

/-! ### Steps that are refused -/

/-- Whether a step is a token that is not refused. -/
def accepts (r : Registers) : Step → Bool
  | .feed token line => (r.perform (.feed token line)).1.isNone
  | .finish => false

/-- **The tokens of a run that were not refused.** -/
def accepted (r : Registers) : List Step → List Step
  | [] => []
  | s :: steps =>
    if r.accepts s then s :: accepted (r.perform s).2 steps
    else accepted (r.perform s).2 steps

/-- **A step that is not an accepted token changes nothing**: it is refused, or no token. -/
theorem perform_of_unaccepted {r : Registers} {s : Step} (h : r.accepts s = false) :
    (r.perform s).2 = r := by
  cases s with
  | finish => rw [perform_finish]
  | feed token line =>
      cases hstate : r.state with
      | expectInstruction =>
          cases hfind : r.catalog.find? token with
          | none => rw [perform_of_find?_eq_none hstate hfind]
          | some i => simp [accepts, perform_of_find? hstate hfind] at h
      | expectArgument =>
          by_cases hlit : Word.Literal r.catalog.wordSize token
          · simp [accepts, perform_of_literal hstate hlit] at h
          · rw [perform_of_not_literal hstate hlit]

/-! ### Leaving out what is refused -/

/-- **What is refused can be left out of a run.** -/
theorem run_accepted (r : Registers) (steps : List Step) :
    r.run (r.accepted steps) = r.run steps := by
  induction steps generalizing r with
  | nil => rfl
  | cons s steps ih =>
      rw [accepted]
      split
      · rw [run_cons, run_cons, ih]
      · next hs => rw [run_cons, perform_of_unaccepted (Bool.eq_false_iff.2 hs), ih]

theorem accepted_sublist (r : Registers) (steps : List Step) :
    (r.accepted steps).Sublist steps := by
  induction steps generalizing r with
  | nil => exact .slnil
  | cons s steps ih =>
      rw [accepted]
      split
      · exact (ih _).cons_cons s
      · exact (ih _).cons s

/-- **Nothing is refused in a run of accepted tokens.** -/
theorem accepts_of_mem_accepted {r : Registers} {steps before after : List Step} {s : Step}
    (h : r.accepted steps = before ++ s :: after) : (r.run before).accepts s = true := by
  induction steps generalizing r before with
  | nil => cases before <;> cases h
  | cons first steps ih =>
      rw [accepted] at h
      split at h
      · next hfirst =>
        cases before with
        | nil =>
            cases h
            exact hfirst
        | cons b before =>
            obtain ⟨rfl, hrest⟩ := List.cons.inj h
            rw [run_cons]
            exact ih hrest
      · next hfirst =>
        rw [perform_of_unaccepted (Bool.eq_false_iff.2 hfirst)] at h
        exact ih h

end Registers

/-! ### Telling machines apart -/

namespace Machine

variable {m m' : Machine}

/-- The registers tell machines apart. -/
theorem eq_of_registers_eq (h : m.registers = m'.registers) : m = m' := by
  obtain ⟨catalog, pending, startLine, program⟩ := m
  obtain ⟨catalog', pending', startLine', program'⟩ := m'
  cases pending with
  | none =>
      cases pending' with
      | none =>
          rw [registers_of_pending_eq_none rfl, registers_of_pending_eq_none rfl] at h
          cases h
          rfl
      | some pending' =>
          rw [registers_of_pending_eq_none rfl, registers_of_pending_eq_some rfl] at h
          cases h
  | some pending =>
      cases pending' with
      | none =>
          rw [registers_of_pending_eq_some rfl, registers_of_pending_eq_none rfl] at h
          cases h
      | some pending' =>
          rw [registers_of_pending_eq_some rfl, registers_of_pending_eq_some rfl] at h
          obtain ⟨instruction, remaining⟩ := pending
          obtain ⟨instruction', remaining'⟩ := pending'
          simp only [Registers.mk.injEq, Int.ofNat_inj] at h
          obtain ⟨rfl, -, rfl, rfl, rfl, rfl, -⟩ := h
          rfl

end Machine

/-- **A run of any steps is the run of its accepted tokens.**  A machine that works in place, and
goes on behind what is refused, changes nothing in a step that meets a fault, nor at an end of the
source.  So it ends where it would have ended without these steps, having shown the same records to
its observer; these are the records of the program, each once and in order.  At any time it is the
token machine that has made the same steps, and it meets the same faults. -/
theorem refused_steps_leave_no_trace (catalog : Catalog) (steps : List Step) :
    let start : Registers := { catalog := catalog }
    let new : Machine := { catalog := catalog }
    (∀ (r : Registers) (s : Step), s = .finish ∨ (r.perform s).1 ≠ none → (r.perform s).2 = r) ∧
    (start.accepted steps).Sublist steps ∧
    start.run (start.accepted steps) = start.run steps ∧
    (∀ before s after, start.accepted steps = before ++ s :: after →
      (∃ token line, s = .feed token line) ∧ ((start.run before).perform s).1 = none) ∧
    (start.run steps).announced = (start.run steps).program.records ∧
    start.run steps = (new.run steps).registers ∧
    (∀ s, ((start.run steps).perform s).1 = (new.run steps).fault? s) ∧
    new.run (start.accepted steps) = new.run steps := by
  intro start new
  have hrun : ∀ steps, start.run steps = (new.run steps).registers :=
    Machine.run_registers (Machine.reads_empty catalog)
  refine ⟨?_, start.accepted_sublist steps, start.run_accepted steps, ?_, ?_, hrun steps, ?_, ?_⟩
  · intro r s h
    refine Registers.perform_of_unaccepted ?_
    rcases h with rfl | h
    · rfl
    · cases s with
      | finish => rfl
      | feed token line => simpa [Registers.accepts, Option.isSome_iff_ne_none] using h
  · intro before s after h
    have haccepts := Registers.accepts_of_mem_accepted h
    cases s with
    | finish => cases haccepts
    | feed token line => exact ⟨⟨token, line, rfl⟩, by simpa [Registers.accepts] using haccepts⟩
  · rw [hrun]
    rfl
  · intro s
    obtain ⟨parse, hreads⟩ := (Machine.reads_empty catalog).run steps
    rw [hrun, Machine.perform_registers hreads s]
  · refine Machine.eq_of_registers_eq ?_
    rw [← hrun, ← hrun, start.run_accepted]

/-- A run over the built-in instruction set in which a literal is refused as a mnemonic, an end of
the source while an operand is missing, and a mnemonic as an operand. -/
theorem refused_steps_leave_no_trace_builtIn :
    let start : Registers := { catalog := Catalog.builtIn }
    let steps : List Step :=
      [.feed (Bytes.ofString "1") 7, .feed (Bytes.ofString "ADD") 3, .finish,
        .feed (Bytes.ofString "SUB") (-1), .feed (Bytes.ofString "101") 0]
    let accepted : List Step := [.feed (Bytes.ofString "ADD") 3, .feed (Bytes.ofString "101") 0]
    (start.perform (.feed (Bytes.ofString "1") 7)).1 ≠ none ∧
      (start.perform (.feed (Bytes.ofString "1") 7)).2 = start ∧
      start.accepted steps = accepted ∧ start.run accepted = start.run steps ∧
      (start.run steps).remaining = 1 := by
  intro start steps accepted
  obtain ⟨hunchanged, -, hrun, -⟩ := refused_steps_leave_no_trace Catalog.builtIn steps
  have hrefused : (start.perform (.feed (Bytes.ofString "1") 7)).1 ≠ none := nofun
  exact ⟨hrefused, hunchanged _ _ (Or.inr hrefused), rfl, hrun, rfl⟩

end OnePass
