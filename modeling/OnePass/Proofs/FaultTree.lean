import OnePass.Proofs.Run

/-
**What is told about a tree of faults.**

A fault may hold others, and these again others.  The exit code and the diagnostic of such a tree
are found by two searches that have little in common: one asks every fault for the exit code of its
kind, the other asks for five kinds, one after another, each time in the whole tree.  This module
says which fault is found, without any search.  A place in the tree is the list of the turns on the
way to it, and the places are ordered like words in a dictionary; the exit code is that of the fault
at the first place that has one.  If only one kind of fault is in the tree, the diagnostic is about
the same fault.

Main definitions:

* `OnePass.Fault.causes`, `OnePass.Fault.at?` — the faults that a fault holds, and the fault at a
  place;
* `OnePass.Fault.Kind`, `OnePass.Fault.kind?` — the kinds of fault that have an exit code;
* `OnePass.Fault.FirstAt` — **the first fault of a tree that has a kind**, and its place;
* `OnePass.Fault.Enclosed` — a fault inside others that add nothing in front of it;
* `OnePass.Fault.Told` — what is printed about a tree, given the first fault that has a kind.

Main results:

* `OnePass.Fault.mem_preorder_iff` — the walk over a tree comes to all places;
* `OnePass.Fault.exists_firstAt`, `OnePass.Fault.FirstAt.first?_eq` — it comes to the first place
  first;
* `OnePass.Fault.Enclosed.exitCode_eq` — what is put around a fault does not change its exit code;
* `OnePass.Fault.told_report` — a diagnostic is about the first fault, if there is only one kind;
* `OnePass.exit_code_and_report` — **exit codes and diagnostics**.
-/

set_option relaxedAutoImplicit false
set_option autoImplicit false

namespace OnePass.Fault

/-! ### Places -/

/-- The faults that a fault holds. -/
def causes : Fault → List Fault
  | .inputOutput _ _ cause => cause.toList
  | .context _ cause => cause.toList
  | .several causes => causes
  | _ => []

theorem sizeOf_lt_of_mem_causes {fault cause : Fault} (h : cause ∈ fault.causes) :
    sizeOf cause < sizeOf fault := by
  cases fault with
  | inputOutput op path inner =>
      obtain rfl := Option.mem_toList.1 h
      simp
      omega
  | context text inner =>
      obtain rfl := Option.mem_toList.1 h
      simp
      omega
  | several faults =>
      have hlt : sizeOf cause < sizeOf faults := List.sizeOf_lt_of_mem h
      simp
      omega
  | _ => cases h

/-- **Induction over a tree**: what holds of a fault if it holds of all that it holds. -/
@[elab_as_elim]
theorem induction_causes {motive : Fault → Prop}
    (h : ∀ fault, (∀ cause ∈ fault.causes, motive cause) → motive fault) (fault : Fault) :
    motive fault :=
  h fault fun cause hcause =>
    have : sizeOf cause < sizeOf fault := sizeOf_lt_of_mem_causes hcause
    induction_causes h cause
  termination_by sizeOf fault

/-- The fault at a place: the turns say which of the faults held is followed. -/
def at? : Fault → List Nat → Option Fault
  | fault, [] => some fault
  | fault, turn :: place => fault.causes[turn]?.bind (at? · place)

/-- A walk over a tree visits a fault, and then what it holds. -/
theorem preorder_eq (fault : Fault) : fault.preorder = fault :: fault.causes.flatMap preorder := by
  have hlist : ∀ faults, preorderList faults = faults.flatMap preorder := by
    intro faults
    induction faults with
    | nil => rfl
    | cons fault faults ih => rw [preorderList, ih, List.flatMap_cons]
  have hoption : ∀ cause : Option Fault, preorderOption cause = cause.toList.flatMap preorder := by
    intro cause
    cases cause with
    | none => rfl
    | some fault => simp [preorderOption]
  cases fault with
  | inputOutput op path cause => rw [preorder, hoption, causes]
  | context text cause => rw [preorder, hoption, causes]
  | several faults => rw [preorder, hlist, causes]
  | _ => rfl

/-- **The walk comes to all places**, and to nothing else. -/
theorem mem_preorder_iff {fault inner : Fault} :
    inner ∈ fault.preorder ↔ ∃ place, fault.at? place = some inner := by
  induction fault using induction_causes generalizing inner with
  | h fault ih =>
      rw [preorder_eq, List.mem_cons, List.mem_flatMap]
      constructor
      · rintro (rfl | ⟨cause, hcause, hinner⟩)
        · exact ⟨[], rfl⟩
        · obtain ⟨turn, hturn⟩ := List.mem_iff_getElem?.1 hcause
          obtain ⟨place, hplace⟩ := (ih cause hcause).1 hinner
          refine ⟨turn :: place, ?_⟩
          rw [at?, hturn]
          exact hplace
      · rintro ⟨place, hplace⟩
        cases place with
        | nil =>
            cases hplace
            exact Or.inl rfl
        | cons turn place =>
            obtain ⟨cause, hturn, hinner⟩ := Option.bind_eq_some_iff.1 hplace
            have hcause : cause ∈ fault.causes := List.mem_of_getElem? hturn
            exact Or.inr ⟨cause, hcause, (ih cause hcause).2 ⟨place, hinner⟩⟩

/-! ### Kinds -/

/-- The kinds of fault that have an exit code of their own. -/
inductive Kind where
  /-- A command line that cannot be followed. -/
  | invocation
  /-- A file that could not be opened, read or written. -/
  | inputOutput
  /-- A token that is no mnemonic. -/
  | unknownCommand
  /-- An instruction without all of its operands. -/
  | unexpectedEnd
  /-- A token that does not fit in a word. -/
  | invalidArgument
  deriving DecidableEq, Repr

/-- The exit code of a kind. -/
def Kind.code : Kind → Nat
  | .invocation => 1
  | .inputOutput => 2
  | .unknownCommand => 3
  | .unexpectedEnd => 4
  | .invalidArgument => 5

/-- The kind of a fault, whatever it holds. -/
def kind? : Fault → Option Kind
  | .invocation _ => some .invocation
  | .inputOutput _ _ _ => some .inputOutput
  | .unknownCommand _ _ => some .unknownCommand
  | .unexpectedEnd _ _ _ => some .unexpectedEnd
  | .invalidArgument _ _ _ _ => some .invalidArgument
  | _ => none

theorem code?_eq (fault : Fault) : fault.code? = fault.kind?.map Kind.code := by
  cases fault <;> rfl

/-- **The first fault of a tree that has a kind**, and its place.  Places are ordered like words in
a dictionary, so that a fault stands in front of all that it holds. -/
structure FirstAt (fault : Fault) (place : List Nat) (first : Fault) (kind : Kind) : Prop where
  /-- The fault stands at this place. -/
  at_eq : fault.at? place = some first
  /-- It has this kind. -/
  kind_eq : first.kind? = some kind
  /-- No fault in front of it has a kind. -/
  before : ∀ place' < place, ∀ inner, fault.at? place' = some inner → inner.kind? = none

/-- No fault of the tree has a kind. -/
def Unclassified (fault : Fault) : Prop :=
  ∀ place inner, fault.at? place = some inner → inner.kind? = none

/-- The first fault that has a kind, on a walk over the tree. -/
def first? (fault : Fault) : Option Fault :=
  fault.preorder.find? (·.kind?.isSome)

theorem first?_eq_none_iff {fault : Fault} : fault.first? = none ↔ fault.Unclassified := by
  simp only [first?, List.find?_eq_none, mem_preorder_iff, Option.not_isSome_iff_eq_none,
    Unclassified]
  exact ⟨fun h place inner hinner => h inner ⟨place, hinner⟩,
    fun h inner ⟨place, hinner⟩ => h place inner hinner⟩

/-- A walk over a tree looks at a fault, and then into what it holds, in order. -/
theorem first?_eq (fault : Fault) :
    fault.first? = if fault.kind?.isSome then some fault else fault.causes.findSome? first? := by
  rw [first?, preorder_eq, List.find?_cons, List.find?_flatMap]
  cases fault.kind?.isSome with
  | true => rfl
  | false => rfl

/-- **A walk comes to the first place first.** -/
theorem exists_firstAt {fault first : Fault} {kind : Kind} (h : fault.first? = some first)
    (hkind : first.kind? = some kind) : ∃ place, fault.FirstAt place first kind := by
  induction fault using induction_causes with
  | h fault ih =>
      rw [first?_eq] at h
      split at h
      · next hhere =>
        cases h
        exact ⟨[], rfl, hkind, fun place' hlt => absurd hlt (List.not_lt_nil place')⟩
      · next hhere =>
        obtain ⟨before, cause, after, hcauses, hfirst, hbefore⟩ := List.findSome?_eq_some_iff.1 h
        have hcause : fault.causes[before.length]? = some cause := by simp [hcauses]
        obtain ⟨place, hplace⟩ := ih cause (List.mem_of_getElem? hcause) hfirst
        refine ⟨before.length :: place, ?_, hkind, ?_⟩
        · rw [at?, hcause]
          exact hplace.at_eq
        · intro place' hlt inner hinner
          -- A place in front is this fault, or in an earlier cause, or in front in the same cause.
          cases place' with
          | nil =>
              cases hinner
              exact Option.not_isSome_iff_eq_none.1 hhere
          | cons turn place' =>
              obtain ⟨other, hother, hinner⟩ := Option.bind_eq_some_iff.1 hinner
              rcases List.cons_lt_cons_iff.1 hlt with hturn | ⟨rfl, hrest⟩
              · rw [hcauses, List.getElem?_append_left hturn] at hother
                have hnone := hbefore other (List.mem_of_getElem? hother)
                exact first?_eq_none_iff.1 hnone place' inner hinner
              · rw [hcause] at hother
                cases hother
                exact hplace.before place' hrest inner hinner

theorem exists_kind_of_first? {fault first : Fault} (h : fault.first? = some first) :
    ∃ kind, first.kind? = some kind := by
  have hsome := List.find?_some h
  exact Option.isSome_iff_exists.1 hsome

/-- There is no second first place. -/
theorem FirstAt.unique {fault first first' : Fault} {place place' : List Nat} {kind kind' : Kind}
    (h : fault.FirstAt place first kind) (h' : fault.FirstAt place' first' kind') :
    first = first' := by
  have hle : ¬ place' < place := by
    intro hlt
    have hnone := h.before place' hlt first' h'.at_eq
    rw [h'.kind_eq] at hnone
    cases hnone
  have hge : ¬ place < place' := by
    intro hlt
    have hnone := h'.before place hlt first h.at_eq
    rw [h.kind_eq] at hnone
    cases hnone
  have hplace : place = place' := List.le_antisymm hle hge
  have hsome : some first = some first' := by rw [← h.at_eq, ← h'.at_eq, hplace]
  exact Option.some.inj hsome

/-- **The fault at the first place is the one that a walk finds.** -/
theorem FirstAt.first?_eq {fault first : Fault} {place : List Nat} {kind : Kind}
    (h : fault.FirstAt place first kind) : fault.first? = some first := by
  cases hfound : fault.first? with
  | none =>
      have hnone := first?_eq_none_iff.1 hfound place first h.at_eq
      rw [h.kind_eq] at hnone
      cases hnone
  | some found =>
      obtain ⟨kind', hkind'⟩ := exists_kind_of_first? hfound
      obtain ⟨place', hplace'⟩ := exists_firstAt hfound hkind'
      rw [h.unique hplace']

/-- A question that no fault without a kind answers, but the first one with a kind does, is answered
by that one. -/
theorem findSome?_preorder {α : Type} {f : Fault → Option α} {fault first : Fault}
    (hf : ∀ inner, inner.kind? = none → f inner = none) (h : fault.first? = some first)
    (hfirst : f first ≠ none) : fault.preorder.findSome? f = f first := by
  obtain ⟨-, before, after, hsplit, hbefore⟩ := List.find?_eq_some_iff_append.1 h
  have hnone : before.findSome? f = none := by
    rw [List.findSome?_eq_none_iff]
    intro inner hinner
    exact hf inner (by simpa using hbefore inner hinner)
  obtain ⟨a, ha⟩ := Option.ne_none_iff_exists'.1 hfirst
  rw [hsplit, List.findSome?_append, hnone, Option.none_or, List.findSome?_cons, ha]

/-! ### Exit codes -/

/-- **The exit code is that of the first fault that has a kind.** -/
theorem exitCode_of_first? {fault first : Fault} {kind : Kind} (h : fault.first? = some first)
    (hkind : first.kind? = some kind) : fault.exitCode = kind.code := by
  have hcode : first.code? = some kind.code := by rw [code?_eq, hkind, Option.map_some]
  rw [exitCode, findSome?_preorder ?_ h (by simp [hcode]), hcode, Option.getD_some]
  intro inner hinner
  rw [code?_eq, hinner, Option.map_none]

/-- A tree without any kind has the exit code of a bad command line. -/
theorem exitCode_of_first?_eq_none {fault : Fault} (h : fault.first? = none) :
    fault.exitCode = 1 := by
  have hnone : fault.preorder.findSome? code? = none := by
    rw [List.findSome?_eq_none_iff]
    intro inner hinner
    rw [code?_eq, Option.map_eq_none_iff]
    simpa using List.find?_eq_none.1 h inner hinner
  rw [exitCode, hnone, Option.getD_none]

theorem exitCode_ne_zero (fault : Fault) : fault.exitCode ≠ 0 := by
  cases h : fault.first? with
  | none =>
      rw [exitCode_of_first?_eq_none h]
      decide
  | some first =>
      obtain ⟨kind, hkind⟩ := exists_kind_of_first? h
      rw [exitCode_of_first? h hkind]
      cases kind <;> decide

/-! ### Faults around a fault -/

/-- **A fault inside others that add nothing in front of it**: contexts, any number of them, and
several faults told as one, of which those in front have no kind. -/
inductive Enclosed (fault : Fault) : Fault → Prop where
  /-- The fault itself. -/
  | refl : Enclosed fault fault
  /-- A fault told in one more context. -/
  | context (text : Bytes) {outer : Fault} (h : Enclosed fault outer) :
      Enclosed fault (.context text (some outer))
  /-- A fault told together with others; those behind it may be any. -/
  | several {before : List (Option Fault)} {outer joint : Fault} (after : List (Option Fault))
      (h : Enclosed fault outer) (hbefore : ∀ other, some other ∈ before → other.Unclassified)
      (hjoint : several? (before ++ some outer :: after) = some joint) : Enclosed fault joint

/-- Of several faults, those in front of the first one with a kind do not matter. -/
theorem first?_several {before after : List Fault} {outer first : Fault}
    (hbefore : ∀ other ∈ before, other.Unclassified) (h : outer.first? = some first) :
    (several (before ++ outer :: after)).first? = some first := by
  have hnone : before.findSome? first? = none := by
    rw [List.findSome?_eq_none_iff]
    intro other hother
    exact first?_eq_none_iff.2 (hbefore other hother)
  have hcauses : (several (before ++ outer :: after)).causes = before ++ outer :: after := rfl
  rw [first?_eq, hcauses, List.findSome?_append, hnone, Option.none_or, List.findSome?_cons, h]
  rfl

/-- Several faults told as one, of which at least one is not missing. -/
theorem several?_append_cons (before after : List (Option Fault)) (outer : Fault) :
    several? (before ++ some outer :: after) =
      some (several (before.filterMap id ++ outer :: after.filterMap id)) := by
  have hfaults : (before ++ some outer :: after).filterMap id =
      before.filterMap id ++ outer :: after.filterMap id := by simp
  rw [several?, hfaults]
  cases before.filterMap id <;> rfl

/-- **What is put around a fault does not change what comes first.** -/
theorem Enclosed.first?_of_some {fault outer first : Fault} (h : fault.Enclosed outer)
    (hfirst : fault.first? = some first) : outer.first? = some first := by
  induction h with
  | refl => exact hfirst
  | context text h ih =>
      rw [first?_eq]
      simpa [kind?, causes] using ih
  | several after h hbefore hjoint ih =>
      rw [several?_append_cons] at hjoint
      cases hjoint
      refine first?_several ?_ ih
      intro other hother
      exact hbefore other (by simpa using hother)

/-- **What is put around a fault that holds a kind does not change its exit code.** -/
theorem Enclosed.exitCode_eq {fault outer : Fault} (h : fault.Enclosed outer)
    (hkind : ¬ fault.Unclassified) : outer.exitCode = fault.exitCode := by
  rw [← first?_eq_none_iff] at hkind
  obtain ⟨first, hfirst⟩ := Option.ne_none_iff_exists'.1 hkind
  obtain ⟨kind, hkind⟩ := exists_kind_of_first? hfirst
  rw [exitCode_of_first? hfirst hkind, exitCode_of_first? (h.first?_of_some hfirst) hkind]

/-! ### Diagnostics -/

open Bytes (ofString)

/-- **What is printed about a tree**, given the first fault that has a kind: the text of its kind,
and the exit code that goes with it.  A failed operation on a file without a name is told by the
text of the whole tree. -/
inductive Told (fault : Fault) : Fault → Nat → Bytes → Prop where
  /-- A command line that cannot be followed. -/
  | invocation (reason : Bytes) :
      Told fault (.invocation reason) 1
        (ofString "Error: " ++ reason ++
          ofString "\nUsage: asm8 [flags] <input_file.asm> <output_file.bin>\n")
  /-- A failed operation on a file. -/
  | named (op path : Bytes) (cause : Option Fault) (hpath : path ≠ []) :
      Told fault (.inputOutput op path cause) 2
        (ofString "Error: Cannot " ++ op ++ ofString " '" ++ path ++ ofString "' (" ++
          (cause.elim (ofString "<nil>") text) ++ ofString ")\n")
  /-- A failed operation on a file without a name. -/
  | unnamed (op : Bytes) (cause : Option Fault) :
      Told fault (.inputOutput op [] cause) 2 (ofString "Error: " ++ fault.text ++ ofString "\n")
  /-- A fault of the source. -/
  | source {first : Fault} {code : Nat} {text : Bytes} (h : first.Diagnostic code text) :
      Told fault first code text

section

variable {fault first : Fault} {kind : Kind}

/-- A question that exactly the faults of one kind answer is answered like by the first fault that
has a kind, if no other kind is in the tree. -/
theorem findSome?_of_kind {α : Type} {f : Fault → Option α} {asked : Kind}
    (h : fault.first? = some first) (hkind : first.kind? = some kind)
    (honly : ∀ inner ∈ fault.preorder, ∀ kind', inner.kind? = some kind' → kind' = kind)
    (hf : ∀ inner, f inner ≠ none ↔ inner.kind? = some asked) :
    fault.preorder.findSome? f = f first := by
  by_cases hasked : asked = kind
  · refine findSome?_preorder ?_ h ((hf first).2 (hasked ▸ hkind))
    intro inner hnone
    by_contra hanswer
    rw [(hf inner).1 hanswer] at hnone
    cases hnone
  · have hnone : ∀ inner ∈ fault.preorder, f inner = none := by
      intro inner hinner
      by_contra hanswer
      exact hasked (honly inner hinner asked ((hf inner).1 hanswer))
    rw [List.findSome?_eq_none_iff.2 hnone, hnone first (List.mem_of_find?_eq_some h)]

/-- The diagnostic of a tree with one kind of fault is looked up in the first one alone. -/
theorem report_eq (h : fault.first? = some first) (hkind : first.kind? = some kind)
    (honly : ∀ inner ∈ fault.preorder, ∀ kind', inner.kind? = some kind' → kind' = kind) :
    fault.report =
      (reportInvocation? first <|> reportInputOutput? [first] <|> reportUnknownCommand? first
        <|> reportUnexpectedEnd? first <|> reportInvalidArgument? first).getD
          (reportLine [ofString "Error: ", fault.text]) := by
  have hinvocation : fault.preorder.findSome? reportInvocation? = reportInvocation? first :=
    findSome?_of_kind h hkind honly fun inner =>
      show _ ↔ inner.kind? = some .invocation by cases inner <;> simp [reportInvocation?, kind?]
  have hfile : fault.preorder.findSome? inputOutput? = inputOutput? first :=
    findSome?_of_kind h hkind honly fun inner =>
      show _ ↔ inner.kind? = some .inputOutput by cases inner <;> simp [inputOutput?, kind?]
  have hcommand : fault.preorder.findSome? reportUnknownCommand? = reportUnknownCommand? first :=
    findSome?_of_kind h hkind honly fun inner =>
      show _ ↔ inner.kind? = some .unknownCommand by
        cases inner <;> simp [reportUnknownCommand?, kind?]
  have hend : fault.preorder.findSome? reportUnexpectedEnd? = reportUnexpectedEnd? first :=
    findSome?_of_kind h hkind honly fun inner =>
      show _ ↔ inner.kind? = some .unexpectedEnd by
        cases inner <;> simp [reportUnexpectedEnd?, kind?]
  have hargument :
      fault.preorder.findSome? reportInvalidArgument? = reportInvalidArgument? first :=
    findSome?_of_kind h hkind honly fun inner =>
      show _ ↔ inner.kind? = some .invalidArgument by
        cases inner <;> simp [reportInvalidArgument?, kind?]
  have hnamed : reportInputOutput? fault.preorder = reportInputOutput? [first] := by
    rw [reportInputOutput?, reportInputOutput?, hfile, List.findSome?_singleton]
  simp only [report, hinvocation, hnamed, hcommand, hend, hargument]

/-- **A diagnostic is about the first fault that has a kind**, if no other kind is in the tree. -/
theorem told_report (h : fault.first? = some first) (hkind : first.kind? = some kind)
    (honly : ∀ inner ∈ fault.preorder, ∀ kind', inner.kind? = some kind' → kind' = kind) :
    Told fault first kind.code fault.report := by
  rw [report_eq h hkind honly]
  cases first with
  | invocation reason =>
      cases hkind
      have htold : Told fault (.invocation reason) 1 _ := .invocation reason
      have husage : ofString "\nUsage: asm8 [flags] <input_file.asm> <output_file.bin>\n" =
          Bytes.newline :: ofString "Usage: asm8 [flags] <input_file.asm> <output_file.bin>" ++
            [Bytes.newline] := rfl
      rw [husage] at htold
      simpa [reportInvocation?, reportLine, Kind.code] using htold
  | inputOutput op path cause =>
      cases hkind
      by_cases hpath : path = []
      · subst hpath
        have htold : Told fault (.inputOutput op [] cause) 2 _ := .unnamed op cause
        have hnewline : ofString "\n" = [Bytes.newline] := rfl
        rw [hnewline] at htold
        simpa [reportInvocation?, reportInputOutput?, inputOutput?, reportUnknownCommand?,
          reportUnexpectedEnd?, reportInvalidArgument?, reportLine, Kind.code] using htold
      · have htold : Told fault (.inputOutput op path cause) 2 _ := .named op path cause hpath
        have hend : ofString ")\n" = ofString ")" ++ [Bytes.newline] := rfl
        have hcause : cause.elim (ofString "<nil>") text = textOr (ofString "<nil>") cause := by
          cases cause <;> rfl
        rw [hend, hcause] at htold
        simpa [reportInvocation?, reportInputOutput?, inputOutput?, hpath, reportLine,
          Kind.code] using htold
  | unknownCommand line token =>
      cases hkind
      exact .source (diagnostic_unknownCommand line token)
  | unexpectedEnd mnemonic line missing =>
      cases hkind
      exact .source (diagnostic_unexpectedEnd mnemonic line missing)
  | invalidArgument line mnemonic token width =>
      cases hkind
      exact .source (diagnostic_invalidArgument line mnemonic token width)
  | _ => cases hkind

end

end OnePass.Fault

namespace OnePass

open Fault
open Bytes (ofString)

/-- **Exit codes and diagnostics.**  The exit code is zero only without a fault.  Otherwise it is
that of the first fault of the tree that has a kind, and 1 if there is none, and neither contexts
nor faults without a kind change it.  If only one kind of fault is in the tree, the diagnostic is
that of this kind, about the same fault. -/
theorem exit_code_and_report (fault : Fault) :
    (∀ outcome : Option Fault, exitCode outcome = 0 ↔ outcome = none) ∧
    ((∃ place first kind, fault.FirstAt place first kind) ∨ fault.Unclassified) ∧
    (∀ place first kind, fault.FirstAt place first kind →
      exitCode (some fault) = kind.code) ∧
    (fault.Unclassified → exitCode (some fault) = 1) ∧
    (∀ outer, fault.Enclosed outer → ¬ fault.Unclassified →
      exitCode (some outer) = exitCode (some fault)) ∧
    (∀ place first kind, fault.FirstAt place first kind →
      (∀ place' inner kind', fault.at? place' = some inner → inner.kind? = some kind' →
        kind' = kind) →
      Told fault first (exitCode (some fault)) fault.report) := by
  refine ⟨?_, ?_, ?_, ?_, ?_, ?_⟩
  · intro outcome
    cases outcome with
    | none => exact ⟨fun _ => rfl, fun _ => rfl⟩
    | some fault => exact ⟨fun h => absurd h fault.exitCode_ne_zero, nofun⟩
  · cases h : fault.first? with
    | none => exact Or.inr (first?_eq_none_iff.1 h)
    | some first =>
        obtain ⟨kind, hkind⟩ := exists_kind_of_first? h
        obtain ⟨place, hplace⟩ := exists_firstAt h hkind
        exact Or.inl ⟨place, first, kind, hplace⟩
  · intro place first kind hfirst
    exact exitCode_of_first? hfirst.first?_eq hfirst.kind_eq
  · intro hnone
    exact exitCode_of_first?_eq_none (first?_eq_none_iff.2 hnone)
  · intro outer houter hkind
    exact houter.exitCode_eq hkind
  · intro place first kind hfirst honly
    have hcode : exitCode (some fault) = kind.code :=
      exitCode_of_first? hfirst.first?_eq hfirst.kind_eq
    rw [hcode]
    refine told_report hfirst.first?_eq hfirst.kind_eq ?_
    intro inner hinner kind' hkind'
    obtain ⟨place', hplace'⟩ := mem_preorder_iff.1 hinner
    exact honly place' inner kind' hplace' hkind'

/-- A file without a name is told by the text of the whole tree, even if a file with a name is what
its fault holds.  What stands in front and behind does not count. -/
theorem exit_code_and_report_unnamed_file :
    let named := inputOutput (ofString "open input") (ofString "a.asm") none
    let first := inputOutput (ofString "read input") [] (some named)
    let fault := several [plain (ofString "stopped"), context (ofString "load") (some first)]
    let outer := several [endOfInput, fault, unknownCommand 1 (ofString "X")]
    fault.FirstAt [1, 0] first .inputOutput ∧
    (∀ place inner kind, fault.at? place = some inner → inner.kind? = some kind →
      kind = .inputOutput) ∧
    fault.Enclosed outer ∧ ¬ fault.Unclassified ∧ endOfInput.Unclassified ∧
    exitCode (some fault) = 2 ∧ exitCode (some outer) = 2 ∧ exitCode (some endOfInput) = 1 ∧
    Told fault first 2 fault.report := by
  intro named first fault outer
  have hplain : endOfInput.Unclassified := first?_eq_none_iff.1 rfl
  have hfirst : fault.FirstAt [1, 0] first .inputOutput := by
    refine ⟨rfl, rfl, ?_⟩
    intro place hlt inner hinner
    cases place with
    | nil =>
        cases hinner
        rfl
    | cons turn place =>
        rcases List.cons_lt_cons_iff.1 hlt with hturn | ⟨rfl, hrest⟩
        · obtain rfl : turn = 0 := by omega
          cases place with
          | nil =>
              cases hinner
              rfl
          | cons turn place => cases hinner
        · cases place with
          | nil =>
              cases hinner
              rfl
          | cons turn place =>
              rcases List.cons_lt_cons_iff.1 hrest with hturn | ⟨-, hnil⟩
              · omega
              · exact absurd hnil (List.not_lt_nil place)
  have honly : ∀ place inner kind, fault.at? place = some inner → inner.kind? = some kind →
      kind = .inputOutput := by
    intro place inner kind hinner hkind
    have hmem : inner ∈ [fault, plain (ofString "stopped"), context (ofString "load") (some first),
        first, named] := mem_preorder_iff.2 ⟨place, hinner⟩
    simp only [List.mem_cons, List.not_mem_nil, or_false] at hmem
    rcases hmem with rfl | rfl | rfl | rfl | rfl <;> cases hkind <;> rfl
  have houter : fault.Enclosed outer := by
    have hnone : ∀ other, some other ∈ [some endOfInput] → other.Unclassified := by
      intro other hother
      obtain rfl := Option.some.inj (List.mem_singleton.1 hother)
      exact hplain
    exact .several [some (unknownCommand 1 (ofString "X"))] .refl hnone rfl
  have hkind : ¬ fault.Unclassified := by
    intro hnone
    cases hnone [1, 0] first rfl
  obtain ⟨-, -, hcode, -, henclosed, htold⟩ := exit_code_and_report fault
  have htwo : exitCode (some fault) = 2 := hcode _ _ _ hfirst
  obtain ⟨-, -, -, hone, -, -⟩ := exit_code_and_report endOfInput
  refine ⟨hfirst, honly, houter, hkind, hplain, htwo, ?_, hone hplain, ?_⟩
  · rw [henclosed outer houter hkind, htwo]
  · rw [← htwo]
    exact htold _ _ _ hfirst honly

end OnePass
