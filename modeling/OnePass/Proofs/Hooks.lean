import Mathlib.Data.List.Nodup
import OnePass.Proofs.Assembly

/-
**What hooks are told.**

An assembler may have hooks, which are told of every word and of the end.  What they are told is not
read off the program afterwards: they are called in the middle of the work, and what they have been
told by then cannot be taken back if the work fails.  Still it is the same as the program, on every
source and wherever the work stops: one event for every record, in order, and the end exactly if the
work goes well.  And the work is the same whoever watches it.

The observer of an assembly is any function of what it has seen so far, so the proof is about the
list of events alone; that every event goes to all hooks, one after another, comes in at the end.

Main definitions:

* `OnePass.Machine.emitted` — the records of the tokens in front of the first one that is refused;
* `OnePass.Assembly.events` — **the events of an assembly**;
* `OnePass.Assembler.seenBy` — what one hook was told, among the calls to all of them.

Main results:

* `OnePass.assembleLines_snd` — an observer sees the events, one after another;
* `OnePass.Assembler.run_eq` — every event is told to every hook;
* `OnePass.Assembler.foldlM_acceptHook` — hooks that are all different can be attached;
* `OnePass.hooks_see_assembly` — **hooks see exactly what was assembled**.
-/

set_option relaxedAutoImplicit false
set_option autoImplicit false

namespace OnePass

open Source (Token)

/-! ### Events -/

namespace Machine

/-- The records of tokens, up to the first one that is refused. -/
def emitted (m : Machine) : List Token → List Record
  | [] => []
  | token :: tokens =>
    match m.feed token.text token.line with
    | .error _ => []
    | .ok (record, m') => record :: m'.emitted tokens

variable {m m' : Machine} {token : Token} {tokens : List Token}

theorem emitted_cons_of_ok {record : Record}
    (h : m.feed token.text token.line = .ok (record, m')) :
    m.emitted (token :: tokens) = record :: m'.emitted tokens := by
  simp only [emitted, h]

theorem emitted_cons_of_error {fault : Fault} (h : m.feed token.text token.line = .error fault) :
    m.emitted (token :: tokens) = [] := by
  simp only [emitted, h]

/-- Tokens that are accepted add their records to the program. -/
theorem records_of_feedAll (h : m.feedAll tokens = .ok m') :
    m'.program.records = m.program.records ++ m.emitted tokens := by
  induction tokens generalizing m with
  | nil =>
      cases h
      exact (List.append_nil _).symm
  | cons token tokens ih =>
      obtain ⟨record, m₁, hfeed, hrest⟩ := exists_feed_of_feedAll_cons h
      rw [ih hrest, program_of_feed hfeed, Program.records_push, emitted_cons_of_ok hfeed,
        List.append_assoc]
      rfl

end Machine

namespace Assembly

/-- The event of the end, if all goes well. -/
def finale (assembly : Assembly) : List Event :=
  if assembly.fault.isNone then [.done assembly.program] else []

/-- **The events of an assembly**: one for every record, and the end if all goes well. -/
def events (assembly : Assembly) : List Event :=
  assembly.program.records.map .wordEmitted ++ assembly.finale

variable {assembly : Assembly}

theorem finale_of_ok {program : Program} (h : assembly.result = .ok program) :
    assembly.program = program ∧ assembly.finale = [.done program] := by
  unfold result at h
  split at h
  · next hfault =>
    cases h
    exact ⟨rfl, by simp [finale, hfault]⟩
  · cases h

theorem finale_of_error {fault : Fault} (h : assembly.result = .error fault) :
    assembly.finale = [] := by
  unfold result at h
  split at h
  · cases h
  · next hfault => simp [finale, hfault]

end Assembly

section

variable {σ : Type} (watch : Event → σ → σ) (ending : Fault)

/-- An assembly adds the records of the accepted tokens to the program of the machine. -/
theorem records_assembleFrom (m : Machine) (number : Nat) (lines : List Bytes) :
    (assembleFrom ending m number lines).program.records =
      m.program.records ++ m.emitted (Source.tokensFrom (number + 1) lines) := by
  induction lines generalizing m number with
  | nil => simp [assembleFrom_nil, Machine.emitted]
  | cons line lines ih =>
      by_cases hblank : Source.sanitize line = []
      · rw [assembleFrom_cons_of_blank hblank, Source.tokensFrom_cons_of_blank hblank, ih]
      · rw [Source.tokensFrom_cons_of_ne hblank]
        cases hfeed : m.feed (Source.sanitize line) (number + 1 : Nat) with
        | error fault =>
            rw [assembleFrom_cons_of_error hblank hfeed, Machine.emitted_cons_of_error hfeed,
              List.append_nil]
        | ok next =>
            rw [assembleFrom_cons_of_ok hblank hfeed, Machine.emitted_cons_of_ok hfeed, ih,
              Machine.program_of_feed hfeed, Program.records_push, List.append_assoc]
            rfl

/-- **An observer sees the events**, one after another. -/
theorem assembleLines_snd (m : Machine) (number : Nat) (seen : σ) (lines : List Bytes) :
    (assembleLines watch ending m number seen lines).2 =
      ((m.emitted (Source.tokensFrom (number + 1) lines)).map Event.wordEmitted ++
        (assembleFrom ending m number lines).finale).foldl
          (fun seen event => watch event seen) seen := by
  induction lines generalizing m number seen with
  | nil =>
      have hend : (assembleLines watch ending m number seen []).2 =
          if (endFault ending m).isNone then watch (.done m.program) seen else seen := rfl
      have hfinale : (assembleFrom ending m number []).finale =
          if (endFault ending m).isNone then [.done m.program] else [] := rfl
      rw [hend, hfinale]
      split <;> rfl
  | cons line lines ih =>
      by_cases hblank : Source.sanitize line = []
      · rw [assembleFrom_cons_of_blank hblank, Source.tokensFrom_cons_of_blank hblank, ← ih]
        simp only [assembleLines, hblank]
      · obtain ⟨b, token, htoken⟩ := List.exists_cons_of_ne_nil hblank
        rw [Source.tokensFrom_cons_of_ne hblank]
        cases hfeed : m.feed (Source.sanitize line) (number + 1 : Nat) with
        | error fault =>
            rw [assembleFrom_cons_of_error hblank hfeed, Machine.emitted_cons_of_error hfeed]
            rw [htoken] at hfeed
            simp only [assembleLines, htoken, hfeed]
            rfl
        | ok next =>
            rw [assembleFrom_cons_of_ok hblank hfeed, Machine.emitted_cons_of_ok hfeed,
              List.map_cons, List.cons_append, List.foldl_cons, ← ih]
            rw [htoken] at hfeed
            simp only [assembleLines, htoken, hfeed]

end

/-! ### Hooks -/

namespace Assembler

variable {Hook : Type}

/-- The calls that tell all hooks of an event. -/
def callsOf (a : Assembler Hook) (event : Event) : List (Call Hook) :=
  a.hooks.map fun hook => ⟨hook, a.name, event⟩

/-- An event is told to all hooks, in order. -/
theorem notify_eq (a : Assembler Hook) (event : Event) (calls : List (Call Hook)) :
    a.notify event calls = (a.callsOf event).reverse ++ calls := by
  unfold notify callsOf
  induction a.hooks generalizing calls with
  | nil => rfl
  | cons hook hooks ih => simp [ih]

/-- Events are told one after another. -/
theorem foldl_notify (a : Assembler Hook) (events : List Event) (calls : List (Call Hook)) :
    (events.foldl (fun calls event => a.notify event calls) calls).reverse =
      calls.reverse ++ events.flatMap a.callsOf := by
  induction events generalizing calls with
  | nil => simp
  | cons event events ih =>
      rw [List.foldl_cons, ih, notify_eq]
      simp

/-- **Every event is told to every hook**, and nothing else is. -/
theorem run_eq (a : Assembler Hook) (source : LineSource) :
    a.run source =
      (assemble a.catalog source, (assemble a.catalog source).events.flatMap a.callsOf) := by
  have hrecords := records_assembleFrom source.ending { catalog := a.catalog } 0 source.lines
  have hcalls := assembleLines_snd a.notify source.ending { catalog := a.catalog } 0 []
    source.lines
  refine Prod.ext (assembleLines_fst a.notify [] source.ending _ 0 source.lines) ?_
  change (assembleLines a.notify source.ending { catalog := a.catalog } 0 [] source.lines).2.reverse
    = _
  rw [hcalls, foldl_notify, assemble_eq_assembleFrom, Assembly.events, hrecords]
  rfl

/-! ### Attaching hooks -/

/-- **Hooks that are all different can be attached**, and stand behind those already there. -/
theorem foldlM_acceptHook [BEq Hook] [LawfulBEq Hook] {a : Assembler Hook} {hooks : List Hook}
    (h : (a.hooks ++ hooks).Nodup) :
    hooks.foldlM acceptHook a = .ok { a with hooks := a.hooks ++ hooks } := by
  induction hooks generalizing a with
  | nil => rw [List.append_nil]; rfl
  | cons hook hooks ih =>
      have hnew : hook ∉ a.hooks := by
        intro hmem
        exact (List.nodup_append.1 h).2.2 hook hmem hook (List.mem_cons_self ..) rfl
      have haccept : a.acceptHook hook = .ok { a with hooks := a.hooks ++ [hook] } :=
        if_neg (by simpa using hnew)
      rw [List.append_cons] at h ⊢
      rw [List.foldlM_cons, haccept]
      exact ih h

theorem Builder.foldl_withHook (b : Builder Hook) (hooks : List Hook) :
    hooks.foldl withHook b = { b with hooks := b.hooks ++ hooks } := by
  induction hooks generalizing b with
  | nil => simp
  | cons hook hooks ih => simp [ih, withHook]

/-- Hooks that are attached to a plan stand in front of those attached to its assembler. -/
theorem attach_eq [BEq Hook] [LawfulBEq Hook] {catalog : Catalog} {name : Bytes}
    {before after : List Hook} (h : (before ++ after).Nodup) :
    ((before.foldl Builder.withHook (({} : Builder Hook).withCatalog (some catalog))).build
        name).bind (after.foldlM acceptHook ·) =
      .ok { name := name, catalog := catalog, hooks := before ++ after } := by
  let bare : Assembler Hook := { name := name, catalog := catalog }
  have hplan : before.foldlM acceptHook bare = .ok { bare with hooks := before } :=
    foldlM_acceptHook (List.nodup_append.1 h).1
  have hbuild : (before.foldl Builder.withHook
      (({} : Builder Hook).withCatalog (some catalog))).build name =
        .ok { bare with hooks := before } := by
    rw [Builder.foldl_withHook]
    exact hplan
  rw [hbuild]
  exact foldlM_acceptHook (a := { bare with hooks := before }) h

/-! ### What one hook is told -/

/-- What one hook was told, among the calls to all hooks. -/
def seenBy [BEq Hook] (hook : Hook) (calls : List (Call Hook)) : List Event :=
  (calls.filter (·.hook == hook)).map (·.event)

/-- Every hook is told of every event once. -/
theorem seenBy_flatMap_callsOf [BEq Hook] [LawfulBEq Hook] {a : Assembler Hook} {hook : Hook}
    (hnodup : a.hooks.Nodup) (hmem : hook ∈ a.hooks) (events : List Event) :
    seenBy hook (events.flatMap a.callsOf) = events := by
  have honce : ∀ event, seenBy hook (a.callsOf event) = [event] := by
    intro event
    rw [seenBy, callsOf, List.filter_map, List.map_map]
    change (a.hooks.filter (· == hook)).map (fun _ => event) = [event]
    rw [List.filter_beq, List.count_eq_one_of_mem hnodup hmem]
    rfl
  induction events with
  | nil => rfl
  | cons event events ih =>
      have happend : seenBy hook ((event :: events).flatMap a.callsOf) =
          seenBy hook (a.callsOf event) ++ seenBy hook (events.flatMap a.callsOf) := by
        simp [seenBy]
      rw [happend, honce, ih]
      rfl

end Assembler

/-! ### Assemblies that fail -/

/-- **Where an assembly fails**: at a line whose token is refused, or at the end of the source.  The
tokens of the lines in front are accepted, and their records are those of the program. -/
theorem exists_failure_of_assemble {catalog : Catalog} {source : LineSource} {fault : Fault}
    (h : (assemble catalog source).result = .error fault) :
    ∃ (k : Nat) (m : Machine),
      ({ catalog := catalog } : Machine).feedAll (Source.tokens (source.lines.take k)) = .ok m ∧
      ((∃ line, source.lines[k]? = some line ∧ Source.sanitize line ≠ [] ∧
          m.feed (Source.sanitize line) (k + 1 : Nat) = .error fault) ∨
        (k = source.lines.length ∧ endFault source.ending m = some fault)) ∧
      (assemble catalog source).program.records =
        ({ catalog := catalog } : Machine).emitted (Source.tokens (source.lines.take k)) := by
  rw [assemble_eq_assembleFrom] at h ⊢
  rw [result_assembleFrom] at h
  cases hfeed : ({ catalog := catalog } : Machine).feedAll (Source.tokensFrom 1 source.lines) with
  | error refusal =>
      rw [hfeed] at h
      cases h
      obtain ⟨k, line, m, hline, hbefore, hne, hrefused⟩ := exists_refused_line hfeed
      rw [assembleFrom_of_refused hline hbefore hne hrefused]
      rw [Nat.zero_add] at hrefused
      exact ⟨k, m, hbefore, Or.inl ⟨line, hline, hne, hrefused⟩, Machine.records_of_feedAll hbefore⟩
  | ok m =>
      rw [hfeed] at h
      have hend : endFault source.ending m = some fault := by
        simp only [resultAt] at h
        split at h
        · cases h
        · next hend =>
          cases h
          exact hend
      refine ⟨source.lines.length, m, ?_, Or.inr ⟨rfl, hend⟩, ?_⟩
      · rwa [List.take_length]
      · rw [assembleFrom_of_accepted hfeed, List.take_length]
        exact Machine.records_of_feedAll hfeed

/-- **Hooks see exactly what was assembled.**  Let some hooks be attached to the plan of an
assembler and others to the assembler itself, all of them different.  Then every record is told to
all hooks, in the order in which they were attached, as soon as it is emitted; and the finished
program is told to them behind all records, exactly if the source is assembled.  So each hook is
told the records of the program if all goes well, and otherwise those of the tokens in front of the
line at which the assembly fails, or of all tokens if it fails at the end of the source.  What
becomes of the source is the same as without hooks. -/
theorem hooks_see_assembly {Hook : Type} [DecidableEq Hook] (catalog : Catalog) (name : Bytes)
    {before after : List Hook} (hdistinct : (before ++ after).Nodup) (source : LineSource) :
    let plan := ({} : Assembler.Builder Hook).withCatalog (some catalog)
    let hooks := before ++ after
    let start : Machine := { catalog := catalog }
    ∃ a bare : Assembler Hook,
      ((before.foldl Assembler.Builder.withHook plan).build name).bind
        (after.foldlM Assembler.acceptHook ·) = .ok a ∧
      plan.build name = .ok bare ∧
      let assembly := (a.run source).1
      let calls := (a.run source).2
      assembly = (bare.run source).1 ∧
      calls.map (fun call => (call.hook, call.caller, call.event.position, call.event)) =
        assembly.program.records.flatMap (fun record => hooks.map fun hook =>
          (hook, name, Bytes.ofString "Asm Word Emitted", .wordEmitted record)) ++
        (match assembly.result with
          | .ok program =>
            hooks.map fun hook => (hook, name, Bytes.ofString "Asm Done", .done program)
          | .error _ => []) ∧
      (∀ program, assembly.result = .ok program → ∀ hook ∈ hooks,
        Assembler.seenBy hook calls = program.records.map .wordEmitted ++ [.done program]) ∧
      (∀ fault, assembly.result = .error fault → ∃ (k : Nat) (m : Machine),
        start.feedAll (Source.tokens (source.lines.take k)) = .ok m ∧
        ((∃ line, source.lines[k]? = some line ∧ Source.sanitize line ≠ [] ∧
            m.feed (Source.sanitize line) (k + 1 : Nat) = .error fault) ∨
          (k = source.lines.length ∧ endFault source.ending m = some fault)) ∧
        ∀ hook ∈ hooks, Assembler.seenBy hook calls =
          (start.emitted (Source.tokens (source.lines.take k))).map .wordEmitted) := by
  intro plan hooks start
  let a : Assembler Hook := { name := name, catalog := catalog, hooks := hooks }
  refine ⟨a, { name := name, catalog := catalog }, Assembler.attach_eq hdistinct, rfl, ?_⟩
  intro assembly calls
  have hrun := a.run_eq source
  have hassembly : assembly = assemble catalog source := congrArg Prod.fst hrun
  have hcalls : calls = assembly.events.flatMap a.callsOf := by
    rw [hassembly]
    exact congrArg Prod.snd hrun
  have hseen : ∀ hook ∈ hooks, Assembler.seenBy hook calls = assembly.events := by
    intro hook hhook
    rw [hcalls]
    exact Assembler.seenBy_flatMap_callsOf hdistinct hhook assembly.events
  refine ⟨?_, ?_, ?_, ?_⟩
  · rw [Assembler.run_eq]
    exact hassembly
  · rw [hcalls, Assembly.events, List.flatMap_append, List.map_append, List.flatMap_map,
      List.map_flatMap]
    refine congr (congrArg _ ?_) ?_
    · simp only [Assembler.callsOf, List.map_map]
      rfl
    · cases hresult : assembly.result with
      | error fault =>
          rw [Assembly.finale_of_error hresult]
          rfl
      | ok program =>
          rw [(Assembly.finale_of_ok hresult).2, List.flatMap_singleton, Assembler.callsOf,
            List.map_map]
          rfl
  · intro program hprogram hook hhook
    obtain ⟨hok, hfinale⟩ := Assembly.finale_of_ok hprogram
    rw [hseen hook hhook, Assembly.events, hok, hfinale]
  · intro fault hfault
    have hfinale := Assembly.finale_of_error hfault
    rw [hassembly] at hfault
    obtain ⟨k, m, hbefore, hwhere, hrecords⟩ := exists_failure_of_assemble hfault
    refine ⟨k, m, hbefore, hwhere, ?_⟩
    intro hook hhook
    rw [hseen hook hhook, Assembly.events, hfinale, List.append_nil, hassembly, hrecords]

/-- One hook of the plan and one of the assembler, and a source that ends in front of the second
operand: both hooks are told of two records, and neither of an end. -/
theorem hooks_see_assembly_missing_operand :
    let name := Bytes.ofString "Asm"
    let position := Bytes.ofString "Asm Word Emitted"
    let plan := ({} : Assembler.Builder Bool).withCatalog (some Catalog.builtIn)
    let source : LineSource := ⟨[Bytes.ofString "ADD", [], Bytes.ofString "1"], .endOfInput⟩
    let opcode : Record := ⟨Bytes.ofString "00010000", 1, Bytes.ofString "ADD", .opcode⟩
    let operand : Record := ⟨Bytes.ofString "00000001", 3, Bytes.ofString "ADD", .operand⟩
    ([false] ++ [true]).Nodup ∧ ∃ a : Assembler Bool,
      (([false].foldl Assembler.Builder.withHook plan).build name).bind
        ([true].foldlM Assembler.acceptHook ·) = .ok a ∧
      (a.run source).1.result = .error (.unexpectedEnd (Bytes.ofString "ADD") 1 1) ∧
      (a.run source).2.map (fun call => (call.hook, call.caller, call.event.position, call.event)) =
        [(false, name, position, .wordEmitted opcode), (true, name, position, .wordEmitted opcode),
          (false, name, position, .wordEmitted operand),
          (true, name, position, .wordEmitted operand)] := by
  intro name position plan source opcode operand
  have hdistinct : ([false] ++ [true]).Nodup := by decide
  obtain ⟨a, bare, ha, hbare, hsame, hcalls, -⟩ :=
    hooks_see_assembly Catalog.builtIn name hdistinct source
  cases hbare
  refine ⟨hdistinct, a, ha, ?_, ?_⟩
  · rw [hsame]
    rfl
  · rw [hsame] at hcalls
    exact hcalls

end OnePass
