import ProtocolGateway.Proofs.Startup.Orderly

/-!
# The bootstrap stops at the first failure

A bootstrap is two loops, over the phases and over the modules, with a way out of both. Here it is
compared with one list, the schedule: the operations of all phases, phase by phase, and within a
phase in the order of the modules. A bootstrap runs the operations of the schedule one after another
until one of them is not done. It keeps all that they left in the context, and in the end the
context has its modules again, with those that were registered meanwhile after them.

## Main definitions

* `Operation.schedule`: all operations in their order.
* `Performed.Takes`: what a single operation does to modules and context.
* `Completes`, `Runs`: operations one after another, all of them done, and up to one that is not.

## Main results

* `Context.runs_runPhases`: the two loops run the schedule.
* `Context.bootstrap_fails_fast`: a bootstrap and what it leaves.
-/

namespace ProtocolGateway

/-! ### Operations -/

/-- The operation of a phase for the module at a place. -/
structure Operation where
  phase : Phase
  /-- The place of the module. -/
  index : Nat
deriving DecidableEq, Repr

namespace Operation

/-- The operations of a phase for so many modules, the first of which has the place `first`. -/
def ofPhase (phase : Phase) (first count : Nat) : List Operation :=
  (List.range' first count).map (⟨phase, ·⟩)

/-- All operations of so many modules: phase by phase, and within a phase in the order of the
modules. -/
def schedule (count : Nat) : List Operation := Phase.all.flatMap (ofPhase · 0 count)

theorem ofPhase_succ (phase : Phase) (first count : Nat) :
    ofPhase phase first (count + 1) = ⟨phase, first⟩ :: ofPhase phase (first + 1) count := by
  rw [ofPhase, List.range'_succ, List.map_cons, ofPhase]

theorem index_lt_of_mem_schedule {o : Operation} {count : Nat} (h : o ∈ schedule count) :
    o.index < count := by
  obtain ⟨phase, -, h⟩ := List.mem_flatMap.1 h
  obtain ⟨index, hindex, rfl⟩ := List.mem_map.1 h
  exact Nat.zero_add count ▸ (List.mem_range'_1.1 hindex).2

/-- How a bootstrap ends when an operation of a module comes out like this. -/
def halt? (o : Operation) (module : String) : Outcome → Option Halt
  | .done => none
  | .failed cause => some (.failed ⟨o.phase, o.index, module, cause⟩)
  | .crashed => some .crashed

end Operation

/-- The operation that an entry of the journal is about. -/
def Happening.operation? : Happening → Option Operation
  | .operation phase index _ => some ⟨phase, index⟩
  | _ => none

/-- The operations that the journal has, in their order. -/
def Context.operations {M : Type} (c : Context M) : List Operation :=
  c.journal.filterMap (·.operation?)

theorem Context.operations_eq {M : Type} (c : Context M) :
    c.operations = c.sightings.filterMap (·.operation?) := by
  rw [sightings, List.filterMap_filter, operations]
  congr 1
  funext h
  cases h <;> rfl

/-- Modules on their way up, and the context that they share. -/
structure Booting (M : Type) where
  modules : List M
  context : Context M

/-- An operation that was run, with the modules that it registered. -/
structure Performed (M : Type) where
  operation : Operation
  registered : List M

section run

variable {M : Type} [Bootable M]

/-- An operation is begun with an entry in the journal. It changes the module at its place and no
other one, and the modules that it registers come after those that were registered before. -/
structure Performed.Takes (p : Performed M) (s s' : Booting M) (outcome : Outcome) : Prop where
  operate : ∃ m m', s.modules[p.operation.index]? = some m ∧
    s'.modules = s.modules.set p.operation.index m' ∧
    Bootable.operate p.operation.phase m (s.context.record
      (.operation p.operation.phase p.operation.index s.context.readiness)) =
        (m', s'.context, outcome)
  registered : s'.context.modules = s.context.modules ++ p.registered

/-- Operations one after another, all of them done. -/
inductive Completes : List (Performed M) → Booting M → Booting M → Prop
  | nil {s : Booting M} : Completes [] s s
  | cons {p : Performed M} {more : List (Performed M)} {s s₁ s' : Booting M}
    (first : p.Takes s s₁ .done) (rest : Completes more s₁ s') : Completes (p :: more) s s'

/-- Operations one after another: all of a list, or up to the first one that is not done. -/
inductive Runs (operations : List Operation) (s : Booting M) :
    List (Performed M) → Booting M → Option Halt → Prop
  | completed {ran : List (Performed M)} {s' : Booting M} (all : Completes ran s s')
    (scheduled : ran.map (·.operation) = operations) : Runs operations s ran s' none
  | stopped {before : List (Performed M)} {last : Performed M} {s₁ s' : Booting M}
    {outcome : Outcome} {m : M} {halt : Halt} (done : Completes before s s₁)
    (undone : last.Takes s₁ s' outcome)
    (scheduled : (before ++ [last]).map (·.operation) <+: operations)
    (named : s'.modules[last.operation.index]? = some m)
    (halted : last.operation.halt? (Bootable.name m) outcome = some halt) :
    Runs operations s (before ++ [last]) s' (some halt)

variable {s s₁ s' : Booting M}

theorem Completes.append {first more : List (Performed M)} (h : Completes first s s₁)
    (h' : Completes more s₁ s') : Completes (first ++ more) s s' := by
  induction h with
  | nil => exact h'
  | cons hfirst _ ih => exact .cons hfirst (ih h')

/-- A run can be stopped by its first operation. -/
theorem Runs.of_undone {last : Performed M} {operations : List Operation} {outcome : Outcome}
    {m : M} {halt : Halt} (undone : last.Takes s s' outcome)
    (scheduled : [last.operation] <+: operations)
    (named : s'.modules[last.operation.index]? = some m)
    (halted : last.operation.halt? (Bootable.name m) outcome = some halt) :
    Runs operations s [last] s' (some halt) := by
  have hbefore : Completes [] s s := .nil
  have hruns := Runs.stopped hbefore undone scheduled named halted
  exact hruns

/-- A run goes on after operations that are done. -/
theorem Runs.prepend {done ran : List (Performed M)} {operations : List Operation}
    {halt : Option Halt} (hdone : Completes done s s₁) (h : Runs operations s₁ ran s' halt) :
    Runs (done.map (·.operation) ++ operations) s (done ++ ran) s' halt := by
  cases h with
  | completed hall hscheduled =>
    exact .completed (hdone.append hall) (by rw [List.map_append, hscheduled])
  | stopped hbefore hundone hscheduled hnamed hhalted =>
    rw [← List.append_assoc]
    refine .stopped (hdone.append hbefore) hundone ?_ hnamed hhalted
    rw [List.append_assoc, List.map_append]
    exact (List.prefix_append_right_inj _).2 hscheduled

/-- What would have come later does not matter for a run that was stopped. -/
theorem Runs.extend {ran : List (Performed M)} {operations : List Operation} {halt : Halt}
    (h : Runs operations s ran s' (some halt)) (later : List Operation) :
    Runs (operations ++ later) s ran s' (some halt) := by
  cases h with
  | stopped hbefore hundone hscheduled hnamed hhalted =>
    exact .stopped hbefore hundone (hscheduled.trans (List.prefix_append _ _)) hnamed hhalted

/-! ### What a run leaves -/

theorem Performed.Takes.length_modules {p : Performed M} {outcome : Outcome}
    (h : p.Takes s s' outcome) : s'.modules.length = s.modules.length := by
  obtain ⟨m, m', -, hset, -⟩ := h.operate
  rw [hset, List.length_set]

theorem Completes.length_modules {ran : List (Performed M)} (h : Completes ran s s') :
    s'.modules.length = s.modules.length := by
  induction h with
  | nil => rfl
  | cons hfirst _ ih => rw [ih, hfirst.length_modules]

theorem Runs.length_modules {operations : List Operation} {ran : List (Performed M)}
    {halt : Option Halt} (h : Runs operations s ran s' halt) :
    s'.modules.length = s.modules.length := by
  cases h with
  | completed hall _ => exact hall.length_modules
  | stopped hbefore hundone _ _ _ => rw [hundone.length_modules, hbefore.length_modules]

section mark

variable {α : Type} {mark : M → α}

/-- What operations leave alone about modules, such as their names, tells which module has which
place. -/
theorem Performed.Takes.map_modules
    (hmark : ∀ (phase : Phase) (m : M) (c : Context M),
      mark (Bootable.operate phase m c).1 = mark m)
    {p : Performed M} {outcome : Outcome} (h : p.Takes s s' outcome) :
    s'.modules.map mark = s.modules.map mark := by
  obtain ⟨m, m', hplace, hset, hoperate⟩ := h.operate
  have hkept : mark m' = mark m := by
    have hkept := hmark p.operation.phase m (s.context.record
      (.operation p.operation.phase p.operation.index s.context.readiness))
    rwa [hoperate] at hkept
  have hmarked : (s.modules.map mark)[p.operation.index]? = some (mark m) := by
    rw [List.getElem?_map, hplace, Option.map_some]
  rw [hset, List.map_set, hkept]
  obtain ⟨hlt, heq⟩ := List.getElem?_eq_some_iff.1 hmarked
  rw [← heq, List.set_getElem_self]

theorem Completes.map_modules
    (hmark : ∀ (phase : Phase) (m : M) (c : Context M),
      mark (Bootable.operate phase m c).1 = mark m)
    {ran : List (Performed M)} (h : Completes ran s s') :
    s'.modules.map mark = s.modules.map mark := by
  induction h with
  | nil => rfl
  | cons hfirst _ ih => rw [ih, hfirst.map_modules hmark]

theorem Runs.map_modules
    (hmark : ∀ (phase : Phase) (m : M) (c : Context M),
      mark (Bootable.operate phase m c).1 = mark m)
    {operations : List Operation} {ran : List (Performed M)} {halt : Option Halt}
    (h : Runs operations s ran s' halt) : s'.modules.map mark = s.modules.map mark := by
  cases h with
  | completed hall _ => exact hall.map_modules hmark
  | stopped hbefore hundone _ _ _ => rw [hundone.map_modules hmark, hbefore.map_modules hmark]

end mark

/-- The modules that were registered stand in the order in which that happened. -/
theorem Completes.registered {ran : List (Performed M)} (h : Completes ran s s') :
    s'.context.modules = s.context.modules ++ ran.flatMap (·.registered) := by
  induction h with
  | nil => simp
  | cons hfirst _ ih => rw [ih, hfirst.registered, List.append_assoc, List.flatMap_cons]

theorem Runs.registered {operations : List Operation} {ran : List (Performed M)}
    {halt : Option Halt} (h : Runs operations s ran s' halt) :
    s'.context.modules = s.context.modules ++ ran.flatMap (·.registered) := by
  cases h with
  | completed hall _ => exact hall.registered
  | stopped hbefore hundone _ _ _ =>
    rw [hundone.registered, hbefore.registered, List.append_assoc, List.flatMap_append,
      List.flatMap_singleton]

/-- A run is a beginning of the list, and all of it if nothing stops it. -/
theorem Runs.scheduled {operations : List Operation} {ran : List (Performed M)}
    {halt : Option Halt} (h : Runs operations s ran s' halt) :
    ran.map (·.operation) <+: operations := by
  cases h with
  | completed _ hscheduled => exact hscheduled ▸ List.prefix_refl _
  | stopped _ _ hscheduled _ _ => exact hscheduled

section orderly

variable [Orderly M]

/-- Whatever comes of an operation, the process has noted down that it was begun, and nothing
else. -/
theorem Performed.Takes.sightings {p : Performed M} {outcome : Outcome}
    (h : p.Takes s s' outcome) : s'.context.sightings = s.context.sightings ++
      [.operation p.operation.phase p.operation.index s.context.readiness] := by
  obtain ⟨m, m', -, -, hoperate⟩ := h.operate
  have hextends := Orderly.operate_extends p.operation.phase m (s.context.record
    (.operation p.operation.phase p.operation.index s.context.readiness))
  rw [hoperate] at hextends
  rw [hextends.sightings, Context.sightings_record]
  rfl

theorem Performed.Takes.operations {p : Performed M} {outcome : Outcome}
    (h : p.Takes s s' outcome) :
    s'.context.operations = s.context.operations ++ [p.operation] := by
  rw [Context.operations_eq, Context.operations_eq, h.sightings, List.filterMap_append]
  rfl

theorem Completes.operations {ran : List (Performed M)} (h : Completes ran s s') :
    s'.context.operations = s.context.operations ++ ran.map (·.operation) := by
  induction h with
  | nil => simp
  | cons hfirst _ ih => rw [ih, hfirst.operations, List.append_assoc]; rfl

theorem Runs.operations {operations : List Operation} {ran : List (Performed M)}
    {halt : Option Halt} (h : Runs operations s ran s' halt) :
    s'.context.operations = s.context.operations ++ ran.map (·.operation) := by
  cases h with
  | completed hall _ => exact hall.operations
  | stopped hbefore hundone _ _ _ =>
    rw [hundone.operations, hbefore.operations, List.append_assoc, List.map_append]
    rfl

/-- An operation of an orderly module takes modules and context somewhere. -/
theorem exists_takes {o : Operation} {m m' : M} {c : Context M} {outcome : Outcome}
    (hplace : s.modules[o.index]? = some m)
    (hoperate : Bootable.operate o.phase m
      (s.context.record (.operation o.phase o.index s.context.readiness)) = (m', c, outcome)) :
    ∃ registered, Performed.Takes ⟨o, registered⟩ s ⟨s.modules.set o.index m', c⟩ outcome := by
  have hextends := Orderly.operate_extends o.phase m
    (s.context.record (.operation o.phase o.index s.context.readiness))
  rw [hoperate] at hextends
  obtain ⟨registered, hregistered⟩ := hextends.modules
  exact ⟨registered, ⟨m, m', hplace, rfl, hoperate⟩, hregistered.symm⟩

/-- The operation of a module changes it where it stands, and nothing in front of it or behind. -/
theorem exists_takes_front {phase : Phase} {m m' : M} {c left : Context M} {outcome : Outcome}
    (front rest : List M)
    (hoperate : Bootable.operate phase m
      (c.record (.operation phase front.length c.readiness)) = (m', left, outcome)) :
    ∃ registered, Performed.Takes ⟨⟨phase, front.length⟩, registered⟩
      ⟨front ++ m :: rest, c⟩ ⟨front ++ m' :: rest, left⟩ outcome := by
  have hplace : (front ++ m :: rest)[front.length]? = some m := by simp
  have hset : (front ++ m :: rest).set front.length m' = front ++ m' :: rest := by simp
  obtain ⟨registered, htakes⟩ :=
    exists_takes (s := ⟨front ++ m :: rest, c⟩) (o := ⟨phase, front.length⟩) hplace hoperate
  rw [hset] at htakes
  exact ⟨registered, htakes⟩

end orderly

end run

/-! ### The two loops -/

namespace Context

variable {M : Type} {c c' c'' : Context M}

/-- What is logged when a bootstrap ends. -/
def logsHalt (halt : Option Halt) (c : Context M) : Context M :=
  match halt with
  | some (.failed e) => c.logs e.event
  | _ => c

/-- A context that has all that another one has. Its modules may be others, and its log may go
on. -/
structure Keeps (c c' : Context M) : Prop where
  rest : { c' with modules := c.modules, log := c.log, output := c.output } = c
  log : c.log <+: c'.log
  output : c.output <+: c'.output

theorem Keeps.trans (h : c.Keeps c') (h' : c'.Keeps c'') : c.Keeps c'' := by
  refine ⟨?_, h.log.trans h'.log, h.output.trans h'.output⟩
  calc { c'' with modules := c.modules, log := c.log, output := c.output }
      = { { c'' with modules := c'.modules, log := c'.log, output := c'.output } with
          modules := c.modules, log := c.log, output := c.output } := rfl
    _ = { c' with modules := c.modules, log := c.log, output := c.output } := by rw [h'.rest]
    _ = c := h.rest

theorem keeps_modules (modules : List M) (c : Context M) : c.Keeps { c with modules } :=
  ⟨rfl, List.prefix_refl _, List.prefix_refl _⟩

theorem keeps_logs (e : Log.Event) (c : Context M) : c.Keeps (c.logs e) :=
  ⟨rfl, List.prefix_append _ _, List.prefix_append _ _⟩

theorem keeps_logsHalt (halt : Option Halt) (c : Context M) : c.Keeps (c.logsHalt halt) := by
  cases halt with
  | none => exact keeps_modules _ c
  | some halt =>
    cases halt with
    | failed e => exact keeps_logs _ c
    | crashed => exact keeps_modules _ c

theorem keeps_restore (modules : List M) (c : Context M) : c.Keeps (c.restore modules) := by
  rw [restore]
  split
  · exact keeps_modules _ c
  · exact (keeps_logs _ c).trans (keeps_modules _ _)

theorem Keeps.operations (h : c.Keeps c') : c'.operations = c.operations := by
  have hjournal := congrArg Context.operations h.rest
  exact hjournal

theorem modules_logsHalt (halt : Option Halt) (c : Context M) :
    (c.logsHalt halt).modules = c.modules := by
  cases halt with
  | none => rfl
  | some halt => cases halt <;> rfl

theorem modules_restore (modules : List M) (c : Context M) :
    (c.restore modules).modules = modules ++ c.modules := rfl

variable [Bootable M] [Orderly M]

/-- The inner loop runs the operations of a phase. `front` are the modules that had their turn. -/
theorem runs_runPhase {phase : Phase} {modules modules' : List M} {c c' : Context M}
    {halt : Option Halt} (front : List M)
    (h : runPhase phase front.length modules c = (modules', c', halt)) :
    ∃ (ran : List (Performed M)) (left : Context M),
      Runs (Operation.ofPhase phase front.length modules.length)
        ⟨front ++ modules, c⟩ ran ⟨front ++ modules', left⟩ halt ∧ c' = left.logsHalt halt := by
  -- The number of the modules in front is the place of the next one, so they grow as the rest gets
  -- shorter.
  induction modules generalizing front modules' c c' halt with
  | nil =>
    obtain ⟨rfl, rfl, rfl⟩ : modules' = [] ∧ c' = c ∧ halt = none := by
      simpa [runPhase, eq_comm] using h
    exact ⟨[], c', .completed .nil rfl, rfl⟩
  | cons m rest ih =>
    rcases hoperate : Bootable.operate phase m
      (c.record (.operation phase front.length c.readiness)) with ⟨m', left, outcome⟩
    obtain ⟨registered, htakes⟩ := exists_takes_front front rest hoperate
    have hnamed : (front ++ m' :: rest)[front.length]? = some m' := by simp
    have hnow : [Operation.mk phase front.length] <+:
        Operation.ofPhase phase front.length (m :: rest).length := by
      rw [List.length_cons, Operation.ofPhase_succ]
      exact ⟨_, rfl⟩
    rw [runPhase, hoperate] at h
    cases outcome with
    | done =>
      rcases hmore : runPhase phase (front.length + 1) rest left with ⟨more, c₂, halt₂⟩
      obtain ⟨rfl, rfl, rfl⟩ : modules' = m' :: more ∧ c' = c₂ ∧ halt = halt₂ := by
        simpa [hmore, eq_comm] using h
      obtain ⟨ran, last, hruns, hlast⟩ := ih (front ++ [m']) (by simpa using hmore)
      rw [List.append_assoc, List.append_assoc, List.length_append] at hruns
      refine ⟨⟨⟨phase, front.length⟩, registered⟩ :: ran, last, ?_, hlast⟩
      rw [List.length_cons, Operation.ofPhase_succ]
      exact Runs.prepend (.cons htakes .nil) hruns
    | failed cause =>
      obtain ⟨rfl, rfl, rfl⟩ : modules' = m' :: rest ∧ c' = _ ∧ halt = _ := by
        simpa [eq_comm] using h
      exact ⟨[_], left, .of_undone htakes hnow hnamed rfl, rfl⟩
    | crashed =>
      obtain ⟨rfl, rfl, rfl⟩ : modules' = m' :: rest ∧ c' = left ∧ halt = some .crashed := by
        simpa [eq_comm] using h
      exact ⟨[_], c', .of_undone htakes hnow hnamed rfl, rfl⟩

/-- **The two loops run the schedule.** -/
theorem runs_runPhases {phases : List Phase} {modules modules' : List M} {c c' : Context M}
    {halt : Option Halt} (h : runPhases phases modules c = (modules', c', halt)) :
    ∃ (ran : List (Performed M)) (left : Context M),
      Runs (phases.flatMap (Operation.ofPhase · 0 modules.length))
        ⟨modules, c⟩ ran ⟨modules', left⟩ halt ∧ c' = left.logsHalt halt := by
  -- A phase that is done leaves other modules, but as many, so the schedule goes on as it was.
  induction phases generalizing modules c with
  | nil =>
    obtain ⟨rfl, rfl, rfl⟩ : modules' = modules ∧ c' = c ∧ halt = none := by
      simpa [runPhases, eq_comm] using h
    exact ⟨[], c', .completed .nil rfl, rfl⟩
  | cons phase phases ih =>
    rcases hphase : runPhase phase 0 modules c with ⟨modules₁, c₁, halt₁⟩
    obtain ⟨ran, left, hruns, hleft⟩ := runs_runPhase [] hphase
    rw [runPhases, hphase] at h
    rw [List.flatMap_cons]
    cases halt₁ with
    | some halt₁ =>
      obtain ⟨rfl, rfl, rfl⟩ : modules' = modules₁ ∧ c' = c₁ ∧ halt = some halt₁ := by
        simpa [eq_comm] using h
      exact ⟨ran, left, hruns.extend _, hleft⟩
    | none =>
      obtain rfl : c₁ = left := hleft
      have hlength : modules₁.length = modules.length := hruns.length_modules
      obtain ⟨later, last, hlater, hlast⟩ := ih h
      rw [hlength] at hlater
      cases hruns with
      | completed hall hscheduled =>
        have hphase : ran.map (·.operation) = Operation.ofPhase phase 0 modules.length := hscheduled
        refine ⟨ran ++ later, last, ?_, hlast⟩
        rw [← hphase]
        exact Runs.prepend hall hlater

/-- The run of a bootstrap, and what comes of the context that the run leaves: it is kept, and
unless something crashed the modules are put back into it. -/
theorem exists_runs_bootstrap (c : Context M) :
    ∃ (ran : List (Performed M)) (last : Booting M),
      Runs (Operation.schedule c.modules.length) ⟨c.modules, { c with modules := [] }⟩ ran last
        c.bootstrap.2 ∧
      last.context.Keeps c.bootstrap.1 ∧
      (c.bootstrap.2 ≠ some .crashed →
        c.bootstrap.1.modules = last.modules ++ last.context.modules) := by
  rcases hphases : runPhases Phase.all c.modules { c with modules := [] } with ⟨modules, c', halt⟩
  obtain ⟨ran, left, hruns, rfl⟩ := runs_runPhases hphases
  have hbootstrap : c.bootstrap = if halt = some .crashed then (left.logsHalt halt, halt)
      else ((left.logsHalt halt).restore modules, halt) := by
    rw [bootstrap, hphases]
  have hkeeps := keeps_logsHalt halt left
  refine ⟨ran, ⟨modules, left⟩, ?_⟩
  by_cases hcrashed : halt = some .crashed
  · rw [hbootstrap, if_pos hcrashed]
    exact ⟨hruns, hkeeps, fun h => absurd hcrashed h⟩
  · rw [hbootstrap, if_neg hcrashed]
    refine ⟨hruns, hkeeps.trans (keeps_restore modules _), fun _ => ?_⟩
    rw [modules_restore, modules_logsHalt]

/-- **A bootstrap stops at the first failure.** It runs a beginning of the schedule of the modules
that it found, up to and with the first operation that is not done, and the error names that one.
The context is left as that operation left it, except that the log may go on. Unless something
crashed, the context has the modules again, each at its place, and after them those that were
registered, in the order in which that happened; no operation of theirs was run. -/
theorem bootstrap_fails_fast (c : Context M) :
    ∃ (ran : List (Performed M)) (last : Booting M),
      Runs (Operation.schedule c.modules.length) ⟨c.modules, { c with modules := [] }⟩ ran last
        c.bootstrap.2 ∧
      c.bootstrap.1.operations = c.operations ++ ran.map (·.operation) ∧
      (∀ p ∈ ran, p.operation.index < c.modules.length) ∧
      last.context.Keeps c.bootstrap.1 ∧
      last.modules.length = c.modules.length ∧
      (∀ {α : Type} (mark : M → α), (∀ (phase : Phase) (m : M) (c : Context M),
        mark (Bootable.operate phase m c).1 = mark m) →
          last.modules.map mark = c.modules.map mark) ∧
      (c.bootstrap.2 ≠ some .crashed →
        c.bootstrap.1.modules = last.modules ++ ran.flatMap (·.registered)) := by
  obtain ⟨ran, last, hruns, hkeeps, hmodules⟩ := c.exists_runs_bootstrap
  have hoperations : last.context.operations = c.operations ++ ran.map (·.operation) :=
    hruns.operations
  have hregistered : last.context.modules = ran.flatMap (·.registered) := hruns.registered
  refine ⟨ran, last, hruns, hkeeps.operations.trans hoperations, fun p hp => ?_, hkeeps,
    hruns.length_modules, fun mark hmark => hruns.map_modules hmark, fun hcrashed => ?_⟩
  · exact Operation.index_lt_of_mem_schedule (hruns.scheduled.subset (List.mem_map_of_mem hp))
  · rw [hmodules hcrashed, hregistered]

/-- A rehearsal in which the first of two modules registers a third one and fails after that. -/
def failingRehearsal : Context RehearsalModule :=
  { modules := [
      .scripted "first" false fun
        | .init => [.register (.scripted "late" false fun _ => [])]
        | .postInit => [.fail (.other "out of order")]
        | _ => [],
      .scripted "second" false fun _ => []] }

/-- The rehearsal stops at the third operation of its first module, with three modules. -/
theorem bootstrap_fails_fast_rehearsal :
    failingRehearsal.bootstrap.2 =
      some (.failed ⟨.postInit, 0, "first", .other "out of order"⟩) ∧
    ∃ (ran : List (Performed RehearsalModule)) (last : Booting RehearsalModule),
      Runs (Operation.schedule 2) ⟨failingRehearsal.modules, {}⟩ ran last
        failingRehearsal.bootstrap.2 ∧
      ran.map (·.operation) =
        [⟨.preInit, 0⟩, ⟨.preInit, 1⟩, ⟨.init, 0⟩, ⟨.init, 1⟩, ⟨.postInit, 0⟩] ∧
      failingRehearsal.bootstrap.1.modules.map Bootable.name = ["first", "second", "late"] := by
  have hhalt : failingRehearsal.bootstrap.2 =
    some (.failed ⟨.postInit, 0, "first", .other "out of order"⟩) := rfl
  obtain ⟨ran, last, hruns, hoperations, -⟩ := failingRehearsal.bootstrap_fails_fast
  exact ⟨hhalt, ran, last, hruns, hoperations.symm, rfl⟩

end Context

end ProtocolGateway
