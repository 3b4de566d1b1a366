import ProtocolGateway.Proofs.Startup.Changes

/-!
# Orderly modules

A module changes the context in the ways that the context offers. It can register further modules,
but it takes none away and does not put one before another; and what the process itself notes down,
which operations were begun and what was torn down, is not written by modules. The theory of the
bootstrap needs no more of a module than that, whatever else it does and however it fails.

## Main definitions

* `Context.sightings`: what the process noted down of operations and teardown steps.
* `Context.Extends`: a context that came out of another one in such ways.
* `Orderly`: modules all of whose operations are such ways.

## Main results

* `BuiltInModule.orderly`, `RehearsalModule.orderly`: the built-in and the scripted modules are
  orderly.
-/

namespace ProtocolGateway

/-- The readiness with which an operation of a module was begun or something was torn down. -/
def Happening.seen? : Happening → Option Readiness
  | .operation _ _ seen => some seen
  | .tornDown _ _ seen => some seen
  | _ => none

namespace Context

variable {M : Type} {c c' c'' : Context M}

/-- What was noted down of operations and teardown steps, in their order. -/
def sightings (c : Context M) : List Happening := c.journal.filter (·.seen?.isSome)

theorem sightings_record (h : Happening) (c : Context M) :
    (c.record h).sightings = c.sightings ++ [h].filter (·.seen?.isSome) :=
  List.filter_append ..

/-- A context that came out of another one: modules were registered at most at the end, and nothing
was noted down of operations and teardown steps. -/
structure Extends (c c' : Context M) : Prop where
  modules : c.modules <+: c'.modules
  sightings : c'.sightings = c.sightings

/-- Whatever leaves modules and journal alone is allowed. -/
theorem Extends.of_eq (hmodules : c'.modules = c.modules) (hjournal : c'.journal = c.journal) :
    c.Extends c' :=
  ⟨hmodules ▸ List.prefix_refl _, by rw [Context.sightings, Context.sightings, hjournal]⟩

theorem Extends.refl (c : Context M) : c.Extends c := .of_eq rfl rfl

theorem Extends.trans (h : c.Extends c') (h' : c'.Extends c'') : c.Extends c'' :=
  ⟨h.modules.trans h'.modules, h'.sightings.trans h.sightings⟩

/-- An entry of the journal about something else is allowed. -/
theorem extends_record {h : Happening} (hseen : h.seen? = none) (c : Context M) :
    c.Extends (c.record h) :=
  ⟨List.prefix_refl _, by rw [sightings_record]; simp [hseen]⟩

theorem extends_register (m : M) (c : Context M) : c.Extends (c.register m) :=
  ⟨List.prefix_append _ _, rfl⟩

theorem extends_routeHttp (routes : Table Handler) (c : Context M) :
    c.Extends (c.routeHttp routes).1 := by
  rw [routeHttp]
  split <;> exact .of_eq rfl rfl

theorem extends_routeGateway (routes : Table Handler) (c : Context M) :
    c.Extends (c.routeGateway routes).1 := by
  rw [routeGateway]
  split <;> exact .of_eq rfl rfl

theorem extends_setTelemetry (h : Hook) (c : Context M) : c.Extends (c.setTelemetry h) := by
  rw [setTelemetry]
  split <;> exact .of_eq rfl rfl

theorem extends_setReadiness (value : Bool) (c : Context M) : c.Extends (c.setReadiness value) := by
  obtain ⟨metrics, log, output, hset⟩ := c.exists_setReadiness_eq value
  rw [hset]
  exact .of_eq rfl rfl

/-- All that the built-in modules do to a context is allowed. -/
theorem respected_extends : Respected (fun _ => True) (Extends (M := M)) where
  refl := .refl
  trans := .trans
  routeHttp c _ := extends_routeHttp _ c
  routeGateway c _ := extends_routeGateway _ c
  listen _ _ := .of_eq rfl rfl
  setTelemetry := extends_setTelemetry
  startExporter _ _ _ := .of_eq rfl rfl
  note _ c := extends_record rfl c

end Context

/-- Modules that change the context only in ways that are allowed. -/
class Orderly (M : Type) [Bootable M] : Prop where
  operate_extends : ∀ (phase : Phase) (m : M) (c : Context M),
    c.Extends (Bootable.operate phase m c).2.1

/-! ### Built-in modules -/

namespace BuiltInModule

variable {M : Type}

theorem extends_operate (phase : Phase) (m : BuiltInModule) (c : Context M) :
    c.Extends (m.operate phase c).2.1 :=
  respects Context.respected_extends trivial trivial phase m c

instance orderly : Orderly BuiltInModule := ⟨extends_operate⟩

end BuiltInModule

/-! ### Scripted modules -/

namespace Action

/-- One action, by its kind. -/
theorem extends_perform (a : Action) (c : Context RehearsalModule) :
    c.Extends (a.perform c).1 := by
  cases a with
  | routeHttp routes catches =>
    exact respects_addRoutes Context.respected_extends (fun _ => c.extends_routeHttp _)
      (fun _ _ => trivial) catches
  | routeGateway routes catches =>
    exact respects_addRoutes Context.respected_extends (fun _ => c.extends_routeGateway _)
      (fun _ _ => trivial) catches
  | observe name => exact .of_eq rfl rfl
  | start name waits => exact .of_eq rfl rfl
  | hook step name failure =>
    cases step with
    | telemetry => exact c.extends_setTelemetry _
    | auxiliary => exact .of_eq rfl rfl
    | logSink => exact .of_eq rfl rfl
  | register m => exact c.extends_register m
  | ready value => exact c.extends_setReadiness value
  | cancelRoot =>
    refine .trans ?_ (Context.extends_record rfl { c with cancelled := true })
    exact .of_eq rfl rfl
  | store settings => exact .of_eq rfl rfl
  | inspect => exact Context.extends_record rfl c
  | fail e => exact .refl c

theorem extends_performAll (actions : List Action) (c : Context RehearsalModule) :
    c.Extends (performAll c actions).1 :=
  respects_performAll Context.respected_extends (fun a _ => extends_perform a) c

end Action

namespace RehearsalModule

theorem extends_operate (phase : Phase) (m : RehearsalModule) (c : Context RehearsalModule) :
    c.Extends (m.operate phase c).2.1 := by
  cases m with
  | builtIn b => exact b.extends_operate phase c
  | scripted name loadsOnly script =>
    rw [operate]
    split
    · exact .refl c
    · exact .trans (Context.extends_record rfl c) (Action.extends_performAll (script phase) _)

instance orderly : Orderly RehearsalModule := ⟨extends_operate⟩

end RehearsalModule

end ProtocolGateway
