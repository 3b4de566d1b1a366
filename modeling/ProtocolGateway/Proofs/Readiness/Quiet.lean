import ProtocolGateway.Proofs.Startup.Changes

/-!
# Modules that leave the readiness flag alone

Readiness is the business of the process and not of its modules. The built-in modules never set the
flag, and neither does a scripted module without an action for that.

## Main definitions

* `LeavesReadiness`: a kind of modules that leave the flag alone.

## Main results

* `BuiltInModule.leavesReadiness`, `RehearsalModule.leavesReadiness`: such kinds.
-/

namespace ProtocolGateway

/-! ### The flag -/

/-- Draining is final. -/
theorem Readiness.set_draining (value : Bool) : (Readiness.draining.set value).1 = .draining := by
  cases value <;> rfl

theorem Readiness.set_false (r : Readiness) : (r.set false).1 = .draining := by
  cases r <;> rfl

namespace Context

variable {M : Type}

theorem readiness_setReadiness (value : Bool) (c : Context M) :
    (c.setReadiness value).readiness = (c.readiness.set value).1 := by
  obtain ⟨metrics, log, output, hset⟩ := c.exists_setReadiness_eq value
  rw [hset]

end Context

/-- Modules of a kind leave the readiness flag alone, and remain of that kind. -/
structure LeavesReadiness {M : Type} [Bootable M] (Kind : M → Prop) : Prop where
  operate : ∀ (phase : Phase) {m : M} (c : Context M), Kind m →
    Kind (Bootable.operate phase m c).1 ∧
      (Bootable.operate phase m c).2.1.readiness = c.readiness

namespace Context

variable {M : Type}

theorem readiness_routeHttp (routes : Table Handler) (c : Context M) :
    (c.routeHttp routes).1.readiness = c.readiness := by
  rw [routeHttp]
  split <;> rfl

theorem readiness_routeGateway (routes : Table Handler) (c : Context M) :
    (c.routeGateway routes).1.readiness = c.readiness := by
  rw [routeGateway]
  split <;> rfl

theorem readiness_setTelemetry (h : Hook) (c : Context M) :
    (c.setTelemetry h).readiness = c.readiness := by
  rw [setTelemetry]
  split <;> rfl

/-- Nothing that the built-in modules do to a context sets the flag. -/
theorem respected_readiness :
    Respected (fun _ => True) fun c c' : Context M => c'.readiness = c.readiness where
  refl _ := rfl
  trans h h' := h'.trans h
  routeHttp c _ := readiness_routeHttp _ c
  routeGateway c _ := readiness_routeGateway _ c
  listen _ _ := rfl
  setTelemetry := readiness_setTelemetry
  startExporter _ _ _ := rfl
  note _ _ := rfl

end Context

/-! ### Built-in modules -/

theorem BuiltInModule.readiness_operate {M : Type} (phase : Phase) (m : BuiltInModule)
    (c : Context M) : (m.operate phase c).2.1.readiness = c.readiness :=
  respects Context.respected_readiness trivial trivial phase m c

theorem BuiltInModule.leavesReadiness : LeavesReadiness fun _ : BuiltInModule => True :=
  ⟨fun phase m c _ => ⟨trivial, m.readiness_operate phase c⟩⟩

/-! ### Scripted modules -/

namespace Action

/-- No action but one sets the flag. -/
theorem readiness_perform {a : Action} (ha : ∀ value, a ≠ .ready value)
    (c : Context RehearsalModule) : (a.perform c).1.readiness = c.readiness := by
  cases a with
  | routeHttp routes catches =>
    exact respects_addRoutes Context.respected_readiness (fun _ => c.readiness_routeHttp _)
      (fun _ _ => trivial) catches
  | routeGateway routes catches =>
    exact respects_addRoutes Context.respected_readiness (fun _ => c.readiness_routeGateway _)
      (fun _ _ => trivial) catches
  | hook step name failure =>
    cases step with
    | telemetry => exact c.readiness_setTelemetry _
    | auxiliary => rfl
    | logSink => rfl
  | ready value => exact absurd rfl (ha value)
  | observe | start | register | cancelRoot | store | inspect | fail => rfl

theorem readiness_performAll {actions : List Action}
    (h : ∀ a ∈ actions, ∀ value, a ≠ .ready value) (c : Context RehearsalModule) :
    (performAll c actions).1.readiness = c.readiness :=
  respects_performAll Context.respected_readiness (fun a ha => readiness_perform (h a ha)) c

end Action

namespace RehearsalModule

/-- A module without an action that sets the flag. -/
def Quiet : RehearsalModule → Prop
  | .builtIn _ => True
  | .scripted _ _ script => ∀ phase, ∀ a ∈ script phase, ∀ value, a ≠ .ready value

theorem leavesReadiness : LeavesReadiness Quiet := by
  refine ⟨fun phase m c hquiet => ?_⟩
  cases m with
  | builtIn b => exact ⟨trivial, b.readiness_operate phase c⟩
  | scripted name loadsOnly script =>
    have hoperate : Bootable.operate phase (.scripted name loadsOnly script) c =
        (operate phase (.scripted name loadsOnly script) c) := rfl
    rw [hoperate, operate]
    split
    · exact ⟨hquiet, rfl⟩
    · exact ⟨hquiet, Action.readiness_performAll (hquiet phase) _⟩

end RehearsalModule

end ProtocolGateway
