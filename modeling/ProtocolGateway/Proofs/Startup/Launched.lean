import ProtocolGateway.Proofs.Startup.Changes
import ProtocolGateway.Startup.Launch

/-!
# What a launch can come to

A launch is a bootstrap and then the attempt to serve, which needs a listening socket and two
stacks. Here are the ways in which each can go out, with what is known in each of them.

## Main results

* `Context.launch_eq`: a launch by the end of its bootstrap.
* `Context.serve_eq_ok`, `Context.serve_eq_error`: the attempt to serve, when it succeeds and when
  it fails.
* `Context.exists_ready_eq`: what changes in the context when a process begins to serve.
* `Context.serve_fixes`: what is fixed when it succeeds.
-/

namespace ProtocolGateway

/-- The error of a launch whose bootstrap was ended. -/
def Halt.launchError : Halt → LaunchError
  | .failed e => .bootstrap e
  | .crashed => .crashed

namespace Context

variable {M : Type} {c left : Context M} {g : Gateway M} {e : LaunchError}

/-- The context with which a process begins to serve at an address. -/
def ready (address : SocketAddress) (serving : Stacks) (c : Context M) : Context M :=
  ((({ c with http := {}, gateway := {}, host := c.host.hold address }.watch.1).logs
    (c.listeningEvent serving)).setReadiness true).logUnwatched

theorem exists_watch_eq (c : Context M) :
    ∃ tasks, c.watch.1 = { c with listeners := [], tasks } := by
  rw [watch]
  cases c.watched with
  | none => exact ⟨_, rfl⟩
  | some file => exact ⟨_, rfl⟩

theorem exists_logUnwatched_eq (c : Context M) :
    ∃ log output, c.logUnwatched = { c with log, output } := by
  rw [logUnwatched]
  split
  · exact ⟨_, _, rfl⟩
  · split <;> exact ⟨_, _, rfl⟩

/-- What changes in a context when a process begins to serve. -/
theorem exists_ready_eq (address : SocketAddress) (serving : Stacks) (c : Context M) :
    ∃ tasks metrics log output, c.ready address serving =
      { c with
        listeners := [], http := {}, gateway := {}, host := c.host.hold address
        readiness := (c.readiness.set true).1, tasks, metrics, log, output } := by
  let emptied := { c with http := {}, gateway := {}, host := c.host.hold address }
  let listening := emptied.watch.1.logs (c.listeningEvent serving)
  obtain ⟨tasks, hwatch⟩ := emptied.exists_watch_eq
  obtain ⟨metrics, _, _, hset⟩ := listening.exists_setReadiness_eq true
  obtain ⟨log, output, hlog⟩ := (listening.setReadiness true).exists_logUnwatched_eq
  refine ⟨tasks, metrics, log, output, ?_⟩
  have hready : c.ready address serving = (listening.setReadiness true).logUnwatched := rfl
  have hlistening : listening =
      { emptied with listeners := [], tasks }.logs (c.listeningEvent serving) :=
    congrArg (logs _) hwatch
  rw [hready, hlog, hset, hlistening]
  rfl
/-- A process serves if the socket can be opened and the stacks go together. -/
theorem serve_eq_ok (h : c.serve = (left, .ok g)) :
    c.host.openSlots c.settings.listener.bindAddress c.settings.listener.maxConnections =
      .ok g.address ∧
    Stacks.build? c.settings c.http c.gateway = some g.serving ∧
    left = c.ready g.address g.serving ∧ g.context = left := by
  rw [serve] at h
  split at h
  · cases h
  · cases h
  · next address hopen =>
    split at h
    · cases h
    · next serving hserving =>
      cases h
      exact ⟨hopen, hserving, rfl, rfl⟩

/-- What is fixed when a process begins to serve: all of it is taken from the settings and the
routes of that moment. -/
theorem serve_fixes (h : c.serve = (left, .ok g)) :
    g.demultiplexer = .ofSettings c.settings.listener ∧
    g.peekTimeoutMs = c.settings.listener.peekTimeoutMs ∧
    g.traffic = .ofSlots c.settings.listener.maxConnections (Matcher.registered.map (·.name)) ∧
    g.watch = c.watched.map (⟨·, c.listeners⟩) ∧
    g.shutdownMs = c.settings.timeouts.shutdownMs := by
  rw [serve] at h
  split at h
  · cases h
  · cases h
  · split at h
    · cases h
    · cases h
      refine ⟨rfl, rfl, rfl, ?_, rfl⟩
      cases c.watched <;> rfl

/-- Otherwise the context is left as it was, and the error tells which of the two did not work. -/
theorem serve_eq_error (h : c.serve = (left, .error e)) :
    left = c ∧
    ((∃ cause, c.host.openSlots c.settings.listener.bindAddress
        c.settings.listener.maxConnections = .error (.listen cause) ∧ e = .listen cause) ∨
      (c.host.openSlots c.settings.listener.bindAddress c.settings.listener.maxConnections =
        .error .slots ∧ e = .crashed) ∨
      ((∃ address, c.host.openSlots c.settings.listener.bindAddress
        c.settings.listener.maxConnections = .ok address) ∧
        Stacks.build? c.settings c.http c.gateway = none ∧ e = .crashed)) := by
  rw [serve] at h
  split at h
  · next cause hopen =>
    cases h
    exact ⟨rfl, .inl ⟨cause, hopen, rfl⟩⟩
  · next hopen =>
    cases h
    exact ⟨rfl, .inr (.inl ⟨hopen, rfl⟩)⟩
  · next address hopen =>
    split at h
    · next hserving =>
      cases h
      exact ⟨rfl, .inr (.inr ⟨⟨address, hopen⟩, hserving, rfl⟩)⟩
    · cases h

/-- A socket that cannot be opened makes serving fail. -/
theorem exists_serve_eq_error {cause : OpenError}
    (h : c.host.openSlots c.settings.listener.bindAddress c.settings.listener.maxConnections =
      .error cause) : ∃ e, c.serve = (c, .error e) := by
  rw [serve, h]
  cases cause with
  | listen e => exact ⟨.listen e, rfl⟩
  | slots => exact ⟨.crashed, rfl⟩

section launch

variable [Bootable M]

/-- A launch serves if the bootstrap was not ended before its time, and fails otherwise. -/
theorem launch_eq (c : Context M) :
    c.launch = match c.bootstrap.2 with
      | some halt => (c.bootstrap.1, .error halt.launchError)
      | none => c.bootstrap.1.serve := by
  rw [launch]
  rcases c.bootstrap with ⟨left, halt⟩
  cases halt with
  | none => rfl
  | some halt => cases halt <;> rfl

theorem launch_of_halted {halt : Halt} (h : c.bootstrap.2 = some halt) :
    c.launch = (c.bootstrap.1, .error halt.launchError) := by
  rw [launch_eq, h]

theorem launch_of_completed (h : c.bootstrap.2 = none) : c.launch = c.bootstrap.1.serve := by
  rw [launch_eq, h]

/-- A process that was launched has been brought up, and serves. -/
theorem launch_eq_ok (h : c.launch = (left, .ok g)) :
    c.bootstrap.2 = none ∧ c.bootstrap.1.serve = (left, .ok g) := by
  cases hhalt : c.bootstrap.2 with
  | none => exact ⟨rfl, (launch_of_completed hhalt).symm.trans h⟩
  | some halt =>
    rw [launch_of_halted hhalt] at h
    cases h

/-- A launch that fails leaves the context as the bootstrap left it. -/
theorem launch_eq_error (h : c.launch = (left, .error e)) : left = c.bootstrap.1 := by
  cases hhalt : c.bootstrap.2 with
  | none =>
    rw [launch_of_completed hhalt] at h
    exact (serve_eq_error h).1
  | some halt =>
    rw [launch_of_halted hhalt] at h
    cases h
    rfl

end launch

end Context

end ProtocolGateway
