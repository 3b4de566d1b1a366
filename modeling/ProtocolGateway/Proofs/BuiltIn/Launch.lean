import ProtocolGateway.CommandLine.Run
import ProtocolGateway.Proofs.BuiltIn.Bootstrap
import ProtocolGateway.Proofs.Startup.Launched

/-!
# Launching with the built-in modules

Settings that were accepted do not make a launch with the built-in modules fail, except for what is
not looked at when settings are accepted: whether the path of the health checks is a pattern,
whether the prefix is the beginning of one, and whether there can be so many slots for connections.
Where one of these is wrong the process crashes. What else makes a launch fail lies with the host,
which may refuse an address, and with whoever records metrics already.

## Main definitions

* `Settings.Mountable`: nothing is wrong with these three.
* `Settings.ListenerFault`: why the socket for connections cannot be opened.

## Main results

* `Stacks.build?_builtInTable`: the stacks of the built-in modules.
* `Context.launch_cases`: what a launch with accepted settings comes to.
* `launch_of_accepted`: the same for a process and for a server that reads them from a file.
* `launch_fails_accepted`: accepted settings with which it fails all the same.
-/

namespace ProtocolGateway

/-- The paths of settings can be made into patterns, and there can be so many slots. -/
structure Settings.Mountable (s : Settings) : Prop where
  health : (Pattern.parse? s.health.path.toList).isSome
  slots : s.listener.maxConnections ≤ maxSlots
  pathLike : Pattern.isPathLike s.gateway.trimmedPrefix = true

/-- Why the socket for connections cannot be opened: the host refuses its address. -/
def Settings.ListenerFault (s : Settings) (host : Host) (cause : BindError) : Prop :=
  ∃ address, SocketAddress.parse? s.listener.bindAddress = some address ∧
    host.bind address = .error cause

namespace Host

variable {host : Host} {text : String} {address : SocketAddress} {slots : Nat}

/-- An address that is one is not listened at only if the host refuses it. -/
theorem openSlots_eq_listen (h : SocketAddress.parse? text = some address) {e : ListenError}
    (hopen : host.openSlots text slots = .error (.listen e)) :
    ∃ cause, host.bind address = .error cause ∧ e = ⟨text, cause⟩ := by
  rw [openSlots, listen, h] at hopen
  cases hbind : host.bind address with
  | error cause =>
    simp only [hbind] at hopen
    cases hopen
    exact ⟨cause, rfl, rfl⟩
  | ok bound =>
    simp only [hbind] at hopen
    split at hopen <;> cases hopen

theorem openSlots_eq_slots (hopen : host.openSlots text slots = .error .slots) :
    maxSlots < slots := by
  rw [openSlots] at hopen
  split at hopen
  · cases hopen
  · split at hopen
    · next hslots => exact hslots
    · cases hopen

theorem openSlots_eq_ok (hopen : host.openSlots text slots = .ok address) : slots ≤ maxSlots := by
  rw [openSlots] at hopen
  split at hopen
  · cases hopen
  · split at hopen
    · cases hopen
    · next hslots => exact Nat.le_of_not_lt hslots

end Host

namespace Stacks

variable {s : Settings} {gateway : Table Handler}

/-- **The stacks of the built-in modules.** -/
theorem build?_builtInTable (f : ForwardPatterns s.gateway.trimmedPrefix)
    (hplain : IsPlain s.gateway.trimmedPrefix) {health : Pattern}
    (hhealth : pathBelow? s.gateway.trimmedPrefix health.text = none)
    (hinfo : health.text ≠ infoPath) :
    build? s (builtInTable health) gateway = some
      { front := frontTable health f, back := gateway, reserved := s.gateway.trimmedPrefix
        requestMs := s.timeouts.requestMs, maxBodyBytes := s.limits.maxBodyBytes } := by
  have hbuild : build? s (builtInTable health) gateway =
      (Table.ofEntries? (reservedEntries s.gateway.trimmedPrefix)).bind fun forwarding =>
        (((builtInTable health).map .handler).merge forwarding).toOption.bind fun front => some
          { front, back := gateway, reserved := s.gateway.trimmedPrefix
            requestMs := s.timeouts.requestMs, maxBodyBytes := s.limits.maxBodyBytes } := rfl
  rw [hbuild, f.ofEntries?_eq hplain, Option.bind_some, merge_builtInTable hplain f hhealth hinfo]
  rfl

/-- Stacks can only be built if the prefix has the shape of a path. -/
theorem isPathLike_of_build? {http : Table Handler} {g : Stacks}
    (h : build? s http gateway = some g) : Pattern.isPathLike s.gateway.trimmedPrefix = true := by
  obtain ⟨forwarding, hforwarding, -⟩ := build?_eq_some h
  obtain ⟨p, -, -, htext, -⟩ := Table.exists_patterns_of_reserved hforwarding
  have hpath := p.isPathLike_text
  rwa [htext, show "".toList = [] from rfl, List.append_nil] at hpath

end Stacks

namespace Context

variable {c : Context BuiltInModule} {s : Settings} {host : Host}

/-- What the attempt to serve comes to once the built-in modules have been brought up. -/
theorem serve_cases [Log.Patterns] {health : Pattern}
    (h : c.Holds s host (builtInTable health) gatewayInfoTable)
    (htext : health.text = s.health.path.toList) (hvalid : s.Valid) :
    (∃ g, c.serve.2 = .ok g ∧ s.Mountable) ∨
    (∃ cause, s.ListenerFault host cause ∧
      c.serve.2 = .error (.listen ⟨s.listener.bindAddress, cause⟩)) ∨
    (c.serve.2 = .error .crashed ∧ (s.Mountable → ¬IsPlain s.gateway.trimmedPrefix)) := by
  rcases hserve : c.serve with ⟨left, result⟩
  cases result with
  | ok g =>
    obtain ⟨hopen, hbuild, -⟩ := serve_eq_ok hserve
    rw [h.settings] at hopen hbuild
    have hhealth : (Pattern.parse? s.health.path.toList).isSome := by
      rw [← htext, health.parse?_text]
      rfl
    exact .inl ⟨g, rfl, hhealth, Host.openSlots_eq_ok hopen, Stacks.isPathLike_of_build? hbuild⟩
  | error e =>
    obtain ⟨-, herror⟩ := serve_eq_error hserve
    rw [h.settings, h.host, h.http, h.gateway] at herror
    rcases herror with ⟨cause, hopen, rfl⟩ | ⟨hopen, rfl⟩ | ⟨-, hbuild, rfl⟩
    · obtain ⟨address, haddress⟩ := Settings.exists_address_of_valid hvalid
      obtain ⟨why, hrefused, rfl⟩ := Host.openSlots_eq_listen haddress hopen
      exact .inr (.inl ⟨why, ⟨address, haddress, hrefused⟩, rfl⟩)
    · refine .inr (.inr ⟨rfl, fun hmount => ?_⟩)
      exact absurd hmount.slots (Nat.not_le.2 (Host.openSlots_eq_slots hopen))
    -- With a plain prefix the routes go together, so only braces are left as the reason.
    · refine .inr (.inr ⟨rfl, fun hmount hplain => ?_⟩)
      obtain ⟨f⟩ := ForwardPatterns.exists_of_isPathLike hplain hmount.pathLike
      rw [Stacks.build?_builtInTable f hplain (htext ▸ Settings.pathBelow?_healthPath hvalid)
        (htext ▸ Settings.healthPath_ne_infoPath hvalid)] at hbuild
      cases hbuild

/-- **What a launch with accepted settings comes to.** -/
theorem launch_cases [Log.Patterns] (hmodules : c.modules = BuiltInModule.registered)
    (h : c.Holds s host {} {})
    (hvalid : s.Valid) :
    (∃ g, c.launch.2 = .ok g ∧ s.Mountable) ∨
    (∃ cause, ExporterFault s host c.recording cause ∧
      c.launch.2 = .error (.bootstrap (exporterError cause))) ∨
    (∃ cause, s.ListenerFault (s.exporterHost host) cause ∧
      c.launch.2 = .error (.listen ⟨s.listener.bindAddress, cause⟩)) ∨
    (c.launch.2 = .error .crashed ∧ (s.Mountable → ¬IsPlain s.gateway.trimmedPrefix)) := by
  rcases bootstrap_registered hmodules h hvalid with
    ⟨cause, hcause, hhalted⟩ | ⟨hpath, hcrashed⟩ | ⟨health, htext, hdone, hholds⟩
  · exact .inr (.inl ⟨cause, hcause, congrArg Prod.snd (launch_of_halted hhalted)⟩)
  · refine .inr (.inr (.inr ⟨congrArg Prod.snd (launch_of_halted hcrashed), fun hmount => ?_⟩))
    have hhealth := hmount.health
    rw [hpath] at hhealth
    exact absurd hhealth Bool.false_ne_true
  · rw [launch_of_completed hdone]
    rcases serve_cases hholds htext hvalid with hserves | hrefused | hcrashed
    · exact .inl hserves
    · exact .inr (.inr (.inl hrefused))
    · exact .inr (.inr (.inr hcrashed))

end Context

/-! ### The commands -/

namespace Settings

theorem valid_of_load [Log.Patterns] {content : FileContent} {s : Settings}
    (h : load content = .ok s) :
    s.Valid := by
  cases content with
  | unreadable cause => cases h
  | file bytes =>
    rw [load] at h
    split at h
    · cases h
    · rw [parse] at h
      split at h
      · cases h
      · split at h
        · cases h
        · next s' _ =>
          rw [validated] at h
          split at h
          · next hempty =>
            cases h
            exact List.isEmpty_iff.1 hempty
          · cases h

end Settings

namespace Command

/-- What was logged before a launch does not matter for it. -/
theorem holds_foldl_logs {s : Settings} {host : Host} (events : List Log.Event)
    {c : Context BuiltInModule} (hmodules : c.modules = BuiltInModule.registered)
    (h : c.Holds s host {} {}) :
    (events.foldl (fun c e => c.logs e) c).modules = BuiltInModule.registered ∧
      (events.foldl (fun c e => c.logs e) c).Holds s host {} {} := by
  induction events generalizing c with
  | nil => exact ⟨hmodules, h⟩
  | cons e events ih => exact ih hmodules (h.logs e)

/-- **A server does not crash** with accepted settings that can be mounted below a plain prefix. -/
theorem serve_code_ne_crash [Log.Patterns] {around : Surroundings} {path : String} {s : Settings}
    {subscriber : Log.Subscriber} (hvalid : s.Valid) (hmount : s.Mountable)
    (hplain : IsPlain s.gateway.trimmedPrefix) :
    (serve around path s subscriber).code ≠ Exit.crash := by
  obtain ⟨hmodules, hholds⟩ := holds_foldl_logs (startingEvent path s :: shippingEvents s)
    (c := serverContext around path s subscriber) rfl ⟨rfl, rfl, rfl, rfl⟩
  have hcases := Context.launch_cases hmodules hholds hvalid
  simp only [serve]
  split
  · next left hlaunch =>
    rw [hlaunch] at hcases
    rcases hcases with ⟨g, h, -⟩ | ⟨cause, -, h⟩ | ⟨cause, -, h⟩ | ⟨-, h⟩
    · cases h
    · cases h
    · cases h
    · exact absurd hplain (h hmount)
  · show Exit.failure ≠ Exit.crash
    decide
  · show Exit.success ≠ Exit.crash
    decide

/-- Neither does the command that reads them from a file, if there can be the queue for its log
lines and the log filter of the environment can be read. -/
theorem run_server_code_ne_crash [Log.Patterns] {around : Surroundings} {path : String}
    {s : Settings} (hload : Settings.load (around.read path) = .ok s) (hmount : s.Mountable)
    (hplain : IsPlain s.gateway.trimmedPrefix)
    (hqueue : s.logShipping.enabled = true → s.logShipping.queueFits = true)
    (hfilter : Log.Subscriber.ofSettings around.environment s ≠ .error .crashed) :
    ((Command.server path).run around).code ≠ Exit.crash := by
  have hlacks : lacksQueue around path = false := by
    have hneeds : (s.logShipping.enabled && !s.logShipping.queueFits) = false := by
      cases henabled : s.logShipping.enabled with
      | false => rfl
      | true => rw [hqueue henabled]; rfl
    rw [lacksQueue, hload]
    exact hneeds
  rw [run, hlacks, if_neg Bool.false_ne_true, runServer, hload]
  dsimp only
  split
  · next hcrashed => exact absurd hcrashed hfilter
  · show Exit.failure ≠ Exit.crash
    decide
  · exact serve_code_ne_crash (Settings.valid_of_load hload) hmount hplain

end Command

/-! ### What accepted settings guarantee -/

/-- The context of a process with the built-in modules and nothing else. -/
def builtInContext (s : Settings) : Context BuiltInModule :=
  { settings := s, modules := BuiltInModule.registered }

/-- **Launching with accepted settings.** A launch of the built-in modules succeeds, or fails since
there is another recorder of metrics or the host refuses an address, that of the exporter or that of
the connections, or crashes. It succeeds only if the paths of the settings can be made into patterns
and there can be so many slots, and then it crashes only if there are braces in the prefix. So a
server whose settings are accepted does not crash either, as long as it is not for one of these, for
the queue of its log lines or for the log filter of its environment. -/
theorem launch_of_accepted [Log.Patterns] {c : Context BuiltInModule}
    (hmodules : c.modules = BuiltInModule.registered) (hhttp : c.http = {})
    (hgateway : c.gateway = {}) (hvalid : c.settings.Valid) :
    ((∃ g, c.launch.2 = .ok g ∧ c.settings.Mountable) ∨
      (∃ cause, ExporterFault c.settings c.host c.recording cause ∧
        c.launch.2 = .error (.bootstrap (exporterError cause))) ∨
      (∃ cause, c.settings.ListenerFault (c.settings.exporterHost c.host) cause ∧
        c.launch.2 = .error (.listen ⟨c.settings.listener.bindAddress, cause⟩)) ∨
      (c.launch.2 = .error .crashed ∧
        (c.settings.Mountable → ¬IsPlain c.settings.gateway.trimmedPrefix))) ∧
    ∀ (around : Surroundings) (path : String) (s : Settings),
      Settings.load (around.read path) = .ok s → s.Mountable →
      IsPlain s.gateway.trimmedPrefix →
      (s.logShipping.enabled = true → s.logShipping.queueFits = true) →
      Log.Subscriber.ofSettings around.environment s ≠ .error .crashed →
      ((Command.server path).run around).code ≠ Exit.crash :=
  ⟨Context.launch_cases hmodules ⟨rfl, rfl, hhttp, hgateway⟩ hvalid,
    fun _ _ _ => Command.run_server_code_ne_crash⟩

/-- The settings that hold where nothing is chosen are accepted, and a process comes up with them on
a host that refuses nothing; no exporter is wanted. -/
theorem launch_of_accepted_default :
    ({} : Settings).Valid ∧
      ∃ g, (builtInContext {}).launch.2 = .ok g ∧ ({} : Settings).Mountable := by
  have hvalid : ({} : Settings).Valid := by decide +kernel
  refine ⟨hvalid, ?_⟩
  rcases (launch_of_accepted (c := builtInContext {}) rfl rfl rfl hvalid).1 with
    h | ⟨cause, hfault, -⟩ | ⟨cause, ⟨address, haddress, hrefused⟩, -⟩ | ⟨hcrashed, -⟩
  · exact h
  · cases hfault with
    | socket henabled => cases henabled
    | recorder henabled => cases henabled
  · obtain rfl : ⟨.v4 0 0 0 0, 8080⟩ = address := Option.some.inj haddress
    cases hrefused
  · obtain ⟨g, hg⟩ : ∃ g, (builtInContext {}).launch.2 = .ok g := ⟨_, rfl⟩
    rw [hcrashed] at hg
    cases hg

/-- Accepted settings that crash the process: a path of the health checks that is no pattern, a
prefix with a segment that starts with a colon, more slots than there can be, and two patterns that
clash. A file with the first of them is checked with success and crashes the server. -/
theorem launch_fails_accepted :
    (∀ s ∈ ([{ health := ⟨"/\x7b"⟩ }, { gateway := ⟨"/:x"⟩ },
        { listener := { maxConnections := maxSlots + 1 } },
        { gateway := ⟨"/\x7bx\x7d"⟩, health := ⟨"/\x7by\x7d"⟩ }] : List Settings),
      s.Valid ∧ (builtInContext s).launch.2 = .error .crashed) ∧
    ∃ around : Surroundings,
      (Command.runCheck "config.toml" (around.read "config.toml")).code = Exit.success ∧
      (Command.runServer around "config.toml").code = Exit.crash := by
  refine ⟨fun s hs => ?_, ?_⟩
  · simp only [List.mem_cons, List.not_mem_nil, or_false] at hs
    rcases hs with rfl | rfl | rfl | rfl
    · exact ⟨by decide +kernel, rfl⟩
    · exact ⟨by decide +kernel, rfl⟩
    · exact ⟨by decide +kernel, rfl⟩
    · exact ⟨by decide +kernel, rfl⟩
  · let around : Surroundings :=
      { read := fun _ => .file (bytesOf "[health]\npath = \"/\x7b\"") }
    exact ⟨around, by decide +kernel, by decide +kernel⟩

end ProtocolGateway
