import ProtocolGateway.Startup.Serving

/-!
# Bringing settings to the listeners

New settings become the current ones, and then each listener is told of them, once and in the order
of the list. Apart from the settings themselves, the log filter and what is written down, nothing in
the context changes on that occasion. It is the same with all that is noticed in the directory of
the settings file, unless the watcher crashes; then its task ends, and the file is no longer
watched.

## Main definitions

* `Context.lasting`: the context without all that new settings may change.

## Main results

* `Context.journal_deliver`: each listener is told once.
* `Context.lasting_deliver`: all else outlasts new settings.
* `Gateway.exists_notice_eq`: all else outlasts what is noticed.
-/

namespace ProtocolGateway

/-- What is noted down when settings are brought to listeners that are the current ones already. -/
def deliveries (listeners : List SettingsListener) (s : Settings) : List Happening :=
  listeners.zipIdx.map fun (l, i) => .delivered i l s s

namespace Context

variable {M : Type} {c : Context M} {s told : Settings} {l : SettingsListener} {i : Nat}

/-- All that a listener does: the log filter takes over the settings, and it may log something. -/
theorem exists_tell_eq [Log.Patterns] (told : Settings) (i : Nat) (l : SettingsListener)
    (c : Context M) :
    ∃ log output, c.tell told i l =
      { c with
        subscriber :=
          if l = .logFilter then c.subscriber.map fun s => (s.apply told).1 else c.subscriber
        log, output, journal := c.journal ++ [.delivered i l told c.settings] } := by
  cases l with
  | logFilter =>
    cases hsubscriber : c.subscriber with
    | none =>
      refine ⟨c.log, c.output, ?_⟩
      simp [tell, record, hsubscriber]
    | some s =>
      refine ⟨(c.tell told i .logFilter).log, (c.tell told i .logFilter).output, ?_⟩
      simp [tell, record, logs, hsubscriber]
  | announcement => exact ⟨_, _, rfl⟩
  | observer name => exact ⟨_, _, rfl⟩

theorem settings_tell [Log.Patterns] : (c.tell told i l).settings = c.settings := by
  obtain ⟨log, output, htell⟩ := exists_tell_eq told i l c
  rw [htell]

theorem journal_tell [Log.Patterns] :
    (c.tell told i l).journal = c.journal ++ [.delivered i l told c.settings] := by
  obtain ⟨log, output, htell⟩ := exists_tell_eq told i l c
  rw [htell]

theorem subscriber_tell [Log.Patterns] :
    (c.tell told i l).subscriber =
      if l = .logFilter then c.subscriber.map fun s => (s.apply told).1 else c.subscriber := by
  obtain ⟨log, output, htell⟩ := exists_tell_eq told i l c
  rw [htell]

/-- The listeners are told one after another; the settings stay the current ones. -/
theorem journal_foldl_tell [Log.Patterns] (told : List (SettingsListener × Nat)) (c : Context M) :
    (told.foldl (fun c (l, i) => c.tell s i l) c).settings = c.settings ∧
    (told.foldl (fun c (l, i) => c.tell s i l) c).journal =
      c.journal ++ told.map fun (l, i) => .delivered i l s c.settings := by
  induction told generalizing c with
  | nil => exact ⟨rfl, (List.append_nil _).symm⟩
  | cons first rest ih =>
    obtain ⟨hsettings, hjournal⟩ := ih (c.tell s first.2 first.1)
    refine ⟨hsettings.trans settings_tell, ?_⟩
    rw [List.foldl_cons, hjournal, journal_tell, settings_tell, List.append_assoc, List.map_cons]
    rfl

theorem settings_deliver [Log.Patterns] (listeners : List SettingsListener) :
    (c.deliver listeners s).settings = s :=
  (journal_foldl_tell listeners.zipIdx { c with settings := s }).1

/-- **Each listener is told once**, in the order of the list, of the settings that are current. -/
theorem journal_deliver [Log.Patterns] (listeners : List SettingsListener) :
    (c.deliver listeners s).journal = c.journal ++ deliveries listeners s :=
  (journal_foldl_tell listeners.zipIdx { c with settings := s }).2

/-- The context without all that may change with the settings file: the settings, the log filter,
the tasks, and what is written down. -/
def lasting (c : Context M) : Context M :=
  { c with settings := {}, subscriber := none, tasks := [], log := [], output := [], journal := [] }

theorem lasting_tell [Log.Patterns] : (c.tell told i l).lasting = c.lasting := by
  obtain ⟨log, output, htell⟩ := exists_tell_eq told i l c
  rw [htell, lasting, lasting]

theorem lasting_foldl {α : Type} {f : Context M → α → Context M}
    (h : ∀ c a, (f c a).lasting = c.lasting) (l : List α) (c : Context M) :
    (l.foldl f c).lasting = c.lasting := by
  induction l generalizing c with
  | nil => rfl
  | cons a rest ih => rw [List.foldl_cons, ih, h]

/-- **All else outlasts new settings.** -/
theorem lasting_deliver [Log.Patterns] (listeners : List SettingsListener) (s : Settings)
    (c : Context M) :
    (c.deliver listeners s).lasting = c.lasting :=
  lasting_foldl (fun _ (_, _) => lasting_tell) listeners.zipIdx { c with settings := s }

theorem cancelled_of_lasting {c' : Context M} (h : c'.lasting = c.lasting) :
    c'.cancelled = c.cancelled := by
  have hcancelled := congrArg Context.cancelled h
  exact hcancelled

theorem cancelled_deliver [Log.Patterns] (listeners : List SettingsListener) :
    (c.deliver listeners s).cancelled = c.cancelled :=
  cancelled_of_lasting (lasting_deliver listeners s c)

/-- Writing to the log changes nothing but the log. -/
theorem foldl_logs_eq (events : List Log.Event) (c : Context M) :
    let c' := events.foldl (fun c e => c.logs e) c
    c' = { c with log := c'.log, output := c'.output } := by
  induction events generalizing c with
  | nil => rfl
  | cons e rest ih => exact ih (c.logs e)

end Context

namespace Gateway

variable {M : Type}

/-- What is noticed concerns the context and the watch only, and there nothing that lasts. -/
theorem exists_notice_eq [Log.Patterns] (e : FileEvent) (g : Gateway M) :
    ∃ c watch, g.notice e = { g with context := c, watch } ∧
      c.lasting = g.context.lasting := by
  rw [notice]
  split
  · exact ⟨g.context, g.watch, rfl, rfl⟩
  · next w _ =>
    split
    · exact ⟨g.context, g.watch, rfl, rfl⟩
    · have hnoticed := Context.lasting_foldl (f := fun c event => c.logs event) (fun _ _ => rfl)
        (w.file.notices e) g.context
      dsimp only
      split
      · exact ⟨_, none, rfl, hnoticed⟩
      · split
        · exact ⟨_, g.watch, rfl, hnoticed⟩
        · exact ⟨_, g.watch, rfl, (Context.lasting_deliver _ _ _).trans hnoticed⟩

end Gateway

end ProtocolGateway
