import ProtocolGateway.Proofs.BuiltIn.Launch
import ProtocolGateway.Proofs.Log.LevelText
import ProtocolGateway.Proofs.Reload.Delivery
import ProtocolGateway.Rehearsal.Script

/-!
# The last settings that could be loaded

The current settings of a process that serves are those that its settings file held when it could
last be loaded, and so they are always accepted ones. Every file that can be loaded is brought to
all listeners, once and in their order, when its settings are the current ones already. Whatever
else is noticed in the directory of the file is written down at most. Only a file that crashes the
reader of log levels ends all that, since it takes the watcher with it.

The log filter is the one that a process would have if it were started with the current settings:
from the environment if that has one, and from the level of the settings otherwise, which is never
refused.

## Main definitions

* `Gateway.loads`: the settings that a process loads in the course of occurrences.
* `Context.Unmoved`: neither the settings nor anything that depends on them has changed.

## Main results

* `Gateway.notice_of_accepts`, `Gateway.notice_keeps`: what an event comes to.
* `Context.exists_subscriber_deliver`: the log filter follows the settings.
* `Context.reload_tracks`: the whole of it, for a launched process.
-/

namespace ProtocolGateway

/-! ### The log filter -/

namespace Settings

/-- The level of accepted settings is one for which there is a filter. -/
theorem exists_filterOf [Log.Patterns] {s : Settings} (h : s.Valid) :
    ∃ filter, Log.Subscriber.filterOf s.effectiveLogLevel = .ok filter := by
  have hlevel : levelFault? s.effectiveLogLevel = none := by
    rw [effectiveLogLevel]
    cases s.mode with
    | debug => exact Log.levelFault?_of_level "debug" .debug rfl
    | release => exact fault?_of_valid h .logLevel
  exact Log.levelFault?_eq_none_iff_exists.1 hlevel

end Settings

namespace Log.Subscriber

variable {environment : Option String} {s t : Settings} {subscriber : Subscriber}

theorem exists_filterOf_of_map [Patterns]
    (h : (filterOf s.effectiveLogLevel).map (⟨·, false⟩) = .ok subscriber) :
    ∃ filter, filterOf s.effectiveLogLevel = .ok filter ∧
      (⟨filter, false⟩ : Subscriber) = subscriber := by
  cases hfilter : filterOf s.effectiveLogLevel with
  | error e => rw [hfilter] at h; cases h
  | ok filter => rw [hfilter] at h; exact ⟨filter, rfl, Except.ok.inj h⟩

/-- Without a filter in the environment, and without a text there that cannot be read, there is the
filter of the settings. -/
theorem ofSettings_of_unusable [Patterns]
    (hok : ∀ filter, (environment.map fun text => Filter.parse text.toList) ≠ some (.ok filter))
    (hread : (environment.map fun text => Filter.parse text.toList) ≠ some (.error .crashed))
    (s : Settings) :
    ofSettings environment s = (filterOf s.effectiveLogLevel).map (⟨·, false⟩) := by
  rw [ofSettings]
  split
  · next filter h => exact absurd h (hok filter)
  · next h => exact absurd h hread
  · rfl

/-- The subscriber has the filter of the environment, or that of the settings. -/
theorem ofSettings_eq_ok [Patterns] (h : ofSettings environment s = .ok subscriber) :
    match environment.bind fun text => (Filter.parse text.toList).toOption with
    | some filter => subscriber = ⟨filter, true⟩
    | none => ∃ filter, filterOf s.effectiveLogLevel = .ok filter ∧
        (⟨filter, false⟩ : Subscriber) = subscriber := by
  cases environment with
  | none => exact exists_filterOf_of_map h
  | some text =>
    rw [ofSettings, Option.map_some] at h
    rw [Option.bind_some]
    cases hread : Filter.parse text.toList with
    | ok filter =>
      rw [hread] at h
      exact (Except.ok.inj h).symm
    | error e =>
      rw [hread] at h
      cases e with
      | crashed => cases h
      | malformed | level | field => exact exists_filterOf_of_map h

/-- **Taking over settings** makes the subscriber the one that a process with these settings would
have. -/
theorem ofSettings_apply [Patterns] (h : ofSettings environment s = .ok subscriber) (ht : t.Valid) :
    ofSettings environment t = .ok (subscriber.apply t).1 := by
  obtain ⟨filter, hfilter⟩ := Settings.exists_filterOf ht
  rw [ofSettings] at h
  split at h
  · next fromEnvironment henvironment =>
    cases h
    rw [ofSettings, henvironment]
    rfl
  · cases h
  · next hok hread =>
    obtain ⟨old, -, rfl⟩ := exists_filterOf_of_map h
    rw [ofSettings_of_unusable hok hread, hfilter]
    simp [apply, hfilter, Except.map]

end Log.Subscriber

/-! ### The filter among the listeners -/

namespace Context

variable {M : Type} {c : Context M} {s : Settings}
variable {environment : Option String} {subscriber : Log.Subscriber}

theorem exists_subscriber_foldl [Log.Patterns] (hs : s.Valid) (told : List (SettingsListener × Nat))
    {before : Settings} (hsubscriber : c.subscriber = some subscriber)
    (h : Log.Subscriber.ofSettings environment before = .ok subscriber) :
    ∃ after, (told.foldl (fun c (l, i) => c.tell s i l) c).subscriber = some after ∧
      Log.Subscriber.ofSettings environment
        (if .logFilter ∈ told.map Prod.fst then s else before) = .ok after := by
  induction told generalizing c subscriber before with
  | nil => exact ⟨subscriber, hsubscriber, h⟩
  | cons first rest ih =>
    obtain ⟨l, i⟩ := first
    by_cases hl : l = .logFilter
    · subst hl
      have htold : (c.tell s i .logFilter).subscriber = some (subscriber.apply s).1 := by
        rw [subscriber_tell, if_pos rfl, hsubscriber]
        rfl
      obtain ⟨after, hafter, hfilter⟩ := ih htold (Log.Subscriber.ofSettings_apply h hs)
      rw [ite_self] at hfilter
      exact ⟨after, hafter, by rwa [if_pos (by simp)]⟩
    · have hkept : (c.tell s i l).subscriber = c.subscriber := by rw [subscriber_tell, if_neg hl]
      obtain ⟨after, hafter, hfilter⟩ := ih (hkept.trans hsubscriber) h
      refine ⟨after, hafter, ?_⟩
      have hmem : .logFilter ∈ ((l, i) :: rest).map Prod.fst ↔
          .logFilter ∈ rest.map Prod.fst := by
        simp [Ne.symm hl]
      simpa only [hmem] using hfilter

/-- **The log filter follows the settings** if it is among the listeners. -/
theorem exists_subscriber_deliver [Log.Patterns] (hs : s.Valid) (listeners : List SettingsListener)
    {before : Settings} (hsubscriber : c.subscriber = some subscriber)
    (h : Log.Subscriber.ofSettings environment before = .ok subscriber) :
    ∃ after, (c.deliver listeners s).subscriber = some after ∧
      Log.Subscriber.ofSettings environment
        (if .logFilter ∈ listeners then s else before) = .ok after := by
  have htold := exists_subscriber_foldl (c := { c with settings := s }) hs listeners.zipIdx
    hsubscriber h
  rwa [List.zipIdx_map_fst] at htold

/-! ### What else is noticed -/

/-- Neither the settings nor anything that depends on them has changed, nor is anything noted down
or cancelled. -/
structure Unmoved (c c' : Context M) : Prop where
  settings : c'.settings = c.settings
  subscriber : c'.subscriber = c.subscriber
  journal : c'.journal = c.journal
  cancelled : c'.cancelled = c.cancelled

theorem unmoved_setReadiness (value : Bool) (c : Context M) : c.Unmoved (c.setReadiness value) := by
  obtain ⟨metrics, log, output, hset⟩ := c.exists_setReadiness_eq value
  rw [hset]
  exact ⟨rfl, rfl, rfl, rfl⟩

/-- Beginning to serve changes none of it. -/
theorem unmoved_ready (address : SocketAddress) (serving : Stacks) (c : Context M) :
    c.Unmoved (c.ready address serving) := by
  obtain ⟨tasks, metrics, log, output, hready⟩ := exists_ready_eq address serving c
  rw [hready]
  exact ⟨rfl, rfl, rfl, rfl⟩

end Context

/-- Whether something in the directory of the settings file changes. -/
def Occurrence.isFile : Occurrence → Bool
  | .file _ => true
  | .request .. | .ready _ | .traffic _ => false

namespace WatchedFile

variable {f : WatchedFile} {e : FileEvent} {s : Settings}

/-- The settings that a file brings in the course of occurrences, up to one that crashes the
watcher. -/
def loads [Log.Patterns] (f : WatchedFile) : List Occurrence → List Settings
  | [] => []
  | .file e :: rest => if f.breaksOn e then [] else (f.accepts? e).toList ++ f.loads rest
  | _ :: rest => f.loads rest

theorem valid_of_accepts [Log.Patterns] (h : f.accepts? e = some s) : s.Valid := by
  rw [accepts?] at h
  split at h
  · cases hload : Settings.load e.content with
    | error cause => rw [hload] at h; cases h
    | ok loaded =>
      rw [hload] at h
      cases h
      exact Settings.valid_of_load hload
  · cases h

/-- What brings settings does not crash the watcher. -/
theorem not_breaksOn_of_accepts [Log.Patterns] (h : f.accepts? e = some s) :
    f.breaksOn e = false := by
  rw [accepts?] at h
  split at h
  · next hconcerns =>
    rw [breaksOn, hconcerns]
    cases hload : Settings.load e.content with
    | error cause => rw [hload] at h; cases h
    | ok loaded => rfl
  · cases h

/-- What does not concern the file does not either. -/
theorem not_breaksOn_of_not_concerns [Log.Patterns] (h : f.concerns e = false) :
    f.breaksOn e = false := by
  rw [breaksOn, h, Bool.false_and]

theorem loads_file_of_breaksOn [Log.Patterns] (h : f.breaksOn e = true) (rest : List Occurrence) :
    f.loads (.file e :: rest) = [] := by
  rw [loads, if_pos h]

theorem loads_file_of_not_breaksOn [Log.Patterns] (h : f.breaksOn e = false)
    (rest : List Occurrence) :
    f.loads (.file e :: rest) = (f.accepts? e).toList ++ f.loads rest := by
  rw [loads, h, if_neg Bool.false_ne_true]

theorem valid_of_mem_loads [Log.Patterns] {occurrences : List Occurrence}
    (h : s ∈ f.loads occurrences) : s.Valid := by
  induction occurrences with
  | nil => cases h
  | cons o rest ih =>
    cases o with
    | file e =>
      rw [loads] at h
      split at h
      · cases h
      · rcases List.mem_append.1 h with hfirst | hrest
        · exact valid_of_accepts (Option.mem_toList.1 hfirst)
        · exact ih hrest
    | request | ready | traffic => exact ih h

end WatchedFile

namespace Gateway

variable {M : Type} {g g' g'' : Gateway M} {w : Watch} {e : FileEvent} {s : Settings}
variable {listeners : List SettingsListener}

/-- What an event comes to, if the settings file is watched. -/
theorem notice_eq [Log.Patterns] (hwatch : g.watch = some w) (e : FileEvent) :
    g.notice e =
      if g.watches then
        let noticed := (w.file.notices e).foldl (fun c event => c.logs event) g.context
        if w.file.breaksOn e then { g with watch := none, context := noticed.endWatch }
        else match w.file.accepts? e with
          | none => { g with context := noticed }
          | some s => { g with context := noticed.deliver w.listeners s }
      else g := by
  rw [notice]
  split
  · next hnone => rw [hwatch] at hnone; cases hnone
  · next w' hw' =>
    obtain rfl := Option.some.inj (hwatch.symm.trans hw')
    cases g.watches <;> rfl

theorem notice_of_unwatched [Log.Patterns] (h : g.watch = none) (e : FileEvent) :
    g.notice e = g := by
  rw [notice, h]

theorem notice_of_not_watches [Log.Patterns] (h : g.watches = false) (e : FileEvent) :
    g.notice e = g := by
  cases hwatch : g.watch with
  | none => exact notice_of_unwatched hwatch e
  | some w => rw [notice_eq hwatch, h, if_neg Bool.false_ne_true]

/-- There is one watch at most. -/
theorem only {P : Watch → Prop} (hwatch : g.watch = some w) (h : P w) :
    ∀ w, g.watch = some w → P w := fun w' hw' => by
  rwa [← Option.some.inj (hwatch.symm.trans hw')]

/-- An event that crashes the watcher is the last one that is noticed. -/
theorem notice_of_breaksOn [Log.Patterns] (hwatch : g.watch = some w) (hwatches : g.watches = true)
    (h : w.file.breaksOn e = true) :
    ∃ log output, g.notice e =
      { g with watch := none, context := { g.context.endWatch with log, output } } := by
  rw [notice_eq hwatch, if_pos hwatches, h]
  dsimp only
  rw [if_pos rfl, Context.foldl_logs_eq]
  exact ⟨_, _, rfl⟩

/-- An event that brings no settings changes nothing but the log, unless it crashes the watcher. -/
theorem notice_of_rejects [Log.Patterns] (h : ∀ w, g.watch = some w → w.file.accepts? e = none)
    (hbreaks : ∀ w, g.watch = some w → w.file.breaksOn e = false) :
    let after := (g.notice e).context
    g.notice e =
      { g with context := { g.context with log := after.log, output := after.output } } := by
  obtain hwatch | ⟨w, hwatch⟩ := g.watch.eq_none_or_eq_some
  · rw [notice_of_unwatched hwatch]
  · rw [notice_eq hwatch, h w hwatch, hbreaks w hwatch]
    split
    · exact congrArg (fun c => { g with context := c })
        (Context.foldl_logs_eq (w.file.notices e) _)
    · rfl

/-- Even an event that crashes the watcher changes nothing but the log, apart from the watcher. -/
theorem exists_notice_of_rejects [Log.Patterns]
    (h : ∀ w, g.watch = some w → w.file.accepts? e = none) :
    ∃ watch tasks log output, g.notice e =
      { g with watch, context := { g.context with tasks, log, output } } := by
  by_cases hbreaks : ∀ w, g.watch = some w → w.file.breaksOn e = false
  · exact ⟨_, _, _, _, notice_of_rejects h hbreaks⟩
  · push Not at hbreaks
    obtain ⟨w, hwatch, hbreaks⟩ := hbreaks
    cases hwatches : g.watches with
    | false => exact ⟨_, _, _, _, notice_of_not_watches hwatches e⟩
    | true =>
      obtain ⟨log, output, hnotice⟩ :=
        notice_of_breaksOn hwatch hwatches (eq_true_of_ne_false hbreaks)
      exact ⟨_, _, _, _, hnotice⟩

/-- **An event that brings no settings** changes nothing but the log, apart from the watcher, and
not that either unless it crashes. -/
theorem notice_keeps [Log.Patterns] (h : ∀ w, g.watch = some w → w.file.accepts? e = none) :
    let noticed := g.notice e
    noticed = { g with
      watch := noticed.watch
      context := { g.context with
        tasks := noticed.context.tasks
        log := noticed.context.log
        output := noticed.context.output } } ∧
    ((∀ w, g.watch = some w → w.file.breaksOn e = false) →
      noticed.watch = g.watch ∧ noticed.context.tasks = g.context.tasks) := by
  refine ⟨?_, fun hbreaks => ?_⟩
  · obtain ⟨watch, tasks, log, output, hnotice⟩ := exists_notice_of_rejects h
    dsimp only
    rw [hnotice]
  · rw [notice_of_rejects h hbreaks]
    exact ⟨rfl, rfl⟩

/-- An event on another file, or one that changes nothing, goes unnoticed. -/
theorem notice_of_not_concerns [Log.Patterns]
    (h : ∀ w, g.watch = some w → w.file.concerns e = false) :
    g.notice e = g := by
  cases hwatch : g.watch with
  | none => exact notice_of_unwatched hwatch e
  | some w =>
    have haccepts : w.file.accepts? e = none := by simp [WatchedFile.accepts?, h w hwatch]
    have hnotices : w.file.notices e = [] := by simp [WatchedFile.notices, h w hwatch]
    rw [notice_eq hwatch, haccepts, hnotices,
      WatchedFile.not_breaksOn_of_not_concerns (h w hwatch)]
    split <;> rfl

/-- An event that brings settings makes them the current ones, and then the listeners are told. -/
theorem notice_of_accepts [Log.Patterns] (hwatch : g.watch = some w) (hwatches : g.watches = true)
    (h : w.file.accepts? e = some s) :
    ∃ noticed, g.context.Unmoved noticed ∧
      g.notice e = { g with context := noticed.deliver w.listeners s } := by
  refine ⟨(w.file.notices e).foldl (fun c event => c.logs event) g.context, ?_, ?_⟩
  · rw [Context.foldl_logs_eq]
    exact ⟨rfl, rfl, rfl, rfl⟩
  · rw [notice_eq hwatch, if_pos hwatches, WatchedFile.not_breaksOn_of_accepts h, h]
    rfl

/-- The settings that a process loads in the course of occurrences: those that its settings file
brings, as long as changes of that are noticed at all. -/
def loads [Log.Patterns] (g : Gateway M) (occurrences : List Occurrence) : List Settings :=
  if g.watches then g.watch.toList.flatMap (·.file.loads occurrences) else []

theorem loads_of_watches [Log.Patterns] (hwatch : g.watch = some w) (hwatches : g.watches = true)
    (occurrences : List Occurrence) : g.loads occurrences = w.file.loads occurrences := by
  rw [loads, if_pos hwatches, hwatch, Option.toList_some, List.flatMap_singleton]

theorem loads_of_not_watches [Log.Patterns] (h : g.watches = false)
    (occurrences : List Occurrence) :
    g.loads occurrences = [] := by
  rw [loads, h, if_neg Bool.false_ne_true]

/-- What is noticed at all is noticed of a file. -/
theorem exists_watch_of_watches (h : g.watches = true) : ∃ w, g.watch = some w := by
  rw [watches] at h
  cases hwatch : g.watch with
  | none => rw [hwatch] at h; cases h
  | some w => exact ⟨w, rfl⟩

theorem valid_of_mem_loads [Log.Patterns] {occurrences : List Occurrence}
    (h : s ∈ g.loads occurrences) :
    s.Valid := by
  cases hwatches : g.watches with
  | false =>
    rw [loads_of_not_watches hwatches] at h
    cases h
  | true =>
    obtain ⟨w, hwatch⟩ := exists_watch_of_watches hwatches
    rw [loads_of_watches hwatch hwatches] at h
    exact WatchedFile.valid_of_mem_loads h

/-! ### Along a run -/

/-- In the course of something settings were loaded; the last of them are the current ones, all of
them were brought to the listeners, and the log filter is the one for the current ones. What is
still watched is what was watched before. -/
structure Tracks [Log.Patterns] (listeners : List SettingsListener) (loads : List Settings)
    (g g' : Gateway M) : Prop where
  watch : ∀ w, g'.watch = some w → g.watch = some w
  cancelled : g'.context.cancelled = g.context.cancelled
  settings : g'.context.settings = loads.getLast?.getD g.context.settings
  journal : g'.context.journal = g.context.journal ++ loads.flatMap (deliveries listeners)
  subscriber : ∀ (environment : Option String) (before : Settings) (subscriber : Log.Subscriber),
    g.context.subscriber = some subscriber →
    Log.Subscriber.ofSettings environment before = .ok subscriber →
      ∃ after, g'.context.subscriber = some after ∧
        Log.Subscriber.ofSettings environment
          (if .logFilter ∈ listeners then loads.getLast?.getD before else before) = .ok after

namespace Tracks

variable {loads loads' : List Settings}

theorem of_unmoved [Log.Patterns] (hwatch : ∀ w, g'.watch = some w → g.watch = some w)
    (h : g.context.Unmoved g'.context) : Tracks listeners [] g g' where
  watch := hwatch
  cancelled := h.cancelled
  settings := h.settings
  journal := h.journal.trans (List.append_nil _).symm
  subscriber environment before subscriber hsubscriber hbefore := by
    refine ⟨subscriber, h.subscriber.trans hsubscriber, ?_⟩
    rw [List.getLast?_nil, Option.getD_none, ite_self, hbefore]

theorem trans [Log.Patterns] (h : Tracks listeners loads g g')
    (h' : Tracks listeners loads' g' g'') :
    Tracks listeners (loads ++ loads') g g'' where
  watch w hw := h.watch w (h'.watch w hw)
  cancelled := h'.cancelled.trans h.cancelled
  settings := by rw [h'.settings, h.settings, List.getLast?_append, Option.getD_or]
  journal := by rw [h'.journal, h.journal, List.flatMap_append, List.append_assoc]
  subscriber environment before subscriber hsubscriber hbefore := by
    obtain ⟨between, hbetween, hfilter⟩ :=
      h.subscriber environment before subscriber hsubscriber hbefore
    obtain ⟨after, hafter, hfilter'⟩ := h'.subscriber environment _ between hbetween hfilter
    refine ⟨after, hafter, ?_⟩
    rw [List.getLast?_append, Option.getD_or]
    by_cases hlistens : .logFilter ∈ listeners
    · simp only [if_pos hlistens] at hfilter' ⊢
      exact hfilter'
    · simp only [if_neg hlistens] at hfilter' ⊢
      exact hfilter'

end Tracks

/-- What is loaded depends on the watch and on the root scope only. -/
theorem loads_congr [Log.Patterns] (hwatch : g'.watch = g.watch)
    (hcancelled : g'.context.cancelled = g.context.cancelled) (occurrences : List Occurrence) :
    g'.loads occurrences = g.loads occurrences := by
  rw [loads, loads, watches, watches, hwatch, hcancelled]

theorem tracks_notice [Log.Patterns] (hlisteners : ∀ w, g.watch = some w → w.listeners = listeners)
    (e : FileEvent) : Tracks listeners (g.loads [.file e]) g (g.notice e) := by
  cases hwatches : g.watches with
  | false =>
    rw [loads_of_not_watches hwatches, notice_of_not_watches hwatches]
    exact .of_unmoved (fun _ hw => hw) ⟨rfl, rfl, rfl, rfl⟩
  | true =>
    obtain ⟨w, hwatch⟩ := exists_watch_of_watches hwatches
    obtain rfl := hlisteners w hwatch
    rw [loads_of_watches hwatch hwatches]
    cases hbreaks : w.file.breaksOn e with
    | true =>
      obtain ⟨log, output, hnotice⟩ := notice_of_breaksOn hwatch hwatches hbreaks
      rw [hnotice, WatchedFile.loads_file_of_breaksOn hbreaks]
      exact .of_unmoved (fun _ hw => nomatch hw) ⟨rfl, rfl, rfl, rfl⟩
    | false =>
      rw [WatchedFile.loads_file_of_not_breaksOn hbreaks]
      cases haccepts : w.file.accepts? e with
      | none =>
        rw [notice_of_rejects (only hwatch haccepts) (only hwatch hbreaks)]
        exact .of_unmoved (fun _ hw => hw) ⟨rfl, rfl, rfl, rfl⟩
      | some s =>
        obtain ⟨noticed, hunmoved, hnotice⟩ := notice_of_accepts hwatch hwatches haccepts
        rw [hnotice]
        refine ⟨fun _ hw => hw, ?_, Context.settings_deliver _, ?_,
          fun environment before subscriber hg h => ?_⟩
        · exact (Context.cancelled_deliver w.listeners).trans hunmoved.cancelled
        · have hjournal : (noticed.deliver w.listeners s).journal =
              noticed.journal ++ deliveries w.listeners s := Context.journal_deliver _
          simpa [hunmoved.journal, WatchedFile.loads] using hjournal
        · exact Context.exists_subscriber_deliver (WatchedFile.valid_of_accepts haccepts)
            w.listeners (hunmoved.subscriber.trans hg) h

/-- What happens apart from the settings file does not concern the settings. -/
theorem unmoved_occur [Log.Patterns] {o : Occurrence} (h : o.isFile = false) (g : Gateway M) :
    g.context.Unmoved (g.occur o).1.context := by
  cases o with
  | file e => cases h
  | ready value => exact Context.unmoved_setReadiness value g.context
  | request | traffic => exact ⟨rfl, rfl, rfl, rfl⟩

theorem watch_occur [Log.Patterns] {o : Occurrence} (h : o.isFile = false) (g : Gateway M) :
    (g.occur o).1.watch = g.watch := by
  cases o with
  | file e => cases h
  | request | ready | traffic => rfl

/-- What happens apart from the settings file brings no settings. -/
theorem loads_cons_of_not_isFile [Log.Patterns] {o : Occurrence} (h : o.isFile = false)
    (g : Gateway M) (rest : List Occurrence) : g.loads (o :: rest) = g.loads rest := by
  cases hwatches : g.watches with
  | false => rw [loads_of_not_watches hwatches, loads_of_not_watches hwatches]
  | true =>
    obtain ⟨w, hwatch⟩ := exists_watch_of_watches hwatches
    rw [loads_of_watches hwatch hwatches, loads_of_watches hwatch hwatches]
    cases o with
    | file e => cases h
    | request | ready | traffic => rfl

theorem loads_nil [Log.Patterns] (g : Gateway M) : g.loads [] = [] := by
  simp [loads, WatchedFile.loads]

/-- As long as the watcher does not crash, what is watched stays what it is. -/
theorem loads_notice [Log.Patterns] (hwatch : g.watch = some w) (hwatches : g.watches = true)
    (h : w.file.breaksOn e = false) (rest : List Occurrence) :
    (g.notice e).loads rest = g.loads rest := by
  cases haccepts : w.file.accepts? e with
  | none =>
    rw [notice_of_rejects (only hwatch haccepts) (only hwatch h)]
    exact loads_congr rfl rfl rest
  | some s =>
    obtain ⟨noticed, hunmoved, hnotice⟩ := notice_of_accepts hwatch hwatches haccepts
    have hcancelled : (noticed.deliver w.listeners s).cancelled = g.context.cancelled :=
      (Context.cancelled_deliver w.listeners).trans hunmoved.cancelled
    rw [hnotice]
    apply loads_congr
    · rfl
    · exact hcancelled

/-- Events bring settings one after another. -/
theorem loads_cons_file [Log.Patterns] (g : Gateway M) (e : FileEvent) (rest : List Occurrence) :
    g.loads (.file e :: rest) = g.loads [.file e] ++ (g.notice e).loads rest := by
  cases hwatches : g.watches with
  | false =>
    rw [notice_of_not_watches hwatches]
    simp only [loads_of_not_watches hwatches, List.append_nil]
  | true =>
    obtain ⟨w, hwatch⟩ := exists_watch_of_watches hwatches
    simp only [loads_of_watches hwatch hwatches]
    cases hbreaks : w.file.breaksOn e with
    | true =>
      obtain ⟨log, output, hnotice⟩ := notice_of_breaksOn hwatch hwatches hbreaks
      have hover : (g.notice e).loads rest = [] := by
        rw [hnotice]
        exact loads_of_not_watches rfl rest
      simp only [WatchedFile.loads_file_of_breaksOn hbreaks, hover, List.append_nil]
    | false =>
      rw [loads_notice hwatch hwatches hbreaks, loads_of_watches hwatch hwatches,
        WatchedFile.loads_file_of_not_breaksOn hbreaks,
        WatchedFile.loads_file_of_not_breaksOn hbreaks, WatchedFile.loads, List.append_nil]

/-- Occurrences bring settings one after another. -/
theorem loads_cons [Log.Patterns] (g : Gateway M) (o : Occurrence) (rest : List Occurrence) :
    g.loads (o :: rest) = g.loads [o] ++ (g.occur o).1.loads rest := by
  cases hfile : o.isFile with
  | true =>
    cases o with
    | file e => exact loads_cons_file g e rest
    | request | ready | traffic => cases hfile
  | false =>
    rw [loads_cons_of_not_isFile hfile, loads_cons_of_not_isFile hfile, loads_nil,
      List.nil_append]
    exact (loads_congr (watch_occur hfile g) (unmoved_occur hfile g).cancelled rest).symm

/-- What happens to a process that serves, as far as its settings are concerned. -/
theorem tracks_occur [Log.Patterns] (hlisteners : ∀ w, g.watch = some w → w.listeners = listeners)
    (o : Occurrence) : Tracks listeners (g.loads [o]) g (g.occur o).1 := by
  cases hfile : o.isFile with
  | true =>
    cases o with
    | file e => exact tracks_notice hlisteners e
    | request | ready | traffic => cases hfile
  | false =>
    rw [loads_cons_of_not_isFile hfile, loads_nil]
    exact .of_unmoved (fun _ hw => (watch_occur hfile g).symm.trans hw) (unmoved_occur hfile g)

/-- **The settings are tracked** through whatever happens to a process that serves. -/
theorem tracks_serveAll [Log.Patterns]
    (hlisteners : ∀ w, g.watch = some w → w.listeners = listeners)
    (occurrences : List Occurrence) :
    Tracks listeners (g.loads occurrences) g (g.serveAll occurrences).1 := by
  induction occurrences generalizing g with
  | nil =>
    rw [loads_nil]
    exact .of_unmoved (fun _ hw => hw) ⟨rfl, rfl, rfl, rfl⟩
  | cons o rest ih =>
    have hfirst := tracks_occur hlisteners o
    rw [loads_cons]
    exact hfirst.trans (ih fun w hw => hlisteners w (hfirst.watch w hw))

end Gateway

/-! ### A launched process -/

/-- The settings file is replaced by a text. -/
def FileEvent.replaced (text : String) : FileEvent :=
  ⟨"gateway.toml", .created, .file (bytesOf text)⟩

namespace Context

variable {M : Type} [Bootable M] {c : Context M} {g : Gateway M}

/-- What a launched process has of the context that its modules have left. -/
theorem launch_unmoved (h : c.launch.2 = .ok g) :
    g.watch = c.bootstrap.1.watched.map (⟨·, c.bootstrap.1.listeners⟩) ∧
      c.bootstrap.1.Unmoved g.context := by
  obtain ⟨-, hserve⟩ := launch_eq_ok (Prod.ext rfl h)
  obtain ⟨-, -, hleft, hcontext⟩ := serve_eq_ok hserve
  obtain ⟨-, -, -, hwatch, -⟩ := serve_fixes hserve
  refine ⟨hwatch, ?_⟩
  rw [hcontext, hleft]
  exact unmoved_ready _ _ _

/-- **The last settings that could be loaded.** A process with accepted settings is launched. It
loads whatever its settings file brings, if that is watched, in a directory that is there and while
the root scope is not cancelled, up to a file that crashes the watcher. Then, whatever happens while
it serves, the current settings are those that were loaded last, and are accepted ones. All that
were loaded were brought to each of the listeners that the modules have left, once and in their
order, when they were the current ones. Anything else that is noticed changes nothing but the log,
apart from the watcher if that crashes, and an event that does not concern the file not even that.
The level of accepted settings always makes a filter. A log filter from the environment stays what
it is. Without one, be it that there is nothing or something that is no filter, and if the log
filter is among the listeners, it is the filter for the current settings. -/
theorem reload_tracks [Log.Patterns] (hlaunch : c.launch.2 = .ok g)
    (hvalid : c.bootstrap.1.settings.Valid)
    (occurrences : List Occurrence) :
    let left := c.bootstrap.1
    let after := (g.serveAll occurrences).1
    let loads := g.loads occurrences
    (∀ file, left.watched = some file → file.directoryExists = true → left.cancelled = false →
      loads = file.loads occurrences) ∧
    (∀ s ∈ loads, s.Valid) ∧
    after.context.settings = loads.getLast?.getD left.settings ∧
    after.context.settings.Valid ∧
    after.context.journal = g.context.journal ++ loads.flatMap (deliveries left.listeners) ∧
    (∀ e, (∀ file, left.watched = some file → file.accepts? e = none) →
      let noticed := after.notice e
      noticed = { after with
        watch := noticed.watch
        context := { after.context with
          tasks := noticed.context.tasks
          log := noticed.context.log
          output := noticed.context.output } } ∧
      ((∀ file, left.watched = some file → file.breaksOn e = false) →
        noticed.watch = after.watch ∧ noticed.context.tasks = after.context.tasks)) ∧
    (∀ e, (∀ file, left.watched = some file → file.concerns e = false) →
      after.notice e = after) ∧
    (∀ s : Settings, s.Valid →
      ∃ filter, Log.Subscriber.filterOf s.effectiveLogLevel = .ok filter) ∧
    ∀ (environment : Option String) (subscriber : Log.Subscriber),
      Log.Subscriber.ofSettings environment left.settings = .ok subscriber →
      left.subscriber = some subscriber →
        match environment.bind fun text => (Log.Filter.parse text.toList).toOption with
        | some filter =>
          subscriber = ⟨filter, true⟩ ∧ after.context.subscriber = some subscriber
        | none => .logFilter ∈ left.listeners →
          ∃ filter,
            Log.Subscriber.filterOf after.context.settings.effectiveLogLevel = .ok filter ∧
            after.context.subscriber = some ⟨filter, false⟩ := by
  intro left after loads
  obtain ⟨hwatch, hunmoved⟩ := launch_unmoved hlaunch
  have hwatched {w : Watch} (hw : g.watch = some w) :
      left.watched = some w.file ∧ w.listeners = left.listeners := by
    obtain ⟨file, hfile, rfl⟩ := Option.map_eq_some_iff.1 (hwatch.symm.trans hw)
    exact ⟨hfile, rfl⟩
  have htracks : Gateway.Tracks left.listeners loads g after :=
    Gateway.tracks_serveAll (fun w hw => (hwatched hw).2) occurrences
  have hstill {w : Watch} (hw : after.watch = some w) : left.watched = some w.file :=
    (hwatched (htracks.watch w hw)).1
  have hloads : ∀ s ∈ loads, s.Valid := fun s => Gateway.valid_of_mem_loads
  have hsettings : after.context.settings = loads.getLast?.getD left.settings := by
    rw [htracks.settings, hunmoved.settings]
  refine ⟨fun file hfile hdirectory hrunning => ?_, hloads, hsettings, ?_, htracks.journal,
    fun e he => ?_, fun e he => Gateway.notice_of_not_concerns fun w hw => he w.file (hstill hw),
    fun s => Settings.exists_filterOf, fun environment subscriber hbefore hsubscriber => ?_⟩
  · have hw : g.watch = some ⟨file, left.listeners⟩ := hwatch.trans (by rw [hfile]; rfl)
    refine Gateway.loads_of_watches hw ?_ occurrences
    rw [Gateway.watches, hw, hunmoved.cancelled, hrunning]
    simpa using hdirectory
  · rw [hsettings]
    cases hlast : loads.getLast? with
    | none => exact hvalid
    | some s => exact hloads s (List.mem_of_getLast? hlast)
  · obtain ⟨hkept, hwatcher⟩ := after.notice_keeps fun w hw => he w.file (hstill hw)
    exact ⟨hkept, fun hbreaks => hwatcher fun w hw => hbreaks w.file (hstill hw)⟩
  · obtain ⟨filtering, hfiltering, hfilter⟩ := htracks.subscriber environment left.settings
      subscriber (hunmoved.subscriber.trans hsubscriber) hbefore
    have hfirst := Log.Subscriber.ofSettings_eq_ok hbefore
    have hlast := Log.Subscriber.ofSettings_eq_ok hfilter
    split
    · next filter henvironment =>
      rw [henvironment] at hfirst hlast
      exact ⟨hfirst, hfiltering.trans (congrArg some (hlast.trans hfirst.symm))⟩
    · next henvironment =>
      intro hlistens
      rw [henvironment, if_pos hlistens, ← hsettings] at hlast
      obtain ⟨filter, hlevel, rfl⟩ := hlast
      exact ⟨filter, hlevel, hfiltering⟩

/-- A rehearsal without modules that watches its settings file, with a text in the environment. The
log filter is among its listeners. -/
def watchingRehearsal (environment : Option String) : Context RehearsalModule :=
  { watched := some { name := "gateway.toml" }, listeners := [.observer "first", .logFilter]
    subscriber := (Log.Subscriber.ofSettings environment {}).toOption }

/-- Of three files that replace each other the second one only can be loaded. -/
theorem reload_tracks_rehearsal :
    let occurrences : List Occurrence := [.file (.replaced "mode = 1"),
      .file (.replaced "mode = \"debug\""), .file (.replaced "mode =")]
    ∃ g, (watchingRehearsal none).launch.2 = .ok g ∧
      let after := (g.serveAll occurrences).1
      after.context.settings = { mode := .debug } ∧
      after.context.journal = g.context.journal ++
        deliveries [.observer "first", .logFilter] { mode := .debug } ∧
      ∃ filter, Log.Subscriber.filterOf "debug" = .ok filter ∧
        after.context.subscriber = some ⟨filter, false⟩ := by
  intro occurrences
  obtain ⟨g, hg⟩ : ∃ g, (watchingRehearsal none).launch.2 = .ok g := ⟨_, rfl⟩
  obtain ⟨hfile, -, hsettings, -, hjournal, -, -, -, hfilter⟩ :=
    reload_tracks hg (by decide +kernel) occurrences
  have hloads : (WatchedFile.mk "" "gateway.toml" true).loads occurrences =
      [{ mode := .debug }] := by decide +kernel
  obtain ⟨subscriber, hsubscriber⟩ : ∃ subscriber,
      Log.Subscriber.ofSettings none {} = .ok subscriber := ⟨_, rfl⟩
  rw [hfile _ rfl rfl rfl, hloads] at hsettings hjournal
  refine ⟨g, hg, hsettings, hjournal, ?_⟩
  obtain ⟨filter, hlevel, hshown⟩ := hfilter none subscriber hsubscriber
    (congrArg Except.toOption hsubscriber) (List.mem_cons_of_mem _ List.mem_cons_self)
  rw [hsettings] at hlevel
  exact ⟨filter, hlevel, hshown⟩

/-- A text in the environment that is no filter does not keep the log filter as it is. And after a
file that crashes the watcher, by a level that is cut within a character, no other one is loaded. -/
theorem reload_changes_filter :
    (∃ g subscriber, (watchingRehearsal (some "x=loud")).launch.2 = .ok g ∧
      Log.Subscriber.ofSettings (some "x=loud") {} = .ok subscriber ∧
      g.context.subscriber = some subscriber ∧
      (g.notice (.replaced "mode = \"debug\"")).context.subscriber ≠ some subscriber) ∧
    ∃ g, (watchingRehearsal none).launch.2 = .ok g ∧
      (g.serveAll [.file (.replaced "[observability]\nlog_level = \"info,\u2003é=info\""),
        .file (.replaced "mode = \"debug\"")]).1.context.settings = {} :=
  ⟨⟨_, _, rfl, rfl, rfl, by decide +kernel⟩, _, rfl, by decide +kernel⟩

end Context

end ProtocolGateway
