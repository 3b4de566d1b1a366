import ProtocolGateway.Proofs.Log.LevelText
import ProtocolGateway.Proofs.Settings.Accepted
import ProtocolGateway.Settings.Load

/-!
# Problems are reported at once

Settings that are not accepted are returned with all of their problems: whoever changes the fields
that are named can have the settings accepted, without a look at any other field. A field is at
fault for its own value only, except that the path of the health checks is compared with the prefix;
and some fields are looked at only if what they are for is wanted. So a fault of one field hides no
fault of another.

## Main definitions

* `Settings.value`: the value of a field.
* `Settings.adoptAll`: settings with the values that some fields have in others.
* `SettingsField.reads`, `Settings.checks`: what the fault of a field depends on.
* `Settings.named`: the fields that are at fault.
* `Settings.repair`: values with which the fields of settings are not at fault.

## Main results

* `Settings.fault?_congr`: the fault of a field depends on nothing else.
* `Settings.valid_repaired`: settings with the fields repaired that were named are accepted.
* `Settings.problems_complete`: problems are reported at once.
-/

namespace ProtocolGateway

/-- The value of a field of settings. -/
inductive SettingsValue where
  | text (text : String)
  | number (n : Nat)
deriving DecidableEq, Repr

/-- The fields whose values decide whether a field is at fault. -/
def SettingsField.reads : SettingsField → List SettingsField
  | .healthPath => [.gatewayPrefix, .healthPath]
  | field => [field]

namespace Settings

variable {s s' values : Settings} {field other : SettingsField} {fields : List SettingsField}

/-! ### Fields -/

/-- The value of a field. -/
def value (s : Settings) : SettingsField → SettingsValue
  | .bindAddress => .text s.listener.bindAddress
  | .maxConnections => .number s.listener.maxConnections
  | .peekTimeout => .number s.listener.peekTimeoutMs
  | .peekBuffer => .number s.listener.peekBufferBytes
  | .gatewayPrefix => .text s.gateway.pathPrefix
  | .healthPath => .text s.health.path
  | .requestTimeout => .number s.timeouts.requestSecs
  | .shutdownTimeout => .number s.timeouts.shutdownMs
  | .logLevel => .text s.observability.logLevel
  | .metricsAddress => .text s.observability.metricsAddress
  | .endpoint => .text s.logShipping.endpoint
  | .batchSize => .number s.logShipping.batchSize
  | .queueCapacity => .number s.logShipping.queueCapacity

/-- Whether a field is looked at: the address of the metrics if there is an exporter, the fields of
the log collector if there is one, and all others always. -/
def checks (s : Settings) : SettingsField → Bool
  | .metricsAddress => s.observability.metricsEnabled
  | .endpoint | .batchSize | .queueCapacity => s.logShipping.enabled
  | _ => true

/-- The settings with the value that a field has in others. -/
def adopt (values : Settings) (s : Settings) : SettingsField → Settings
  | .bindAddress => { s with listener.bindAddress := values.listener.bindAddress }
  | .maxConnections => { s with listener.maxConnections := values.listener.maxConnections }
  | .peekTimeout => { s with listener.peekTimeoutMs := values.listener.peekTimeoutMs }
  | .peekBuffer => { s with listener.peekBufferBytes := values.listener.peekBufferBytes }
  | .gatewayPrefix => { s with gateway.pathPrefix := values.gateway.pathPrefix }
  | .healthPath => { s with health.path := values.health.path }
  | .requestTimeout => { s with timeouts.requestSecs := values.timeouts.requestSecs }
  | .shutdownTimeout => { s with timeouts.shutdownMs := values.timeouts.shutdownMs }
  | .logLevel => { s with observability.logLevel := values.observability.logLevel }
  | .metricsAddress =>
    { s with observability.metricsAddress := values.observability.metricsAddress }
  | .endpoint => { s with logShipping.endpoint := values.logShipping.endpoint }
  | .batchSize => { s with logShipping.batchSize := values.logShipping.batchSize }
  | .queueCapacity => { s with logShipping.queueCapacity := values.logShipping.queueCapacity }

/-- The settings with the values that some fields have in others. -/
def adoptAll (values : Settings) (fields : List SettingsField) (s : Settings) : Settings :=
  fields.foldl values.adopt s

theorem value_adopt_self : (values.adopt s field).value field = values.value field := by
  cases field <;> rfl

theorem value_adopt_of_ne (h : field ≠ other) :
    (values.adopt s field).value other = s.value other := by
  cases field <;> cases other <;> first | rfl | exact absurd rfl h

theorem checks_adopt : (values.adopt s field).checks = s.checks := by
  cases field <;> rfl

theorem checks_adoptAll : (values.adoptAll fields s).checks = s.checks := by
  induction fields generalizing s with
  | nil => rfl
  | cons field fields ih => exact ih.trans checks_adopt

theorem value_adoptAll_of_notMem (h : field ∉ fields) :
    (values.adoptAll fields s).value field = s.value field := by
  induction fields generalizing s with
  | nil => rfl
  | cons first fields ih =>
    rw [List.mem_cons, not_or] at h
    exact (ih h.2).trans (value_adopt_of_ne (Ne.symm h.1))

theorem value_adoptAll_of_mem (h : field ∈ fields) :
    (values.adoptAll fields s).value field = values.value field := by
  induction fields generalizing s with
  | nil => exact absurd h List.not_mem_nil
  | cons first fields ih =>
    by_cases hlater : field ∈ fields
    · exact ih hlater
    · obtain rfl : field = first := (List.mem_cons.1 h).resolve_right hlater
      exact (value_adoptAll_of_notMem hlater).trans value_adopt_self

/-! ### Faults -/

theorem mem_reads (field : SettingsField) : field ∈ field.reads := by
  cases field <;> decide

theorem reads_of_ne (h : field ≠ .healthPath) : field.reads = [field] := by
  cases field <;> first | rfl | exact absurd rfl h

theorem gateway_congr (h : s.value .gatewayPrefix = s'.value .gatewayPrefix) :
    s.gateway = s'.gateway := congrArg GatewaySettings.mk (SettingsValue.text.inj h)

/-- A field that is not looked at is not at fault. -/
theorem fault?_of_not_checks [Log.Patterns] (h : s.checks field = false) :
    s.fault? field = none := by
  cases field
  case metricsAddress | endpoint | batchSize | queueCapacity =>
    exact if_neg (Bool.eq_false_iff.1 h)
  all_goals cases h

/-- **The fault of a field** depends on nothing but the fields it reads and whether it is looked
at. -/
theorem fault?_congr [Log.Patterns] (hvalue : ∀ read ∈ field.reads, s.value read = s'.value read)
    (hchecks : s.checks field = s'.checks field) : s.fault? field = s'.fault? field := by
  have hown := hvalue field (mem_reads field)
  cases field with
  | bindAddress => exact congrArg addressFault? (SettingsValue.text.inj hown)
  | maxConnections => exact congrArg zeroFault? (SettingsValue.number.inj hown)
  | peekTimeout => exact congrArg zeroFault? (SettingsValue.number.inj hown)
  | peekBuffer => rw [fault?, fault?, SettingsValue.number.inj hown]
  | gatewayPrefix => exact congrArg prefixFault? (gateway_congr hown)
  | healthPath =>
    have hgateway := gateway_congr (hvalue .gatewayPrefix List.mem_cons_self)
    exact congrArg₂ healthFault? hgateway (SettingsValue.text.inj hown)
  | requestTimeout => exact congrArg zeroFault? (SettingsValue.number.inj hown)
  | shutdownTimeout => exact congrArg zeroFault? (SettingsValue.number.inj hown)
  | logLevel => exact congrArg levelFault? (SettingsValue.text.inj hown)
  | metricsAddress =>
    have henabled : s.observability.metricsEnabled = s'.observability.metricsEnabled := hchecks
    rw [fault?, fault?, henabled, SettingsValue.text.inj hown]
  | endpoint =>
    have henabled : s.logShipping.enabled = s'.logShipping.enabled := hchecks
    rw [fault?, fault?, henabled, SettingsValue.text.inj hown]
  | batchSize =>
    have henabled : s.logShipping.enabled = s'.logShipping.enabled := hchecks
    rw [fault?, fault?, henabled, SettingsValue.number.inj hown]
  | queueCapacity =>
    have henabled : s.logShipping.enabled = s'.logShipping.enabled := hchecks
    rw [fault?, fault?, henabled, SettingsValue.number.inj hown]

/-- The fields that the problems name. -/
def named [Log.Patterns] (s : Settings) : List SettingsField := s.problems.map (·.field)

/-- The fields at fault are named, in their order. -/
theorem named_eq_filter [Log.Patterns] (s : Settings) :
    s.named = SettingsField.all.filter fun field => (s.fault? field).isSome := by
  rw [named, problems, List.map_filterMap, ← List.filterMap_eq_filter]
  refine congrArg (List.filterMap · SettingsField.all) (funext fun field => ?_)
  cases h : s.fault? field <;> simp [h, Option.guard]

theorem mem_named_iff [Log.Patterns] : field ∈ s.named ↔ s.fault? field ≠ none := by
  rw [named_eq_filter, List.mem_filter, ← Option.isSome_iff_ne_none]
  exact and_iff_right field.mem_all

/-- The names are in the order of the fields, each at most once. -/
theorem names_sublist [Log.Patterns] (s : Settings) :
    (s.problems.map (·.field.name)).Sublist (SettingsField.all.map (·.name)) := by
  have hnames : s.problems.map (·.field.name) = s.named.map (·.name) := by
    rw [named, List.map_map]
    rfl
  rw [hnames, named_eq_filter]
  exact List.filter_sublist.map _

theorem nodup_names : (SettingsField.all.map (·.name)).Nodup := by decide +kernel

theorem valid_iff [Log.Patterns] : s.Valid ↔ ∀ field, s.fault? field = none :=
  ⟨fault?_of_valid, fun h => List.filterMap_eq_nil_iff.2 fun field _ => by rw [h, Option.map_none]⟩

/-! ### Repair -/

/-- Settings in which all fields are looked at and none is at fault. -/
def sound : Settings :=
  { health := { path := "/" }
    observability := { metricsEnabled := true }
    logShipping := { enabled := true, endpoint := "http://localhost" } }

theorem valid_sound [Log.Patterns] : sound.Valid := by
  refine valid_iff.2 fun field => ?_
  cases field with
  | logLevel => exact Log.levelFault?_of_level "info" .info rfl
  | bindAddress =>
    show addressFault? "0.0.0.0:8080" = none
    decide +kernel
  | gatewayPrefix =>
    show prefixFault? { pathPrefix := "/grpc" } = none
    decide +kernel
  | healthPath =>
    show healthFault? { pathPrefix := "/grpc" } "/" = none
    decide +kernel
  | metricsAddress =>
    show addressFault? "0.0.0.0:9090" = none
    decide +kernel
  | endpoint =>
    show endpointFault? "http://localhost" = none
    decide +kernel
  | maxConnections | peekTimeout | peekBuffer | requestTimeout | shutdownTimeout | batchSize
  | queueCapacity => rfl

/-- A prefix that is longer than a path. -/
def longPrefix (path : String) : List Char := '/' :: List.replicate (path.toList.length + 1) 'a'

/-- Values with which the fields of settings are not at fault. The path of the health checks is not
below the prefix, since that is longer. -/
def repair (s : Settings) : Settings :=
  adopt { gateway := { pathPrefix := String.ofList (longPrefix s.health.path) } } sound
    .gatewayPrefix

theorem getLast?_longPrefix (path : String) : (longPrefix path).getLast? = some 'a' := by
  rw [longPrefix, List.replicate_succ', ← List.cons_append, List.getLast?_append]
  rfl

theorem trimmedPrefix_repair (s : Settings) :
    s.repair.gateway.trimmedPrefix = longPrefix s.health.path := by
  have hlast : (longPrefix s.health.path).getLast? ≠ some '/' := by
    rw [getLast?_longPrefix]
    decide
  have htrimmed := Text.trimEndOf_append hlast []
  rw [List.append_nil, show Text.trimEndOf '/' [] = [] from rfl, List.append_nil] at htrimmed
  rw [GatewaySettings.trimmedPrefix, repair, adopt, String.toList_ofList, htrimmed]

theorem normalizedPrefix_repair (s : Settings) :
    s.repair.gateway.normalizedPrefix = longPrefix s.health.path := by
  rw [GatewaySettings.normalizedPrefix, trimmedPrefix_repair]
  rfl

theorem prefixFault?_repair (s : Settings) : prefixFault? s.repair.gateway = none := by
  have hslash : s.repair.gateway.pathPrefix.toList.head? = some '/' := by
    rw [repair, adopt, String.toList_ofList]
    rfl
  rw [prefixFault?, if_neg (not_not.2 hslash), normalizedPrefix_repair, if_neg]
  rw [longPrefix, List.replicate_succ]
  simp

/-- What lies below a path is not shorter. -/
theorem length_le_of_isUnder {above path : List Char} (h : isUnder above path = true) :
    above.length ≤ path.length := by
  rw [isUnder] at h
  cases hrest : Text.dropStart? above path with
  | none => rw [hrest] at h; cases h
  | some rest =>
    rw [Text.dropStart?_eq_some_iff.1 hrest, List.length_append]
    exact Nat.le_add_right _ _

theorem normalizedPrefix_ne_nil (g : GatewaySettings) : g.normalizedPrefix ≠ [] := by
  rw [GatewaySettings.normalizedPrefix]
  split
  · exact List.cons_ne_nil _ _
  · next h => simpa using h

/-- A slash is not at fault, whatever the prefix is. -/
theorem healthFault?_slash (g : GatewaySettings) : healthFault? g "/" = none := by
  have htrimmed : Text.trimEndOf '/' "/".toList = [] := by decide
  have hunder : ¬isUnder g.normalizedPrefix [] = true := fun h =>
    normalizedPrefix_ne_nil g (List.length_eq_zero_iff.1 (Nat.le_zero.1 (length_le_of_isUnder h)))
  rw [healthFault?, htrimmed, if_neg (by decide), if_neg (by decide), if_neg]
  rw [Bool.and_eq_true]
  exact fun h => hunder h.2

/-- A path that is not at fault is not below the long prefix either. -/
theorem healthFault?_repair [Log.Patterns] (h : s.fault? .healthPath = none) :
    healthFault? s.repair.gateway s.health.path = none := by
  have hlength : ¬isUnder s.repair.gateway.normalizedPrefix
      (Text.trimEndOf '/' s.health.path.toList) = true := by
    intro hunder
    obtain ⟨tail, htail⟩ := Text.exists_trimEndOf_append '/' s.health.path.toList
    have hle := length_le_of_isUnder hunder
    have hpath := congrArg List.length htail
    rw [normalizedPrefix_repair, longPrefix, List.length_cons, List.length_replicate] at hle
    rw [List.length_append] at hpath
    omega
  rw [fault?, healthFault?] at h
  split at h
  · cases h
  · next hslash =>
    split at h
    · cases h
    · next htaken =>
      rw [healthFault?, if_neg hslash, if_neg htaken, if_neg]
      rw [Bool.and_eq_true]
      exact fun h => hlength h.2

/-- No other field of the repair is at fault. -/
theorem fault?_repair [Log.Patterns] (hreserved : field ≠ .gatewayPrefix)
    (hhealth : field ≠ .healthPath) :
    s.repair.fault? field = none := by
  have hsame : s.repair.fault? field = sound.fault? field := by
    refine fault?_congr (fun read hread => ?_) (congrFun checks_adopt field)
    rw [reads_of_ne hhealth] at hread
    exact value_adopt_of_ne (List.mem_singleton.1 hread ▸ hreserved.symm)
  rw [hsame]
  exact fault?_of_valid valid_sound field

theorem checks_sound (field : SettingsField) : sound.checks field = true := by
  cases field <;> rfl

/-- The settings with those fields repaired that are at fault. -/
def repaired [Log.Patterns] (s : Settings) : Settings := s.repair.adoptAll s.named s

theorem checks_repaired [Log.Patterns] : s.repaired.checks = s.checks := checks_adoptAll

theorem value_repaired_of_fault? [Log.Patterns] (h : s.fault? field = none) :
    s.repaired.value field = s.value field :=
  value_adoptAll_of_notMem fun hmem => mem_named_iff.1 hmem h

theorem value_repaired_of_ne [Log.Patterns] (h : s.fault? field ≠ none) :
    s.repaired.value field = s.repair.value field :=
  value_adoptAll_of_mem (mem_named_iff.2 h)

/-- A field that depends on itself only is not at fault in the end. -/
theorem fault?_repaired_of_ne [Log.Patterns] (hhealth : field ≠ .healthPath) :
    s.repaired.fault? field = none := by
  have hreads {t : Settings} (h : s.repaired.value field = t.value field) :
      ∀ read ∈ field.reads, s.repaired.value read = t.value read := by
    rw [reads_of_ne hhealth]
    exact List.forall_mem_singleton.2 h
  by_cases hfault : s.fault? field = none
  · rw [fault?_congr (hreads (value_repaired_of_fault? hfault)) (congrFun checks_repaired field)]
    exact hfault
  · have hlooked : s.checks field = true := by
      rw [← Bool.not_eq_false]
      exact fun h => hfault (fault?_of_not_checks h)
    have hchecks : s.repaired.checks field = s.repair.checks field := by
      rw [checks_repaired, hlooked, repair, checks_adopt, checks_sound]
    rw [fault?_congr (hreads (value_repaired_of_ne hfault)) hchecks]
    by_cases hreserved : field = .gatewayPrefix
    · rw [hreserved]
      exact prefixFault?_repair s
    · exact fault?_repair hreserved hhealth

/-- Neither is the path of the health checks. -/
theorem fault?_repaired_healthPath [Log.Patterns] : s.repaired.fault? .healthPath = none := by
  have hfaulty : s.repaired.fault? .healthPath =
    healthFault? s.repaired.gateway s.repaired.health.path := rfl
  by_cases hhealth : s.fault? .healthPath = none
  · have hpath : s.repaired.health.path = s.health.path :=
      SettingsValue.text.inj (value_repaired_of_fault? hhealth)
    by_cases hreserved : s.fault? .gatewayPrefix = none
    · rw [hfaulty, hpath, gateway_congr (value_repaired_of_fault? hreserved)]
      exact hhealth
    · rw [hfaulty, hpath, gateway_congr (value_repaired_of_ne hreserved)]
      exact healthFault?_repair hhealth
  · have hpath : s.repaired.health.path = "/" :=
      SettingsValue.text.inj (value_repaired_of_ne hhealth)
    rw [hfaulty, hpath]
    exact healthFault?_slash _

/-- **Settings with those fields repaired that are at fault are accepted.** -/
theorem valid_repaired [Log.Patterns] (s : Settings) : s.repaired.Valid := by
  rw [valid_iff]
  intro field
  by_cases hhealth : field = .healthPath
  · rw [hhealth]
    exact fault?_repaired_healthPath
  · exact fault?_repaired_of_ne hhealth

/-- The repair changes each field that is at fault. -/
theorem value_repaired_ne [Log.Patterns] (h : s.fault? field ≠ none) :
    s.repaired.value field ≠ s.value field := by
  intro hsame
  by_cases hhealth : field = .healthPath
  · rw [hhealth] at h hsame
    have hslash : s.repaired.value .healthPath = .text "/" := value_repaired_of_ne h
    have hpath : "/" = s.health.path := SettingsValue.text.inj (hslash.symm.trans hsame)
    refine h ?_
    rw [fault?, ← hpath]
    exact healthFault?_slash s.gateway
  · have hreads : ∀ read ∈ field.reads, s.repaired.value read = s.value read := by
      rw [reads_of_ne hhealth]
      exact List.forall_mem_singleton.2 hsame
    exact h ((fault?_congr hreads (congrFun checks_repaired field)).symm.trans
      (fault?_repaired_of_ne hhealth))

/-- **Problems are reported at once.** Settings that are not accepted are returned with the fields
at fault, each at most once and in their order. With other values of just these fields they are
accepted, and whether a field is among them depends on what it reads and whether it is looked at. -/
theorem problems_complete [Log.Patterns] (h : ¬s.Valid) :
    s.validated = .error (.invalid s.problems) ∧
      (s.problems.map (·.field.name)).Sublist (SettingsField.all.map (·.name)) ∧
      (s.problems.map (·.field.name)).Nodup ∧
      (∃ values : Settings, (values.adoptAll s.named s).Valid ∧
        ∀ field ∈ s.named, (values.adoptAll s.named s).value field ≠ s.value field) ∧
      ∀ (s' : Settings) (field : SettingsField),
        (∀ read ∈ field.reads, s.value read = s'.value read) →
          s.checks field = s'.checks field → (field ∈ s.named ↔ field ∈ s'.named) := by
  refine ⟨?_, names_sublist s, nodup_names.sublist (names_sublist s), ?_, ?_⟩
  · rw [validated, if_neg]
    rwa [List.isEmpty_iff]
  · exact ⟨s.repair, valid_repaired s, fun field hmem => value_repaired_ne (mem_named_iff.1 hmem)⟩
  · intro s' field hvalue hchecks
    rw [mem_named_iff, mem_named_iff, fault?_congr hvalue hchecks]

/-- Settings whose health checks are reserved and whose requests have no time. -/
def hasty : Settings :=
  { gateway := { pathPrefix := "/gateway" }, health := { path := "/gateway/health/" }
    timeouts := { requestSecs := 0 } }

/-- Both are reported, and others in their place are accepted. -/
theorem problems_complete_hasty :
    ¬hasty.Valid ∧ hasty.named = [.healthPath, .requestTimeout] ∧
      ∃ values : Settings, (values.adoptAll hasty.named hasty).Valid := by
  have hnamed : hasty.named = [.healthPath, .requestTimeout] := by decide +kernel
  have hrefused : ¬hasty.Valid := by decide +kernel
  obtain ⟨-, -, -, ⟨values, hvalid, -⟩, -⟩ := problems_complete hrefused
  exact ⟨hrefused, hnamed, values, hvalid⟩

end Settings

end ProtocolGateway
