import TelemetryFabric.Agent.ConfigFile

/-! What it takes for a configuration file to become a configuration: every token is known, and the
checks of the configuration are those that the maps of the file do not settle by themselves. -/

namespace TelemetryFabric.Agent
open Library TelemetryFabric.Core Processors

/-! ### Validation -/

theorem requireNonEmpty_eq_ok {field value : String} : requireNonEmpty field value = .ok () ↔ isBlank value = false := by
  unfold requireNonEmpty
  cases isBlank value <;> simp

theorem uniqueNamesFrom_eq_ok {kind : String} {seen names : List String} :
    uniqueNamesFrom kind seen names = .ok () ↔
      (∀ name ∈ names, isBlank name = false) ∧ names.Nodup ∧ ∀ name ∈ names, name ∉ seen := by
  induction names generalizing seen with
  | nil => simp [uniqueNamesFrom]
  | cons name rest ih =>
    rw [uniqueNamesFrom, seq_eq_ok, seq_eq_ok, requireNonEmpty_eq_ok, refuseWhen_eq_ok, ih, List.forall_mem_cons,
      List.forall_mem_cons, List.nodup_cons]
    simp only [List.contains_eq_mem, decide_eq_false_iff_not, List.mem_cons, not_or]
    constructor
    · rintro ⟨solid, fresh, others, nodup, later⟩
      exact ⟨⟨solid, others⟩, ⟨fun again => (later name again).1 rfl, nodup⟩, fresh, fun other member => (later other member).2⟩
    · rintro ⟨⟨solid, others⟩, ⟨absent, nodup⟩, fresh, later⟩
      exact ⟨solid, fresh, others, nodup, fun other member => ⟨fun same => absent (same ▸ member), later other member⟩⟩

theorem validateUniqueNames_eq_ok {kind : String} {names : List String} :
    validateUniqueNames kind names = .ok () ↔ (∀ name ∈ names, isBlank name = false) ∧ names.Nodup := by
  unfold validateUniqueNames
  rw [uniqueNamesFrom_eq_ok]
  simp

/-- The limits of a retry policy that must not be zero. -/
def PositiveRetry (retry : ExporterRetryConfig) : Prop :=
  retry.maxAttempts ≠ 0 ∧ retry.timeoutMs ≠ 0 ∧ retry.initialBackoffMs ≠ 0

theorem validateRetry_eq_ok {exporter : ExporterConfig} : exporter.validateRetry = .ok () ↔ PositiveRetry exporter.retry := by
  unfold ExporterConfig.validateRetry PositiveRetry
  rw [seq_eq_ok, seq_eq_ok, refuseWhen_eq_ok, refuseWhen_eq_ok, refuseWhen_eq_ok]
  simp only [beq_eq_false_iff_ne]

def PositiveLimits (limits : TenantLimits) : Prop :=
  limits.maxRecordBytes ≠ 0 ∧ limits.maxQueueBytes ≠ 0 ∧ limits.maxIngestBytesPerSecond ≠ 0

theorem validate_eq_ok {config : PipelineConfig} : config.validate = .ok () ↔
    isBlank config.tenantId = false ∧ isBlank config.name = false ∧ config.receivers ≠ [] ∧ config.exporters ≠ [] ∧
      config.routes ≠ [] ∧ PositiveLimits config.limits ∧ (∀ exporter ∈ config.exporters, PositiveRetry exporter.retry) ∧
      ((∀ name ∈ config.receivers.map ReceiverConfig.name, isBlank name = false) ∧
        (config.receivers.map ReceiverConfig.name).Nodup) ∧
      ((∀ name ∈ config.exporterNames, isBlank name = false) ∧ config.exporterNames.Nodup) ∧
      ((∀ name ∈ config.processors.map ProcessorConfig.name, isBlank name = false) ∧
        (config.processors.map ProcessorConfig.name).Nodup) ∧
      ∀ route ∈ config.routes, route.exporters ≠ [] ∧ ∀ name ∈ route.exporters, name ∈ config.exporterNames := by
  have routes : ∀ route : RouteConfig, route.validate config.exporterNames = .ok () ↔
      route.exporters ≠ [] ∧ ∀ name ∈ route.exporters, name ∈ config.exporterNames := by
    intro route
    rw [RouteConfig.validate, seq_eq_ok, refuseWhen_eq_ok, validateExporters_eq_ok, List.isEmpty_eq_false_iff]
  simp only [PipelineConfig.validate, seq_eq_ok, requireNonEmpty_eq_ok, refuseWhen_eq_ok, validateEach_eq_ok,
    validateRetry_eq_ok, validateUniqueNames_eq_ok, routes, List.isEmpty_eq_false_iff, beq_eq_false_iff_ne, PositiveLimits,
    and_assoc]

/-! ### Tokens and maps -/

theorem parseToken_eq_ok {α : Type} {table : String → Option α} {message value : String} {found : α} :
    parseToken table message value = .ok found ↔ table (normalizeToken value) = some found := by
  unfold parseToken
  cases table (normalizeToken value) <;> simp

theorem bind_eq_ok_iff {ε α β : Type} {first : Except ε α} {next : α → Except ε β} {result : β} :
    (first >>= next) = .ok result ↔ ∃ value, first = .ok value ∧ next value = .ok result := by
  cases first <;> simp [bind, Except.bind]

theorem parsed_eq_ok {α β : Type} {table : String → Option α} {message value : String} {make : α → β} {result : β} :
    (do return make (← parseToken table message value) : Except ConfigFileError β) = .ok result ↔
      ∃ found, table (normalizeToken value) = some found ∧ result = make found := by
  simp only [bind_eq_ok_iff, parseToken_eq_ok]
  constructor
  · rintro ⟨found, known, same⟩
    exact ⟨found, known, (Except.ok.inj same).symm⟩
  · rintro ⟨found, known, rfl⟩
    exact ⟨found, known, rfl⟩

theorem collect_eq_ok {α β : Type} {into : α → String → Except ConfigFileError β} {map : OrderedMap String α}
    {results : List β} : collect into map = .ok results ↔
      List.Forall₂ (fun binding result => into binding.2 binding.1 = .ok result) map.entries results :=
  mapM_eq_ok_iff

theorem intoReceiverConfig_eq_ok {receiver : FileReceiverConfig} {name : String} {config : ReceiverConfig} :
    receiver.intoReceiverConfig name = .ok config ↔ ∃ protocol,
      receiverProtocolOf (normalizeToken receiver.protocol) = some protocol ∧
        config = ⟨name, protocol, receiver.endpoint, (receiver.tls.map FileTlsConfig.into).getD .disabled⟩ :=
  parsed_eq_ok

theorem intoProcessorConfig_eq_ok {processor : FileProcessorConfig} {name : String} {config : ProcessorConfig} :
    processor.intoProcessorConfig name = .ok config ↔ ∃ kind, processorKindOf (normalizeToken name) = some kind ∧
      config = ⟨name, kind, processor.enabled.getD true⟩ :=
  parsed_eq_ok

theorem intoExporterConfig_eq_ok {exporter : FileExporterConfig} {name : String} {config : ExporterConfig} :
    exporter.intoExporterConfig name = .ok config ↔ ∃ protocol,
      exporterProtocolOf (normalizeToken exporter.protocol) = some protocol ∧
        config = ⟨name, protocol, exporter.endpoint, (exporter.tls.map FileTlsConfig.into).getD .disabled,
          (exporter.retry.map FileExporterRetryConfig.into).getD .default⟩ :=
  parsed_eq_ok

theorem intoRouteConfig_eq_ok {route : FileRouteConfig} {signal : String} {config : RouteConfig} :
    route.intoRouteConfig signal = .ok config ↔ ∃ kind, SignalKind.fromToken (normalizeToken signal) = some kind ∧
      config = ⟨kind, route.exporters⟩ :=
  parsed_eq_ok

/-! ### Files -/

/-- What a file is turned into, before it is checked. -/
def FilePipelineConfig.assembled (file : FilePipelineConfig) (receivers : List ReceiverConfig)
    (processors : List ProcessorConfig) (exporters : List ExporterConfig) (routes : List RouteConfig) : PipelineConfig :=
  withDefaultProcessors {
    tenantId := file.tenant
    name := file.pipeline.getD "default"
    receivers := receivers
    processors := processors
    exporters := exporters
    routes := routes
    limits := (file.limits.map FileTenantLimits.intoTenantLimits).getD .default }

theorem intoPipelineConfig_eq_ok {file : FilePipelineConfig} {config : PipelineConfig} :
    file.intoPipelineConfig = .ok config ↔ ∃ receivers processors exporters routes,
      collect FileReceiverConfig.intoReceiverConfig file.receivers = .ok receivers ∧
      collect FileProcessorConfig.intoProcessorConfig (file.processors.getD .empty) = .ok processors ∧
      collect FileExporterConfig.intoExporterConfig file.exporters = .ok exporters ∧
      collect FileRouteConfig.intoRouteConfig file.routes = .ok routes ∧
      (file.assembled receivers processors exporters routes).validate = .ok () ∧
      config = file.assembled receivers processors exporters routes := by
  unfold FilePipelineConfig.intoPipelineConfig FilePipelineConfig.assembled
  simp only [bind_eq_ok_iff]
  constructor
  · rintro ⟨receivers, first, processors, second, exporters, third, routes, fourth, done⟩
    refine ⟨receivers, processors, exporters, routes, first, second, third, fourth, ?_⟩
    split at done
    next => cases done
    next valid =>
      cases done
      exact ⟨valid, rfl⟩
  · rintro ⟨receivers, processors, exporters, routes, first, second, third, fourth, valid, rfl⟩
    refine ⟨receivers, first, processors, second, exporters, third, routes, fourth, ?_⟩
    rw [valid]
    rfl

/-- What is asked of a file beyond its types. -/
structure FilePipelineConfig.Accepted (file : FilePipelineConfig) : Prop where
  tenant : isBlank file.tenant = false
  name : isBlank (file.pipeline.getD "default") = false
  sections : file.receivers.entries ≠ [] ∧ file.exporters.entries ≠ [] ∧ file.routes.entries ≠ []
  limits : PositiveLimits ((file.limits.map FileTenantLimits.intoTenantLimits).getD .default)
  receivers : ∀ binding ∈ file.receivers.entries, isBlank binding.1 = false ∧
    (receiverProtocolOf (normalizeToken binding.2.protocol)).isSome = true
  processors : ∀ binding ∈ (file.processors.getD .empty).entries, isBlank binding.1 = false ∧
    (processorKindOf (normalizeToken binding.1)).isSome = true
  exporters : ∀ binding ∈ file.exporters.entries, isBlank binding.1 = false ∧
    (exporterProtocolOf (normalizeToken binding.2.protocol)).isSome = true ∧
    PositiveRetry ((binding.2.retry.map FileExporterRetryConfig.into).getD .default)
  routes : ∀ binding ∈ file.routes.entries, (SignalKind.fromToken (normalizeToken binding.1)).isSome = true ∧
    binding.2.exporters ≠ [] ∧ ∀ name ∈ binding.2.exporters, name ∈ file.exporters.keys

/-- The names of the results are the keys of the map. -/
theorem names_of_collect {α β : Type} {into : α → String → Except ConfigFileError β} {map : OrderedMap String α}
    {results : List β} {name : β → String} (collected : collect into map = .ok results)
    (named : ∀ value key result, into value key = .ok result → name result = key) : results.map name = map.keys :=
  (map_eq_map_of_forall₂ (collect_eq_ok.mp collected) fun _ _ made => (named _ _ _ made).symm).symm

theorem nil_of_collect {α β : Type} {into : α → String → Except ConfigFileError β} {map : OrderedMap String α}
    {results : List β} (collected : collect into map = .ok results) : results = [] ↔ map.entries = [] := by
  have same := (collect_eq_ok.mp collected).length_eq
  rw [← List.length_eq_zero_iff, ← List.length_eq_zero_iff, same]

/-- The checks of names: those of the map must not be blank. -/
theorem names_accepted {α : Type} {map : OrderedMap String α} {names : List String} (same : names = map.keys) :
    ((∀ name ∈ names, isBlank name = false) ∧ names.Nodup) ↔ ∀ binding ∈ map.entries, isBlank binding.1 = false := by
  subst same
  have nodup := map.nodup_keys
  unfold OrderedMap.keys at nodup ⊢
  rw [List.forall_mem_map]
  exact ⟨fun both => both.1, fun solid => ⟨solid, nodup⟩⟩

/-- The default processors pass the check of names, as no processors would. -/
theorem assembled_validate {file : FilePipelineConfig} {receivers : List ReceiverConfig} {processors : List ProcessorConfig}
    {exporters : List ExporterConfig} {routes : List RouteConfig} :
    (file.assembled receivers processors exporters routes).validate = .ok () ↔
      isBlank file.tenant = false ∧ isBlank (file.pipeline.getD "default") = false ∧ receivers ≠ [] ∧ exporters ≠ [] ∧
      routes ≠ [] ∧ PositiveLimits ((file.limits.map FileTenantLimits.intoTenantLimits).getD .default) ∧
      (∀ exporter ∈ exporters, PositiveRetry exporter.retry) ∧
      ((∀ name ∈ receivers.map ReceiverConfig.name, isBlank name = false) ∧ (receivers.map ReceiverConfig.name).Nodup) ∧
      ((∀ name ∈ exporters.map ExporterConfig.name, isBlank name = false) ∧ (exporters.map ExporterConfig.name).Nodup) ∧
      ((∀ name ∈ processors.map ProcessorConfig.name, isBlank name = false) ∧ (processors.map ProcessorConfig.name).Nodup) ∧
      ∀ route ∈ routes, route.exporters ≠ [] ∧ ∀ name ∈ route.exporters, name ∈ exporters.map ExporterConfig.name := by
  have defaults : (∀ name ∈ PipelineConfig.default.processors.map ProcessorConfig.name, isBlank name = false) ∧
      (PipelineConfig.default.processors.map ProcessorConfig.name).Nodup := by decide
  have nothing : (∀ name ∈ ([] : List ProcessorConfig).map ProcessorConfig.name, isBlank name = false) ∧
      (([] : List ProcessorConfig).map ProcessorConfig.name).Nodup := by decide
  rw [validate_eq_ok]
  unfold FilePipelineConfig.assembled withDefaultProcessors PipelineConfig.exporterNames
  cases processors with
  | nil =>
    simp only [List.isEmpty_nil, if_true]
    rw [iff_true_intro defaults, iff_true_intro nothing]
  | cons processor rest => rfl

theorem exists_collect_iff {α β : Type} {into : α → String → Except ConfigFileError β} {map : OrderedMap String α} :
    (∃ results, collect into map = .ok results) ↔ ∀ binding ∈ map.entries, ∃ result, into binding.2 binding.1 = .ok result := by
  simp only [collect_eq_ok]
  exact exists_forall₂_iff

/-- A file becomes a configuration exactly when it is accepted. -/
theorem exists_intoPipelineConfig_iff {file : FilePipelineConfig} :
    (∃ config, file.intoPipelineConfig = .ok config) ↔ file.Accepted := by
  have receiverNames : ∀ value key result, FileReceiverConfig.intoReceiverConfig value key = .ok result → result.name = key := by
    intro value key result made
    obtain ⟨protocol, -, rfl⟩ := intoReceiverConfig_eq_ok.mp made
    rfl
  have processorNames : ∀ value key result, FileProcessorConfig.intoProcessorConfig value key = .ok result →
      result.name = key := by
    intro value key result made
    obtain ⟨kind, -, rfl⟩ := intoProcessorConfig_eq_ok.mp made
    rfl
  have exporterNames : ∀ value key result, FileExporterConfig.intoExporterConfig value key = .ok result →
      result.name = key := by
    intro value key result made
    obtain ⟨protocol, -, rfl⟩ := intoExporterConfig_eq_ok.mp made
    rfl
  constructor
  · rintro ⟨config, made⟩
    obtain ⟨receivers, processors, exporters, routes, madeReceivers, madeProcessors, madeExporters, madeRoutes, valid, -⟩ :=
      intoPipelineConfig_eq_ok.mp made
    obtain ⟨tenant, name, someReceiver, someExporter, someRoute, limits, retries, receiversNamed, exportersNamed,
      processorsNamed, routed⟩ := assembled_validate.mp valid
    have keys := names_of_collect madeExporters exporterNames
    refine ⟨tenant, name, ⟨?_, ?_, ?_⟩, limits, ?_, ?_, ?_, ?_⟩
    · exact mt (nil_of_collect madeReceivers).mpr someReceiver
    · exact mt (nil_of_collect madeExporters).mpr someExporter
    · exact mt (nil_of_collect madeRoutes).mpr someRoute
    · intro binding member
      obtain ⟨result, one⟩ := exists_collect_iff.mp ⟨receivers, madeReceivers⟩ binding member
      obtain ⟨protocol, known, -⟩ := intoReceiverConfig_eq_ok.mp one
      exact ⟨(names_accepted (names_of_collect madeReceivers receiverNames)).mp receiversNamed binding member,
        Option.isSome_of_eq_some known⟩
    · intro binding member
      obtain ⟨result, one⟩ := exists_collect_iff.mp ⟨processors, madeProcessors⟩ binding member
      obtain ⟨kind, known, -⟩ := intoProcessorConfig_eq_ok.mp one
      exact ⟨(names_accepted (names_of_collect madeProcessors processorNames)).mp processorsNamed binding member,
        Option.isSome_of_eq_some known⟩
    · intro binding member
      obtain ⟨result, listed, one⟩ := exists_right_of_forall₂ (collect_eq_ok.mp madeExporters) member
      have positive := retries result listed
      obtain ⟨protocol, known, rfl⟩ := intoExporterConfig_eq_ok.mp one
      exact ⟨(names_accepted keys).mp exportersNamed binding member, Option.isSome_of_eq_some known, positive⟩
    · intro binding member
      obtain ⟨result, listed, one⟩ := exists_right_of_forall₂ (collect_eq_ok.mp madeRoutes) member
      obtain ⟨someName, known⟩ := routed result listed
      obtain ⟨signal, token, rfl⟩ := intoRouteConfig_eq_ok.mp one
      rw [keys] at known
      exact ⟨Option.isSome_of_eq_some token, someName, known⟩
  · intro accepted
    obtain ⟨receivers, madeReceivers⟩ :
        ∃ receivers, collect FileReceiverConfig.intoReceiverConfig file.receivers = .ok receivers := by
      refine exists_collect_iff.mpr fun binding member => ?_
      obtain ⟨protocol, known⟩ := Option.isSome_iff_exists.mp (accepted.receivers binding member).2
      exact ⟨_, intoReceiverConfig_eq_ok.mpr ⟨protocol, known, rfl⟩⟩
    obtain ⟨processors, madeProcessors⟩ :
        ∃ processors, collect FileProcessorConfig.intoProcessorConfig (file.processors.getD .empty) = .ok processors := by
      refine exists_collect_iff.mpr fun binding member => ?_
      obtain ⟨kind, known⟩ := Option.isSome_iff_exists.mp (accepted.processors binding member).2
      exact ⟨_, intoProcessorConfig_eq_ok.mpr ⟨kind, known, rfl⟩⟩
    obtain ⟨exporters, madeExporters⟩ :
        ∃ exporters, collect FileExporterConfig.intoExporterConfig file.exporters = .ok exporters := by
      refine exists_collect_iff.mpr fun binding member => ?_
      obtain ⟨protocol, known⟩ := Option.isSome_iff_exists.mp (accepted.exporters binding member).2.1
      exact ⟨_, intoExporterConfig_eq_ok.mpr ⟨protocol, known, rfl⟩⟩
    obtain ⟨routes, madeRoutes⟩ : ∃ routes, collect FileRouteConfig.intoRouteConfig file.routes = .ok routes := by
      refine exists_collect_iff.mpr fun binding member => ?_
      obtain ⟨signal, known⟩ := Option.isSome_iff_exists.mp (accepted.routes binding member).1
      exact ⟨_, intoRouteConfig_eq_ok.mpr ⟨signal, known, rfl⟩⟩
    have keys := names_of_collect madeExporters exporterNames
    refine ⟨_, intoPipelineConfig_eq_ok.mpr ⟨receivers, processors, exporters, routes, madeReceivers, madeProcessors,
      madeExporters, madeRoutes, assembled_validate.mpr ?_, rfl⟩⟩
    refine ⟨accepted.tenant, accepted.name, ?_, ?_, ?_, accepted.limits, ?_, ?_, ?_, ?_, ?_⟩
    · exact mt (nil_of_collect madeReceivers).mp accepted.sections.1
    · exact mt (nil_of_collect madeExporters).mp accepted.sections.2.1
    · exact mt (nil_of_collect madeRoutes).mp accepted.sections.2.2
    · intro exporter member
      obtain ⟨binding, listed, one⟩ := exists_left_of_forall₂ (collect_eq_ok.mp madeExporters) member
      obtain ⟨protocol, -, rfl⟩ := intoExporterConfig_eq_ok.mp one
      exact (accepted.exporters binding listed).2.2
    · exact (names_accepted (names_of_collect madeReceivers receiverNames)).mpr fun binding member =>
        (accepted.receivers binding member).1
    · exact (names_accepted keys).mpr fun binding member => (accepted.exporters binding member).1
    · exact (names_accepted (names_of_collect madeProcessors processorNames)).mpr fun binding member =>
        (accepted.processors binding member).1
    · intro route member
      obtain ⟨binding, listed, one⟩ := exists_left_of_forall₂ (collect_eq_ok.mp madeRoutes) member
      obtain ⟨signal, -, rfl⟩ := intoRouteConfig_eq_ok.mp one
      rw [keys]
      exact (accepted.routes binding listed).2

end TelemetryFabric.Agent
