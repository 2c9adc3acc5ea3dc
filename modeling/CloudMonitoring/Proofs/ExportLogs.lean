import CloudMonitoring.Proofs.Operations
import CloudMonitoring.Proofs.UnsupportedMetrics
import Mathlib.Algebra.Ring.Nat

/-!
What the log of an export tells of it. Each point of a supported metric either begins a series or takes
the place of an earlier point, and only the second is logged; a metric that is left out is named, and a
call is announced before it is made. So the log and the series together account for every record, every
point and every call, also when a refusal cuts the export short.
-/

namespace CloudMonitoring

namespace Log.Event

def registering (descriptor : Descriptor) : Log.Event :=
  ⟨.trace, "Registering metric descriptor", [("metric", .shown descriptor.metricType)]⟩

def notRegistered (error : ExportError) : Log.Event :=
  ⟨.warn, "Failed to create metric descriptors", [("error", .shown error.message)]⟩

def writing (mode : WriteMode) (number size : Nat) : Log.Event :=
  ⟨.debug, "Writing time series",
    [("batch", .int number), ("size", .int size), ("service", .bool (mode = .service))]⟩

end Log.Event

namespace Log

def told (message : String) (events : List Event) : List Event :=
  events.filter fun event => event.message = message

def warnings (events : List Event) : List Event := events.filter fun event => event.level = .warn

theorem told_append (message : String) (first second : List Event) :
    told message (first ++ second) = told message first ++ told message second :=
  List.filter_append ..

theorem warnings_append (first second : List Event) :
    warnings (first ++ second) = warnings first ++ warnings second :=
  List.filter_append ..

def AllSay (level : Level) (message : String) (events : List Event) : Prop :=
  ∀ event ∈ events, event.level = level ∧ event.message = message

namespace AllSay

variable {level : Level} {said : String} {events : List Event}

theorem of_map {α : Type} {say : α → Event} (same : ∀ item, (say item).level = level ∧
    (say item).message = said) (items : List α) : AllSay level said (items.map say) := by
  intro event member
  obtain ⟨item, _, rfl⟩ := List.mem_map.mp member
  exact same item

theorem told_eq (all : AllSay level said events) (message : String) :
    told message events = if said = message then events else [] := by
  split
  · rename_i same
    exact List.filter_eq_self.mpr fun event member => by simp [(all event member).2, same]
  · rename_i other
    exact List.filter_eq_nil_iff.mpr fun event member => by simp [(all event member).2, other]

theorem warnings_eq (all : AllSay level said events) :
    warnings events = if level = .warn then events else [] := by
  split
  · rename_i warns
    exact List.filter_eq_self.mpr fun event member => by simp [(all event member).1, warns]
  · rename_i calm
    exact List.filter_eq_nil_iff.mpr fun event member => by simp [(all event member).1, calm]

end AllSay

end Log

def MetricData.size : MetricData → Nat
  | .longGauge points | .longSum points => points.length
  | .doubleGauge points | .doubleSum points => points.length
  | .histogram points => points.length
  | .summary points => points.length

theorem Naming.length_samplesOf (naming : Naming) {metric : MetricRecord}
    (supported : metric.isSummary = false) :
    (naming.samplesOf metric).length = metric.data.size := by
  obtain ⟨_, _, _, _, data⟩ := metric
  cases data with
  | summary points => simp [MetricRecord.isSummary] at supported
  | longGauge points | doubleGauge points | longSum points | doubleSum points | histogram points =>
      simp [samplesOf, samples, MetricRecord.types, MetricData.types?, Except.map, MetricData.values,
        MetricData.size]

theorem Naming.length_allSamples (naming : Naming) (records : List MetricRecord) :
    (naming.allSamples records).length =
      ((records.filter fun metric => !metric.isSummary).map fun metric => metric.data.size).sum := by
  rw [← naming.allSamples_filter, allSamples, List.length_flatMap]
  congr 1
  apply List.map_congr_left
  intro metric member
  exact naming.length_samplesOf (by simpa using (List.mem_filter.mp member).2)

namespace Aggregation

theorem length_place (sample : Sample) (series : List (SeriesKey × Pending)) :
    (place sample series).1.length =
      if (place sample series).2 then series.length else series.length + 1 := by
  have sizes := congrArg List.length (keys_place sample series)
  cases found : Pairs.get? sample.key series with
  | some earlier =>
      have known : sample.key ∈ Pairs.keys series := by
        by_contra absent
        rw [(Pairs.get?_eq_none_iff _ _).mpr absent] at found
        contradiction
      have replaced : (place sample series).2 = true := by simp [place, found]
      rw [if_pos known] at sizes
      rw [if_pos replaced]
      simpa [Pairs.keys] using sizes
  | none =>
      have absent := (Pairs.get?_eq_none_iff _ _).mp found
      have appended : (place sample series).2 = false := by simp [place, found]
      rw [if_neg absent] at sizes
      rw [appended]
      simpa [Pairs.keys] using sizes

theorem length_add (aggregation : Aggregation) (sample : Sample) :
    (aggregation.add sample).1.series.length + (aggregation.add sample).2.length =
      aggregation.series.length + 1 := by
  have placed := length_place sample aggregation.series
  cases replaced : (place sample aggregation.series).2 with
  | true => simpa [add, replaced] using placed
  | false => simpa [add, replaced] using placed

theorem length_addAll (aggregation : Aggregation) (samples : List Sample) :
    (aggregation.addAll samples).1.series.length + (aggregation.addAll samples).2.length =
      aggregation.series.length + samples.length := by
  induction samples generalizing aggregation with
  | nil => rfl
  | cons sample rest ih =>
      have step := aggregation.length_add sample
      have later := ih (aggregation.add sample).1
      simp only [addAll, List.length_append, List.length_cons]
      omega

theorem told_skipping_recordAll (naming : Naming) (aggregation : Aggregation)
    (records : List MetricRecord) :
    Log.told "Skipping metric" (aggregation.recordAll naming records).2 =
      (records.filter fun metric => metric.isSummary).map .skipping := by
  induction records generalizing aggregation with
  | nil => rfl
  | cons metric rest ih =>
      cases summary : metric.isSummary with
      | true =>
          have skipped : Log.told "Skipping metric" (aggregation.recordAll naming (metric :: rest)).2 =
              .skipping metric :: Log.told "Skipping metric" (aggregation.recordAll naming rest).2 := by
            simp only [recordAll, record_of_isSummary naming aggregation summary]
            rfl
          rw [skipped, ih, List.filter_cons_of_pos (by simpa using summary), List.map_cons]
      | false =>
          -- Its points may be logged as replaced, but that is another message.
          have silent : Log.told "Skipping metric"
              (aggregation.addAll (naming.samplesOf metric)).2 = [] := by
            rw [Log.told, List.filter_eq_nil_iff]
            intro event member
            obtain ⟨metricType, rfl⟩ := replacing_of_mem_addAll member
            simp [Log.Event.replacing]
          rw [List.filter_cons_of_neg (by simp [summary]), ← ih]
          simp only [recordAll, record_of_not_isSummary naming aggregation summary, Log.told,
            List.filter_append] at silent ⊢
          rw [silent, List.nil_append]

theorem events_of_recordAll {naming : Naming} {aggregation : Aggregation}
    {records : List MetricRecord} {event : Log.Event}
    (member : event ∈ (aggregation.recordAll naming records).2) :
    (∃ metric, event = .skipping metric) ∨ ∃ metricType, event = .replacing metricType := by
  cases skipped : event.isSkip with
  | true =>
      have told : event ∈ Log.told "Skipping metric" (aggregation.recordAll naming records).2 :=
        List.mem_filter.mpr ⟨member, skipped⟩
      rw [told_skipping_recordAll] at told
      obtain ⟨metric, _, rfl⟩ := List.mem_map.mp told
      exact .inl ⟨metric, rfl⟩
  | false =>
      have added : event ∈ (aggregation.recordAll naming records).2.filter fun one => !one.isSkip :=
        List.mem_filter.mpr ⟨member, by simpa using skipped⟩
      rw [recordAll_events] at added
      exact .inr (replacing_of_mem_addAll added)

theorem told_replacing_recordAll (naming : Naming) (aggregation : Aggregation)
    (records : List MetricRecord) :
    Log.told "Replacing point recorded earlier in this export"
        (aggregation.recordAll naming records).2 =
      (aggregation.addAll (naming.allSamples records)).2 := by
  rw [← recordAll_events, Log.told]
  apply List.filter_congr
  intro event member
  rcases events_of_recordAll member with ⟨metric, rfl⟩ | ⟨metricType, rfl⟩
  · simp [Log.Event.isSkip, Log.Event.skipping]
  · simp [Log.Event.isSkip, Log.Event.replacing]

theorem told_recordAll_of_other {message : String} (skip : message ≠ "Skipping metric")
    (replace : message ≠ "Replacing point recorded earlier in this export") (naming : Naming)
    (aggregation : Aggregation) (records : List MetricRecord) :
    Log.told message (aggregation.recordAll naming records).2 = [] := by
  rw [Log.told, List.filter_eq_nil_iff]
  intro event member
  rcases events_of_recordAll member with ⟨metric, rfl⟩ | ⟨metricType, rfl⟩
  · simp [Log.Event.skipping, skip.symm]
  · simp [Log.Event.replacing, replace.symm]

theorem warnings_recordAll (naming : Naming) (aggregation : Aggregation)
    (records : List MetricRecord) :
    Log.warnings (aggregation.recordAll naming records).2 = [] := by
  rw [Log.warnings, List.filter_eq_nil_iff]
  intro event member
  rcases events_of_recordAll member with ⟨metric, rfl⟩ | ⟨metricType, rfl⟩
  · simp [Log.Event.skipping]
  · simp [Log.Event.replacing]

end Aggregation

theorem Strategy.register_logs {State : Type} (strategy : Strategy) (descriptors : List Descriptor)
    (respond : Responder Descriptor CallResult State) (state : State) :
    (strategy.register descriptors respond state).logs =
      ((strategy.register descriptors respond state).asked.map Prod.fst).map .registering := by
  induction descriptors generalizing strategy state with
  | nil => rfl
  | cons descriptor rest ih =>
      rw [register]
      by_cases isWanted : strategy.wants descriptor
      · simp only [isWanted, if_true, Session.bind_logs, Session.bind_asked, Session.log_eq,
          Session.ask_eq, List.nil_append, List.singleton_append]
        cases answer : (respond state descriptor).1 with
        | ok => exact congrArg (.registering descriptor :: ·) (ih (strategy.remember descriptor) _)
        | error error => rfl
      · rw [if_neg isWanted]
        exact ih strategy state

namespace Exporter

variable {State : Type}

def registrationEvents (exchanges : List (Call × CallResult)) : List Log.Event :=
  (exchanges.filterMap fun exchange => exchange.1.descriptor?).map .registering

def writeEvents (mode : WriteMode) (first : Nat) (writes : List (Call × CallResult)) :
    List Log.Event :=
  (writes.zipIdx first).map fun (write, number) => .writing mode number write.1.payload.length

def refusalEvents : CallResult → List Log.Event
  | .ok () => []
  | .error error => [.notRegistered error]

theorem registerAll_logs (exporter : Exporter) (descriptors : List Descriptor)
    (respond : Responder Call CallResult State) (state : State) :
    let registered := exporter.registerAll descriptors respond state
    registered.logs =
      registrationEvents registered.asked ++ refusalEvents (outcome registered.asked) := by
  intro registered
  by_cases asks : exporter.mode = .plain ∧ descriptors ≠ []
  · obtain ⟨-, -, asked⟩ := registerAll_plain asks.1 descriptors respond state
    have announced := exporter.strategy.register_logs descriptors (fun current descriptor =>
      respond current (.createDescriptor exporter.projectName descriptor)) state
    have result := exporter.strategy.register_result descriptors (fun current descriptor =>
      respond current (.createDescriptor exporter.projectName descriptor)) state
    rw [registrationEvents, asked, outcome_rephrased, List.filterMap_map]
    simp only [registered, registerAll, asks, ne_eq, not_false_eq_true, and_self, if_true,
      Session.bind_logs, Session.rephrase]
    -- The strategy asks for descriptors, and what is asked here are the calls that carry them.
    generalize exporter.strategy.register descriptors _ state = inner at announced result ⊢
    have named : inner.asked.map Prod.fst =
        inner.asked.filterMap ((fun exchange => exchange.1.descriptor?) ∘ fun exchange =>
          (Call.createDescriptor exporter.projectName exchange.1, exchange.2)) :=
      (congrFun List.filterMap_eq_map inner.asked).symm
    rw [announced, result, named]
    cases outcome inner.asked with
    | ok => rfl
    | error error => rfl
  · simp [registered, registerAll, asks, outcome, registrationEvents, refusalEvents]

theorem writeBatches_logs (mode : WriteMode) (project : String) (number : Nat)
    (parts : List (List Series)) (respond : Responder Call CallResult State) (state : State) :
    let written := writeBatches mode project number parts respond state
    written.logs = writeEvents mode number written.asked := by
  induction parts generalizing number state with
  | nil => rfl
  | cons part rest ih =>
      simp only [writeBatches, Session.bind_asked, Session.bind_logs, Session.log_eq, Session.ask_eq,
        List.nil_append, List.singleton_append]
      cases answer : (respond state (.write mode project part)).1 with
      | ok => exact congrArg (.writing mode number part.length :: ·) (ih (number + 1) _)
      | error error => rfl

theorem exportRecords_logs {exporter : Exporter} {records : List MetricRecord}
    {series : List Series} {intervals : IntervalTable} (running : exporter.isShutdown = false)
    (finished : exporter.settled records = some (series, intervals))
    (respond : Responder Call CallResult State) (state : State) :
    let registered := exporter.registerAll (exporter.descriptors records) respond state
    let written := writeBatches exporter.mode exporter.projectName 0 (batches series) respond
      registered.state
    (exporter.exportRecords records respond state).logs =
      (exporter.aggregate records).2 ++ (registered.logs ++ (written.logs ++
        failureEvents series.length records.length
          (concluded series.length records.length written.result))) := by
  simp only [settled] at finished
  simp only [exportRecords, running, finished, descriptors, Session.logAll, Session.bind_logs,
    Bool.false_eq_true, if_false]
  -- What is logged at the end depends on the two rounds only through the result of the second.
  generalize exporter.registerAll _ respond state = registered
  generalize writeBatches _ _ 0 _ respond registered.state = written
  cases written.result with
  | error error => simp [concluded, failureEvents]
  | ok =>
      by_cases dropped : series.length < records.length
      · simp [concluded, conclude, dropped, Nat.not_le.mpr dropped, failureEvents]
      · simp [concluded, conclude, dropped, Nat.not_lt.mp dropped, failureEvents]

theorem registrationEvents_append_writes {writes : List (Call × CallResult)}
    (areWrites : ∀ exchange ∈ writes, exchange.1.isWrite) (exchanges : List (Call × CallResult)) :
    registrationEvents (exchanges ++ writes) = registrationEvents exchanges := by
  have none : (writes.filterMap fun exchange => exchange.1.descriptor?) = [] := by
    rw [List.filterMap_eq_nil_iff]
    intro exchange member
    by_contra registers
    have noWrite := Call.not_isWrite_of_descriptor? (Option.isSome_iff_ne_none.mpr registers)
    rw [areWrites exchange member] at noWrite
    contradiction
  rw [registrationEvents, List.filterMap_append, none, List.append_nil, registrationEvents]

theorem exportRecords_logs_calls {exporter : Exporter} {records : List MetricRecord}
    {series : List Series} {intervals : IntervalTable} (running : exporter.isShutdown = false)
    (finished : exporter.settled records = some (series, intervals))
    (respond : Responder Call CallResult State) (state : State) :
    let transcript := exporter.exportRecords records respond state
    transcript.logs = (exporter.aggregate records).2 ++
      ((registrationEvents transcript.asked ++
          refusalEvents (outcome (registrationsOf transcript.asked))) ++
        (writeEvents exporter.mode 0 (writesOf transcript.asked) ++
          failureEvents series.length records.length transcript.result.1)) := by
  intro transcript
  obtain ⟨result, asked, -⟩ := exportRecords_settled running finished respond state
  have writes := isWrite_of_mem_writeBatches exporter.mode exporter.projectName 0 (batches series)
    respond (exporter.registerAll (exporter.descriptors records) respond state).state
  obtain ⟨registered, written⟩ :=
    rounds_apart (exporter.registers_of_mem_registerAll records respond state) writes
  rw [exportRecords_logs running finished, registerAll_logs, writeBatches_logs]
  simp only [transcript]
  rw [result, asked, registered, written, registrationEvents_append_writes writes]

theorem allSay_registrationEvents (exchanges : List (Call × CallResult)) :
    Log.AllSay .trace "Registering metric descriptor" (registrationEvents exchanges) := by
  refine .of_map ?_ _
  intro descriptor
  exact ⟨rfl, rfl⟩

theorem allSay_writeEvents (mode : WriteMode) (first : Nat) (writes : List (Call × CallResult)) :
    Log.AllSay .debug "Writing time series" (writeEvents mode first writes) := by
  refine .of_map ?_ _
  intro numbered
  exact ⟨rfl, rfl⟩

theorem allSay_refusalEvents (result : CallResult) :
    Log.AllSay .warn "Failed to create metric descriptors" (refusalEvents result) := by
  cases result with
  | ok => simp [refusalEvents, Log.AllSay]
  | error error => simp [refusalEvents, Log.AllSay, Log.Event.notRegistered]

theorem allSay_failureEvents (series metrics : Nat) (exported : Exported) :
    Log.AllSay .debug "Some metrics produced no series" (failureEvents series metrics exported) := by
  cases exported with
  | done outcome => cases outcome <;> simp [failureEvents, Log.AllSay]
  | failed error => simp [failureEvents, Log.AllSay]
  | undated => simp [failureEvents, Log.AllSay]

theorem told_exportRecords {exporter : Exporter} {records : List MetricRecord}
    {series : List Series} {intervals : IntervalTable} (running : exporter.isShutdown = false)
    (finished : exporter.settled records = some (series, intervals))
    (respond : Responder Call CallResult State) (state : State) (message : String) :
    let transcript := exporter.exportRecords records respond state
    Log.told message transcript.logs = Log.told message (exporter.aggregate records).2 ++
      (((if "Registering metric descriptor" = message then registrationEvents transcript.asked
          else []) ++
        if "Failed to create metric descriptors" = message then
          refusalEvents (outcome (registrationsOf transcript.asked)) else []) ++
      ((if "Writing time series" = message then
          writeEvents exporter.mode 0 (writesOf transcript.asked) else []) ++
        if "Some metrics produced no series" = message then
          failureEvents series.length records.length transcript.result.1 else [])) := by
  intro transcript
  simp only [transcript, exportRecords_logs_calls running finished, Log.told_append]
  rw [(allSay_registrationEvents _).told_eq, (allSay_refusalEvents _).told_eq,
    (allSay_writeEvents _ _ _).told_eq, (allSay_failureEvents _ _ _).told_eq]

theorem warnings_exportRecords {exporter : Exporter} {records : List MetricRecord}
    {series : List Series} {intervals : IntervalTable} (running : exporter.isShutdown = false)
    (finished : exporter.settled records = some (series, intervals))
    (respond : Responder Call CallResult State) (state : State) :
    let transcript := exporter.exportRecords records respond state
    Log.warnings transcript.logs = refusalEvents (outcome (registrationsOf transcript.asked)) := by
  intro transcript
  simp only [transcript, exportRecords_logs_calls running finished, Log.warnings_append]
  rw [aggregate, Aggregation.warnings_recordAll, (allSay_registrationEvents _).warnings_eq,
    (allSay_refusalEvents _).warnings_eq, (allSay_writeEvents _ _ _).warnings_eq,
    (allSay_failureEvents _ _ _).warnings_eq]
  simp

structure LogAccounts (exporter : Exporter) (records : List MetricRecord) (series : List Series)
    (exchanges : List (Call × CallResult)) (logs : List Log.Event) : Prop where
  skipped : Log.told "Skipping metric" logs =
    (records.filter fun metric => metric.isSummary).map .skipping
  points : ((records.filter fun metric => !metric.isSummary).map fun metric => metric.data.size).sum =
    series.length + (Log.told "Replacing point recorded earlier in this export" logs).length
  registered : Log.told "Registering metric descriptor" logs = registrationEvents exchanges
  refused : ∀ exchange ∈ registrationsOf exchanges, ∀ error, exchange.2 = .error error →
    Log.warnings logs = [.notRegistered error]
  accepted : (∀ exchange ∈ registrationsOf exchanges, exchange.2 = .ok ()) → Log.warnings logs = []
  written : Log.told "Writing time series" logs = writeEvents exporter.mode 0 (writesOf exchanges)

theorem length_settled {exporter : Exporter} {records : List MetricRecord} {series : List Series}
    {intervals : IntervalTable} (finished : exporter.settled records = some (series, intervals)) :
    series.length = (exporter.aggregate records).1.series.length := by
  have keys := congrArg List.length (keys_settled finished)
  rw [List.length_map, seriesKeys, ← Aggregation.keys_series, ← aggregate_fst] at keys
  simpa [Pairs.keys] using keys

theorem points_eq {exporter : Exporter} {records : List MetricRecord} {series : List Series}
    {intervals : IntervalTable} (finished : exporter.settled records = some (series, intervals)) :
    ((records.filter fun metric => !metric.isSummary).map fun metric => metric.data.size).sum =
      series.length + (Log.told "Replacing point recorded earlier in this export"
        (exporter.aggregate records).2).length := by
  have conserved := Aggregation.empty.length_addAll (exporter.naming.allSamples records)
  rw [exporter.naming.length_allSamples] at conserved
  rw [length_settled finished, aggregate_fst, aggregate, Aggregation.told_replacing_recordAll]
  simpa [Aggregation.empty, Aggregation.ofSamples] using conserved.symm

/-- The log of every export that is not broken off by a date accounts for what the export did, whatever
the service answers. -/
theorem logs_account (exporter : Exporter) (records : List MetricRecord)
    (respond : Responder Call CallResult State) (state : State)
    (running : exporter.isShutdown = false) :
    let transcript := exporter.exportRecords records respond state
    transcript.result.1 ≠ .undated →
      ∃ series intervals, exporter.settled records = some (series, intervals) ∧
        exporter.LogAccounts records series transcript.asked transcript.logs := by
  intro transcript dated
  cases finished : exporter.settled records with
  | none =>
      have undated := (exportRecords_undated running finished respond state).1
      exact absurd (congrArg Prod.fst undated) dated
  | some found =>
      obtain ⟨series, intervals⟩ := found
      have told := told_exportRecords running finished respond state
      have warned := warnings_exportRecords running finished respond state
      obtain ⟨-, registered, -⟩ := exportRecords_rounds running finished respond state
      refine ⟨series, intervals, rfl, ?_, ?_, ?_, ?_, ?_, ?_⟩
      · simpa [aggregate, Aggregation.told_skipping_recordAll] using told "Skipping metric"
      · rw [points_eq finished, told]
        simp
      · simpa [aggregate, Aggregation.told_recordAll_of_other] using
          told "Registering metric descriptor"
      · rintro ⟨call, answer⟩ member error rfl
        rw [warned, registered.outcome_of_mem member]
        rfl
      · intro accepted
        rw [warned, (outcome_eq_ok_iff _).mpr accepted]
        rfl
      · simpa [aggregate, Aggregation.told_recordAll_of_other] using told "Writing time series"

theorem logs_account_refused :
    let exporter : Exporter := { starting "my-project" ⟨0⟩ with
      naming := ⟨defaultPrefix, some ⟨"host", []⟩⟩ }
    let records : List MetricRecord :=
      [⟨"load", "", "", [], .longGauge [⟨1, .empty, ⟨10⟩, ⟨10⟩⟩, ⟨2, .empty, ⟨20⟩, ⟨20⟩⟩]⟩,
        ⟨"delay", "", "", [], .summary [⟨.empty, ⟨0⟩, ⟨10⟩, 1, .zero⟩]⟩]
    let respond : Responder Call CallResult Unit := fun state call =>
      (if call.isWrite then .ok () else .error (.rpc "refused"), state)
    let transcript := exporter.exportRecords records respond ()
    exporter.isShutdown = false ∧ transcript.result.1 = .done .failure ∧
      transcript.logs.map (·.message) =
        ["Replacing point recorded earlier in this export", "Skipping metric",
          "Registering metric descriptor", "Failed to create metric descriptors",
          "Writing time series", "Some metrics produced no series"] ∧
      ∃ series intervals, exporter.settled records = some (series, intervals) ∧
        exporter.LogAccounts records series transcript.asked transcript.logs := by
  intro exporter records respond transcript
  have failed : transcript.result.1 = .done .failure := by decide +kernel
  have dated : transcript.result.1 ≠ .undated := by rw [failed]; simp
  exact ⟨rfl, failed, by decide +kernel, logs_account exporter records respond () rfl dated⟩

end Exporter

end CloudMonitoring
