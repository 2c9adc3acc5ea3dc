import CloudMonitoring.Proofs.Calls

/-!
Metrics without a supported shape leave nothing behind. One such metric is refused before any of its
points is recorded; and wherever it stands among the records of an export, the export computes, keeps
and sends the same without it. It shows in the log and in how the export is said to have ended.
-/

namespace CloudMonitoring

def MetricRecord.isSummary (metric : MetricRecord) : Bool :=
  match metric.data with
  | .summary _ => true
  | _ => false

theorem MetricRecord.types_of_isSummary {metric : MetricRecord} (summary : metric.isSummary = true) :
    metric.types = .error (.unsupportedShape metric.name "Summary") := by
  obtain ⟨_, _, _, _, data⟩ := metric
  cases data with
  | summary points => rfl
  | longGauge points | doubleGauge points | longSum points | doubleSum points | histogram points =>
      simp [isSummary] at summary

theorem MetricRecord.types_of_not_isSummary {metric : MetricRecord}
    (supported : metric.isSummary = false) : ∃ types, metric.types = .ok types := by
  obtain ⟨_, _, _, _, data⟩ := metric
  cases data with
  | summary points => simp [isSummary] at supported
  | longGauge points | doubleGauge points | longSum points | doubleSum points | histogram points =>
      exact ⟨_, rfl⟩

theorem Naming.samplesOf_of_isSummary (naming : Naming) {metric : MetricRecord}
    (summary : metric.isSummary = true) : naming.samplesOf metric = [] := by
  simp [samplesOf, samples, MetricRecord.types_of_isSummary summary, Except.map]

theorem Naming.allSamples_cons (naming : Naming) (metric : MetricRecord)
    (rest : List MetricRecord) :
    naming.allSamples (metric :: rest) = naming.samplesOf metric ++ naming.allSamples rest :=
  List.flatMap_cons

theorem Naming.allSamples_filter (naming : Naming) (records : List MetricRecord) :
    naming.allSamples (records.filter fun metric => !metric.isSummary) =
      naming.allSamples records := by
  induction records with
  | nil => rfl
  | cons metric rest ih =>
      cases summary : metric.isSummary with
      | true =>
          rw [List.filter_cons_of_neg (by simp [summary]), ih, allSamples_cons,
            naming.samplesOf_of_isSummary summary, List.nil_append]
      | false =>
          rw [List.filter_cons_of_pos (by simp [summary]), allSamples_cons, ih, allSamples_cons]

structure Recording where
  result : Except ExportError Unit
  aggregation : Aggregation
  events : List Log.Event

namespace Aggregation

/-- Records points one after another, each under a descriptor of its own, and stays with what is
recorded so far when one of them is refused. -/
def recordPoints (naming : Naming) (metric : MetricRecord) :
    Aggregation → List (Labels × Instant × TypedValue) → Recording
  | aggregation, [] => ⟨.ok (), aggregation, []⟩
  | aggregation, (labels, time, value) :: rest =>
      match metric.descriptor naming.metricPrefix labels with
      | .error error => ⟨.error error, aggregation, []⟩
      | .ok descriptor =>
          let resource := MonitoredResource.choose naming.description
            (AttributeValue.flatten metric.resource)
          let (next, events) := aggregation.add ⟨descriptor, labels, resource, time, value⟩
          let later := recordPoints naming metric next rest
          { later with events := events ++ later.events }

def recordInPlace (naming : Naming) (aggregation : Aggregation) (metric : MetricRecord) : Recording :=
  match metric.types with
  | .error error => ⟨.error error, aggregation, []⟩
  | .ok _ => aggregation.recordPoints naming metric metric.data.values

theorem addAll_append_events (aggregation : Aggregation) (first second : List Sample) :
    (aggregation.addAll (first ++ second)).2 =
      (aggregation.addAll first).2 ++ ((aggregation.addAll first).1.addAll second).2 := by
  induction first generalizing aggregation with
  | nil => rfl
  | cons sample rest ih => simp [addAll, ih]

theorem recordPoints_supported {naming : Naming} {metric : MetricRecord}
    {types : MetricKind × ValueType} (supported : metric.types = .ok types)
    (aggregation : Aggregation) (points : List (Labels × Instant × TypedValue)) :
    let added := aggregation.addAll (points.map fun (labels, time, value) =>
      ⟨metric.describe naming.metricPrefix types labels, labels,
        MonitoredResource.choose naming.description (AttributeValue.flatten metric.resource),
        time, value⟩)
    aggregation.recordPoints naming metric points = ⟨.ok (), added.1, added.2⟩ := by
  induction points generalizing aggregation with
  | nil => rfl
  | cons point rest ih =>
      obtain ⟨labels, time, value⟩ := point
      have described : metric.descriptor naming.metricPrefix labels =
          .ok (metric.describe naming.metricPrefix types labels) := by
        simp [MetricRecord.descriptor, supported, Except.map]
      simp only [recordPoints, described, ih]
      rfl

theorem recordInPlace_of_isSummary (naming : Naming) (aggregation : Aggregation)
    {metric : MetricRecord} (summary : metric.isSummary = true) :
    aggregation.recordInPlace naming metric =
      ⟨.error (.unsupportedShape metric.name "Summary"), aggregation, []⟩ := by
  rw [recordInPlace, MetricRecord.types_of_isSummary summary]

theorem recordInPlace_of_not_isSummary (naming : Naming) (aggregation : Aggregation)
    {metric : MetricRecord} (supported : metric.isSummary = false) :
    let added := aggregation.addAll (naming.samplesOf metric)
    aggregation.recordInPlace naming metric = ⟨.ok (), added.1, added.2⟩ := by
  obtain ⟨types, found⟩ := MetricRecord.types_of_not_isSummary supported
  rw [recordInPlace, found]
  simp only [recordPoints_supported found, Naming.samplesOf, Naming.samples, found, Except.map]

theorem record_eq_inPlace (naming : Naming) (aggregation : Aggregation) (metric : MetricRecord) :
    let recorded := aggregation.recordInPlace naming metric
    aggregation.record naming metric =
      recorded.result.map fun _ => (recorded.aggregation, recorded.events) := by
  cases summary : metric.isSummary with
  | true =>
      rw [recordInPlace_of_isSummary naming aggregation summary]
      simp [record, Naming.samples, MetricRecord.types_of_isSummary summary, Except.map]
  | false =>
      obtain ⟨types, found⟩ := MetricRecord.types_of_not_isSummary summary
      rw [recordInPlace_of_not_isSummary naming aggregation summary]
      simp [record, Naming.samplesOf, Naming.samples, found, Except.map]

end Aggregation

namespace Log.Event

def skipping (metric : MetricRecord) : Log.Event :=
  ⟨.error, "Skipping metric", [("metric", .shown metric.name),
    ("error", .shown (ExportError.unsupportedShape metric.name "Summary").message)]⟩

def replacing (metricType : String) : Log.Event :=
  ⟨.trace, "Replacing point recorded earlier in this export", [("metric", .shown metricType)]⟩

def isSkip (event : Log.Event) : Bool := event.message = "Skipping metric"

end Log.Event

namespace Aggregation

theorem record_of_isSummary (naming : Naming) (aggregation : Aggregation) {metric : MetricRecord}
    (summary : metric.isSummary = true) :
    aggregation.record naming metric = .error (.unsupportedShape metric.name "Summary") := by
  rw [record_eq_inPlace, recordInPlace_of_isSummary naming aggregation summary]
  rfl

theorem record_of_not_isSummary (naming : Naming) (aggregation : Aggregation)
    {metric : MetricRecord} (supported : metric.isSummary = false) :
    aggregation.record naming metric = .ok (aggregation.addAll (naming.samplesOf metric)) := by
  rw [record_eq_inPlace, recordInPlace_of_not_isSummary naming aggregation supported]
  rfl

theorem replacing_of_mem_addAll {aggregation : Aggregation} {samples : List Sample}
    {event : Log.Event} (member : event ∈ (aggregation.addAll samples).2) :
    ∃ metricType, event = .replacing metricType := by
  induction samples generalizing aggregation with
  | nil => simp [addAll] at member
  | cons sample rest ih =>
      simp only [addAll, List.mem_append] at member
      rcases member with now | later
      · simp only [add] at now
        split at now
        · exact ⟨sample.descriptor.metricType, List.mem_singleton.mp now⟩
        · simp at now
      · exact ih later

theorem not_isSkip_of_mem_addAll {aggregation : Aggregation} {samples : List Sample}
    {event : Log.Event} (member : event ∈ (aggregation.addAll samples).2) :
    event.isSkip = false := by
  obtain ⟨metricType, rfl⟩ := replacing_of_mem_addAll member
  rfl

theorem recordAll_events (naming : Naming) (aggregation : Aggregation)
    (records : List MetricRecord) :
    ((aggregation.recordAll naming records).2.filter fun event => !event.isSkip) =
      (aggregation.addAll (naming.allSamples records)).2 := by
  induction records generalizing aggregation with
  | nil => rfl
  | cons metric rest ih =>
      rw [Naming.allSamples_cons, addAll_append_events]
      cases summary : metric.isSummary with
      | true =>
          have skipped : (Log.Event.skipping metric).isSkip = true := rfl
          simp only [Log.Event.skipping] at skipped
          simp [recordAll, record_of_isSummary naming aggregation summary,
            naming.samplesOf_of_isSummary summary, ih, addAll, skipped]
      | false =>
          have kept : ((aggregation.addAll (naming.samplesOf metric)).2.filter fun event =>
              !event.isSkip) = (aggregation.addAll (naming.samplesOf metric)).2 := by
            rw [List.filter_eq_self]
            intro event member
            rw [not_isSkip_of_mem_addAll member]
            rfl
          simp [recordAll, record_of_not_isSummary naming aggregation summary, ih, kept]

end Aggregation

namespace Exporter

variable {State : Type}

def sendAll (exporter : Exporter) (aggregation : Aggregation) (metrics : Nat) :
    CallSession State (Exported × Exporter) :=
  match aggregation.finish exporter.intervals with
  | none => return (.undated, exporter)
  | some (series, intervals) => do
      let strategy ← exporter.registerAll aggregation.descriptorList
      let next := { exporter with strategy := strategy, intervals := intervals }
      match ← writeBatches exporter.mode exporter.projectName 0 (batches series) with
      | .ok () => return (← conclude series.length metrics, next)
      | .error error => return (.failed error, next)

theorem exportRecords_eq_sendAll {exporter : Exporter} (running : exporter.isShutdown = false)
    (records : List MetricRecord) (respond : Responder Call CallResult State) (state : State) :
    exporter.exportRecords records respond state =
      { exporter.sendAll (exporter.aggregate records).1 records.length respond state with
        logs := (exporter.aggregate records).2 ++
          (exporter.sendAll (exporter.aggregate records).1 records.length respond state).logs } := by
  simp only [exportRecords, running, Bool.false_eq_true, if_false, sendAll]
  rfl

def failureEvents (series metrics : Nat) : Exported → List Log.Event
  | .done .failure => [⟨.debug, "Some metrics produced no series",
      [("series", .int series), ("metrics", .int metrics)]⟩]
  | _ => []

theorem filter_failureEvents (series metrics : Nat) (exported : Exported) :
    ((failureEvents series metrics exported).filter fun event => !event.isSkip) =
      failureEvents series metrics exported := by
  cases exported with
  | done outcome => cases outcome <;> rfl
  | failed error => rfl
  | undated => rfl

def SameEnd (one other : Exported) : Prop :=
  one = other ∨ ∃ first second, one = .done first ∧ other = .done second

theorem conclude_eq (series metrics : Nat) (respond : Responder Call CallResult State)
    (state : State) : ∃ outcome,
    conclude series metrics respond state =
      ⟨.done outcome, state, [], failureEvents series metrics (.done outcome)⟩ := by
  by_cases dropped : series < metrics
  · refine ⟨.failure, ?_⟩
    rw [conclude, if_pos dropped]
    rfl
  · refine ⟨.success, ?_⟩
    rw [conclude, if_neg dropped]
    rfl

theorem sendAll_metrics (exporter : Exporter) (aggregation : Aggregation) (metrics others : Nat)
    (respond : Responder Call CallResult State) (state : State) :
    let one := exporter.sendAll aggregation metrics respond state
    let other := exporter.sendAll aggregation others respond state
    SameEnd one.result.1 other.result.1 ∧ one.result.2 = other.result.2 ∧ one.state = other.state ∧
      one.asked = other.asked ∧
      ∃ series sent, one.logs = sent ++ failureEvents series metrics one.result.1 ∧
        other.logs = sent ++ failureEvents series others other.result.1 := by
  simp only [sendAll]
  cases aggregation.finish exporter.intervals with
  | none => exact ⟨.inl rfl, rfl, rfl, rfl, 0, [], rfl, rfl⟩
  | some settled =>
      obtain ⟨series, intervals⟩ := settled
      simp only [Session.bind_result, Session.bind_state, Session.bind_asked, Session.bind_logs]
      generalize exporter.registerAll aggregation.descriptorList respond state = registered
      generalize writeBatches _ _ 0 _ respond registered.state = written
      cases written.result with
      | error error =>
          refine ⟨.inl rfl, rfl, rfl, rfl, 0, registered.logs ++ written.logs, ?_, ?_⟩
          · simp [failureEvents]
          · simp [failureEvents]
      | ok =>
          obtain ⟨first, concluded⟩ := conclude_eq series.length metrics respond written.state
          obtain ⟨second, concludedToo⟩ := conclude_eq series.length others respond written.state
          simp only [Session.bind_result, Session.bind_state, Session.bind_asked,
            Session.bind_logs, concluded, concludedToo, Session.pure_eq]
          refine ⟨.inr ⟨first, second, rfl, rfl⟩, trivial, trivial, trivial, series.length,
            registered.logs ++ written.logs, ?_, ?_⟩
          · simp
          · simp

theorem aggregate_congr (exporter : Exporter) {records others : List MetricRecord}
    (same : (records.filter fun metric => !metric.isSummary) =
      others.filter fun metric => !metric.isSummary) :
    (exporter.aggregate records).1 = (exporter.aggregate others).1 ∧
      ((exporter.aggregate records).2.filter fun event => !event.isSkip) =
        (exporter.aggregate others).2.filter fun event => !event.isSkip := by
  have samples : exporter.naming.allSamples records = exporter.naming.allSamples others := by
    rw [← exporter.naming.allSamples_filter records, same, exporter.naming.allSamples_filter]
  refine ⟨?_, ?_⟩
  · rw [aggregate_fst, aggregate_fst, samples]
  · rw [aggregate, aggregate, Aggregation.recordAll_events, Aggregation.recordAll_events, samples]

/-- A summary, and only a summary, is refused, and then nothing is left of it, although its points are
recorded one by one and each of them may be refused; of every other metric all points are recorded.
Wherever summaries stand among the records of an export, its descriptors and series, its calls, the
exporter after it and the state of the service are the same without them. It may be a failure instead
of a success, and the log tells which metrics were left out and, of a failure, how many metrics there
were. -/
theorem summaries_leave_no_trace :
    (∀ (naming : Naming) (aggregation : Aggregation) (metric : MetricRecord),
      let recorded := aggregation.recordInPlace naming metric
      aggregation.record naming metric =
          recorded.result.map (fun _ => (recorded.aggregation, recorded.events)) ∧
        ((∃ error, recorded.result = .error error) ↔ metric.isSummary) ∧
        (metric.isSummary → recorded.aggregation = aggregation ∧ recorded.events = []) ∧
        (¬ metric.isSummary →
          (recorded.aggregation, recorded.events) = aggregation.addAll (naming.samplesOf metric))) ∧
    ∀ (exporter : Exporter) (records others : List MetricRecord)
      (respond : Responder Call CallResult State) (state : State),
      (records.filter fun metric => !metric.isSummary) =
          (others.filter fun metric => !metric.isSummary) →
        let one := exporter.exportRecords records respond state
        let other := exporter.exportRecords others respond state
        exporter.descriptors records = exporter.descriptors others ∧
        exporter.settled records = exporter.settled others ∧
        one.asked = other.asked ∧ one.state = other.state ∧ one.result.2 = other.result.2 ∧
        SameEnd one.result.1 other.result.1 ∧
        ∃ series kept,
          (one.logs.filter fun event => !event.isSkip) =
              kept ++ failureEvents series records.length one.result.1 ∧
          (other.logs.filter fun event => !event.isSkip) =
              kept ++ failureEvents series others.length other.result.1 := by
  refine ⟨?_, ?_⟩
  · intro naming aggregation metric recorded
    refine ⟨aggregation.record_eq_inPlace naming metric, ?_⟩
    cases summary : metric.isSummary with
    | true =>
        have refused := aggregation.recordInPlace_of_isSummary naming summary
        simp [recorded, refused]
    | false =>
        have taken := aggregation.recordInPlace_of_not_isSummary naming summary
        simp [recorded, taken]
  · intro exporter records others respond state same
    obtain ⟨folded, replaced⟩ := exporter.aggregate_congr same
    refine ⟨by rw [descriptors, descriptors, folded], by rw [settled, settled, folded], ?_⟩
    cases running : exporter.isShutdown with
    | true =>
        simp only [exportRecords, running, if_true, Session.pure_eq]
        exact ⟨trivial, trivial, trivial, .inl rfl, 0, [], rfl, rfl⟩
    | false =>
        rw [exportRecords_eq_sendAll running records, exportRecords_eq_sendAll running others, ← folded]
        obtain ⟨ends, next, reached, asked, series, sent, logs, logsToo⟩ :=
          exporter.sendAll_metrics (exporter.aggregate records).1 records.length others.length respond
            state
        refine ⟨asked, reached, next, ends, series, ((exporter.aggregate others).2.filter fun event =>
          !event.isSkip) ++ sent.filter fun event => !event.isSkip, ?_, ?_⟩
        · rw [List.filter_append, logs, List.filter_append, filter_failureEvents, replaced,
            List.append_assoc]
        · rw [List.filter_append, logsToo, List.filter_append, filter_failureEvents,
            List.append_assoc]

theorem summaries_leave_no_trace_refused :
    let exporter : Exporter := { starting "my-project" ⟨0⟩ with
      naming := ⟨defaultPrefix, some ⟨"host", []⟩⟩ }
    let load : MetricRecord := ⟨"load", "", "", [], .longGauge [⟨1, .empty, ⟨10⟩, ⟨10⟩⟩]⟩
    let delay : MetricRecord := ⟨"delay", "", "", [], .summary [⟨.empty, ⟨0⟩, ⟨10⟩, 1, .zero⟩]⟩
    let refuse : Responder Call CallResult Unit := fun state _ => (.error (.rpc "refused"), state)
    let recorded := (exporter.aggregate [load]).1
    let one := exporter.exportRecords [delay, load, delay] refuse ()
    let other := exporter.exportRecords [load] refuse ()
    (delay.isSummary = true ∧ (recorded.recordInPlace exporter.naming delay).aggregation = recorded) ∧
    (¬ load.isSummary ∧ ((recorded.recordInPlace exporter.naming load).aggregation,
        (recorded.recordInPlace exporter.naming load).events) =
      recorded.addAll (exporter.naming.samplesOf load)) ∧
    ([delay, load, delay].filter fun metric => !metric.isSummary) =
      ([load].filter fun metric => !metric.isSummary) ∧
    one.asked = other.asked ∧ one.asked.length = 2 ∧ one.result.2 = other.result.2 := by
  intro exporter load delay refuse recorded one other
  have supported : ([delay, load, delay].filter fun metric => !metric.isSummary) =
      [load].filter fun metric => !metric.isSummary := rfl
  obtain ⟨alone, together⟩ := @summaries_leave_no_trace Unit
  obtain ⟨_, _, refused, _⟩ := alone exporter.naming recorded delay
  obtain ⟨_, _, _, taken⟩ := alone exporter.naming recorded load
  obtain ⟨_, _, asked, _, next, _⟩ := together exporter _ _ refuse () supported
  exact ⟨⟨rfl, (refused rfl).1⟩, ⟨by decide, taken (by decide)⟩, supported, asked, by decide +kernel,
    next⟩

/-- Of two failures, the one with more summaries tells of more metrics. -/
theorem failure_counts_summaries :
    let exporter := starting "my-project" ⟨1000000000000⟩
    let delay : MetricRecord := ⟨"delay", "", "", [], .summary [⟨.empty, ⟨0⟩, ⟨0⟩, 1, .zero⟩]⟩
    let accept : Responder Call CallResult Unit := fun state _ => (.ok (), state)
    let one := exporter.exportRecords [delay] accept ()
    let other := exporter.exportRecords [delay, delay] accept ()
    ([delay].filter fun metric => !metric.isSummary) =
      ([delay, delay].filter fun metric => !metric.isSummary) ∧
    one.result.1 = .done .failure ∧ other.result.1 = .done .failure ∧
    (one.logs.filter fun event => !event.isSkip) ≠ other.logs.filter fun event => !event.isSkip := by
  decide +kernel

end Exporter

end CloudMonitoring
