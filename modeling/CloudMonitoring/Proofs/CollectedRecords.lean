import CloudMonitoring.Export.Push
import Mathlib.Data.List.Forall2

/-!
From collected metrics to records. Every metric makes one record, in order, unless it is an exponential
histogram; a record has the points of its metric, and a number changes only where it is too large to be
recorded. A push sends what an export of the records sends, and succeeds when that does and nothing was
skipped.
-/

namespace CloudMonitoring

inductive Measured
  | int (value : Int)
  | double (value : Double)
  | histogram (count : UInt64) (sum : Double) (bounds : List Double) (bucketCounts : List UInt64)
deriving DecidableEq

structure Reading where
  labels : Labels
  start : Instant
  time : Instant
  measured : Measured
deriving DecidableEq

def NumberPoint.reading {α : Type} (number : α → Measured) (point : NumberPoint α) : Reading :=
  ⟨point.labels, point.start, point.time, number point.value⟩

def MetricData.readings : MetricData → List Reading
  | .longGauge points | .longSum points => points.map (·.reading fun value => .int value.toInt)
  | .doubleGauge points | .doubleSum points => points.map (·.reading .double)
  | .histogram points => points.map fun point =>
      ⟨point.labels, point.start, point.time,
        .histogram point.count point.sum point.bounds point.bucketCounts⟩
  | .summary _ => []

namespace Collected

variable {α : Type}

def readings (number : α → Measured) (toDouble : α → Double) : Collected α → List Reading
  | gauge start time points => points.map fun (attributes, value) =>
      ⟨attributes.labels, start.getD time, time, number value⟩
  | sum _ start time points => points.map fun (attributes, value) =>
      ⟨attributes.labels, start, time, number value⟩
  | histogram start time points => points.map fun point =>
      ⟨point.attributes.labels, start, time,
        .histogram point.count (toDouble point.sum) point.bounds point.bucketCounts⟩
  | exponentialHistogram => []

def shape? (gaugeShape sumShape : String) : Collected α → Option String
  | gauge .. => some gaugeShape
  | sum isMonotonic .. => some (if isMonotonic then sumShape else gaugeShape)
  | histogram .. => some "Histogram"
  | exponentialHistogram => none

def isExponential : Collected α → Bool
  | exponentialHistogram => true
  | _ => false

end Collected

namespace CollectedData

def readings : CollectedData → List Reading
  | natural points =>
      points.readings (fun value => .int (min value.toNat Int64.maxValue.toInt)) Double.ofUInt64
  | int points => points.readings (fun value => .int value.toInt) Double.ofInt64
  | double points => points.readings .double id

def shape? : CollectedData → Option String
  | natural points => points.shape? "LongGauge" "LongSum"
  | int points => points.shape? "LongGauge" "LongSum"
  | double points => points.shape? "DoubleGauge" "DoubleSum"

def counts : CollectedData → List UInt64
  | natural (.gauge _ _ points) | natural (.sum _ _ _ points) => points.map Prod.snd
  | _ => []

def isExponential : CollectedData → Bool
  | natural points => points.isExponential
  | int points => points.isExponential
  | double points => points.isExponential

end CollectedData

structure Records (resource : List (String × AttributeValue)) (metric : CollectedMetric)
    (record : MetricRecord) : Prop where
  name : record.name = metric.name
  description : record.description = metric.description
  unit : record.unit = metric.unit
  resource : record.resource = resource
  shape : some record.data.shape = metric.data.shape?
  readings : record.data.readings = metric.data.readings

theorem toInt_saturate (value : UInt64) :
    (saturate value).toInt = min (value.toNat : Int) Int64.maxValue.toInt := by
  unfold saturate
  split
  · rename_i fits
    have largest : Int64.maxValue.toInt = 9223372036854775807 := rfl
    rw [Int64.toInt_ofNat_of_lt (by omega)]
    omega
  · omega

namespace Attributes

theorem get?_labels (attributes : Attributes) (key : String) :
    attributes.labels.get? key =
      ((attributes.filter fun entry => entry.1 = key).getLast?).map fun entry => entry.2.toText := by
  rw [labels, AttributeValue.flatten, Dict.get?_ofList, List.filter_map, List.getLast?_map,
    Option.map_map]
  rfl

theorem get?_labels_of_last {before after : Attributes} {key text : String}
    (last : key ∉ Pairs.keys after) :
    (labels (before ++ (key, .text text) :: after)).get? key = some text := by
  have others : (after.filter fun entry => entry.1 = key) = [] := by
    refine List.filter_eq_nil_iff.mpr fun entry listed => ?_
    have different : entry.1 ≠ key := fun same => last (List.mem_map.mpr ⟨entry, listed, same⟩)
    simpa using different
  rw [get?_labels, List.filter_append, List.filter_cons_of_pos (by simp), others,
    List.getLast?_concat]
  rfl

end Attributes

structure RecordedAs (α : Type) [Recordable α] (number : α → Measured)
    (gaugeShape sumShape : String) : Prop where
  gauge_shape : ∀ points : List (NumberPoint α), (Recordable.gauge points).shape = gaugeShape
  sum_shape : ∀ points : List (NumberPoint α), (Recordable.sum points).shape = sumShape
  gauge_readings : ∀ points : List (NumberPoint α),
    (Recordable.gauge points).readings = points.map (·.reading number)
  sum_readings : ∀ points : List (NumberPoint α),
    (Recordable.sum points).readings = points.map (·.reading number)

theorem recordedAs_int :
    RecordedAs Int64 (fun value => .int value.toInt) "LongGauge" "LongSum" :=
  ⟨fun _ => rfl, fun _ => rfl, fun _ => rfl, fun _ => rfl⟩

theorem recordedAs_double : RecordedAs Double .double "DoubleGauge" "DoubleSum" :=
  ⟨fun _ => rfl, fun _ => rfl, fun _ => rfl, fun _ => rfl⟩

theorem recordedAs_natural :
    RecordedAs UInt64 (fun value => .int (min value.toNat Int64.maxValue.toInt))
      "LongGauge" "LongSum" := by
  have saturated (points : List (NumberPoint UInt64)) :
      (points.map (·.map saturate)).map (·.reading fun value => Measured.int value.toInt) =
        points.map (·.reading fun value => .int (min value.toNat Int64.maxValue.toInt)) := by
    rw [List.map_map]
    apply List.map_congr_left
    intro point _
    simp [NumberPoint.reading, NumberPoint.map, toInt_saturate]
  exact ⟨fun _ => rfl, fun _ => rfl, saturated, saturated⟩

namespace Collected

variable {α : Type} [Recordable α] {number : α → Measured} {gaugeShape sumShape : String}
  {collected : Collected α} {data : MetricData}

omit [Recordable α] in
theorem readings_numberPoints (number : α → Measured) (start time : Instant)
    (points : List (Attributes × α)) :
    (numberPoints start time points).map (·.reading number) = points.map fun (attributes, value) =>
      ⟨attributes.labels, start, time, number value⟩ := by
  rw [numberPoints, List.map_map]
  rfl

theorem records_of_data? (recorded : RecordedAs α number gaugeShape sumShape)
    (found : collected.data? = some data) :
    some data.shape = collected.shape? gaugeShape sumShape ∧
      data.readings = collected.readings number Recordable.toDouble := by
  cases collected with
  | gauge start time points =>
      obtain rfl := Option.some.inj found
      refine ⟨congrArg some (recorded.gauge_shape _), ?_⟩
      rw [recorded.gauge_readings, readings_numberPoints, readings]
  | sum isMonotonic start time points =>
      cases isMonotonic with
      | true =>
          obtain rfl := Option.some.inj found
          refine ⟨congrArg some (recorded.sum_shape _), ?_⟩
          rw [recorded.sum_readings, readings_numberPoints, readings]
      | false =>
          -- a sum that may go down is recorded as a gauge
          obtain rfl := Option.some.inj found
          refine ⟨congrArg some (recorded.gauge_shape _), ?_⟩
          rw [recorded.gauge_readings, readings_numberPoints, readings]
  | histogram start time points =>
      obtain rfl := Option.some.inj found
      refine ⟨rfl, ?_⟩
      rw [MetricData.readings, List.map_map]
      rfl
  | exponentialHistogram => simp [data?] at found

end Collected

theorem CollectedData.records_of_data? {collected : CollectedData} {data : MetricData}
    (found : collected.data? = some data) :
    some data.shape = collected.shape? ∧ data.readings = collected.readings := by
  cases collected with
  | natural points => exact Collected.records_of_data? recordedAs_natural found
  | int points => exact Collected.records_of_data? recordedAs_int found
  | double points => exact Collected.records_of_data? recordedAs_double found

theorem CollectedMetric.records_of_record? {resource : List (String × AttributeValue)}
    {metric : CollectedMetric} {record : MetricRecord}
    (found : metric.record? resource = some record) : Records resource metric record := by
  obtain ⟨data, converted, rfl⟩ := Option.map_eq_some_iff.mp found
  obtain ⟨shape, readings⟩ := CollectedData.records_of_data? converted
  exact ⟨rfl, rfl, rfl, rfl, shape, readings⟩

theorem CollectedMetric.measured_of_count {resource : List (String × AttributeValue)}
    {metric : CollectedMetric} {record : MetricRecord} {position : Nat} {count : UInt64}
    (found : metric.record? resource = some record)
    (counted : metric.data.counts[position]? = some count) :
    (record.data.readings[position]?).map Reading.measured =
      some (.int (min count.toNat Int64.maxValue.toInt)) := by
  rw [(records_of_record? found).readings]
  cases data : metric.data with
  | natural points =>
      rw [data] at counted
      cases points with
      | gauge start time points | sum isMonotonic start time points =>
          simp only [CollectedData.counts, List.getElem?_map, Option.map_eq_some_iff] at counted
          obtain ⟨point, listed, rfl⟩ := counted
          simp [CollectedData.readings, Collected.readings, listed]
      | histogram start time points => simp [CollectedData.counts] at counted
      | exponentialHistogram => simp [CollectedData.counts] at counted
  | int points => simp [data, CollectedData.counts] at counted
  | double points => simp [data, CollectedData.counts] at counted

theorem Collected.data?_isNone {α : Type} [Recordable α] (collected : Collected α) :
    collected.data?.isNone = collected.isExponential := by
  cases collected with
  | gauge start time points => rfl
  | sum isMonotonic start time points => cases isMonotonic <;> rfl
  | histogram start time points => rfl
  | exponentialHistogram => rfl

theorem CollectedData.data?_isNone (collected : CollectedData) :
    collected.data?.isNone = collected.isExponential := by
  cases collected with
  | natural points => exact points.data?_isNone
  | int points => exact points.data?_isNone
  | double points => exact points.data?_isNone

theorem forall₂_filterMap {α β : Type} {relation : α → β → Prop} {change : α → Option β}
    (each : ∀ item result, change item = some result → relation item result) (items : List α) :
    List.Forall₂ relation (items.filter fun item => !(change item).isNone) (items.filterMap change) := by
  induction items with
  | nil => exact .nil
  | cons head rest ih =>
      cases changed : change head with
      | none =>
          rw [List.filter_cons_of_neg (by simp [changed]), List.filterMap_cons_none changed]
          exact ih
      | some result =>
          rw [List.filter_cons_of_pos (by simp [changed]), List.filterMap_cons_some changed]
          exact .cons (each head result changed) ih

namespace Collection

theorem records_forall₂ (collection : Collection) :
    List.Forall₂ (Records collection.resource)
      (collection.metrics.filter fun metric => !metric.data.isExponential) collection.records := by
  have kept (metric : CollectedMetric) :
      (metric.record? collection.resource).isNone = metric.data.isExponential := by
    rw [CollectedMetric.record?, Option.isNone_map, CollectedData.data?_isNone]
  have each : ∀ metric record, metric.record? collection.resource = some record →
      Records collection.resource metric record := fun _ _ found =>
    CollectedMetric.records_of_record? found
  simpa only [records, kept] using forall₂_filterMap each collection.metrics

theorem length_skipped (collection : Collection) :
    collection.skipped.length = collection.metrics.countP fun metric => metric.data.isExponential := by
  simp only [skipped, CollectedData.data?_isNone, List.countP_eq_length_filter]

end Collection

namespace Exporter

variable {State : Type}

def reported (skipped : Nat) : Exported → Pushed
  | .undated => .undated
  | .failed error => .refused error.toPushError
  | .done outcome =>
      if skipped = 0 ∧ outcome = .success then .done
      else .refused (.internalFailure "some metrics produced no time series")

theorem report_transcript (skipped records : Nat) (exported : Exported)
    (respond : Responder Call CallResult State) (state : State) :
    let transcript := report skipped records exported respond state
    transcript.result = reported skipped exported ∧ transcript.asked = [] ∧
      transcript.state = state := by
  cases exported with
  | undated => exact ⟨rfl, rfl, rfl⟩
  | failed error => exact ⟨rfl, rfl, rfl⟩
  | done outcome =>
      by_cases complete : skipped = 0 ∧ outcome = .success
      · simp [report, reported, complete]
      · have lacking : 0 < skipped ∨ outcome = .failure := by
          cases outcome with
          | success => exact .inl (Nat.pos_of_ne_zero fun none => complete ⟨none, rfl⟩)
          | failure => exact .inr rfl
        simp [report, reported, complete, lacking]

theorem push_transcript (exporter : Exporter) (collection : Collection)
    (respond : Responder Call CallResult State) (state : State) :
    let exported := exporter.exportRecords collection.records respond state
    let pushed := exporter.push collection respond state
    pushed.result = (reported collection.skipped.length exported.result.1, exported.result.2) ∧
      pushed.asked = exported.asked ∧ pushed.state = exported.state := by
  intro exported pushed
  obtain ⟨result, asked, same⟩ := report_transcript collection.skipped.length
    collection.records.length exported.result.1 respond exported.state
  refine ⟨?_, ?_, ?_⟩
  · exact congrArg (·, exported.result.2) result
  · simp only [pushed, push, Session.logAll, Session.bind_asked, Session.pure_eq, List.nil_append,
      List.append_nil]
    exact (congrArg (exported.asked ++ ·) asked).trans (List.append_nil _)
  · exact same

theorem reported_eq_done_iff (skipped : Nat) (exported : Exported) :
    reported skipped exported = .done ↔ exported = .done .success ∧ skipped = 0 := by
  cases exported with
  | undated => simp [reported]
  | failed error => simp [reported]
  | done outcome => simp [reported, and_comm]

/-- Every metric but the exponential histograms is recorded with all its points, in order, and the
others are counted. Unsigned numbers keep their order, and a push is an export of the records that
succeeds only when nothing was skipped. -/
theorem push_keeps_measurements (exporter : Exporter) (collection : Collection)
    (respond : Responder Call CallResult State) (state : State) :
    let exported := exporter.exportRecords collection.records respond state
    let pushed := exporter.push collection respond state
    List.Forall₂ (Records collection.resource)
      (collection.metrics.filter fun metric => !metric.data.isExponential) collection.records ∧
    collection.skipped.length =
      (collection.metrics.countP fun metric => metric.data.isExponential) ∧
    (∀ (attributes : Attributes) (key : String), attributes.labels.get? key =
      ((attributes.filter fun entry => entry.1 = key).getLast?).map fun entry => entry.2.toText) ∧
    (∀ (before after : Attributes) (key text : String), key ∉ Pairs.keys after →
      (Attributes.labels (before ++ (key, .text text) :: after)).get? key = some text) ∧
    (∀ (resource others : List (String × AttributeValue)) (metric other : CollectedMetric)
        (record later : MetricRecord) (position place : Nat) (first second : UInt64),
      metric.record? resource = some record → other.record? others = some later →
      metric.data.counts[position]? = some first → other.data.counts[place]? = some second →
      first ≤ second →
      ∃ low high, (record.data.readings[position]?).map Reading.measured = some (.int low) ∧
        (later.data.readings[place]?).map Reading.measured = some (.int high) ∧
        0 ≤ low ∧ low ≤ high) ∧
    (pushed.asked = exported.asked ∧ pushed.state = exported.state ∧
      pushed.result.2 = exported.result.2) ∧
    (pushed.result.1 = .done ↔
      exported.result.1 = .done .success ∧ collection.skipped.length = 0) ∧
    ∀ error, exported.result.1 = .failed error → pushed.result.1 = .refused error.toPushError := by
  intro exported pushed
  obtain ⟨result, asked, same⟩ := exporter.push_transcript collection respond state
  refine ⟨collection.records_forall₂, collection.length_skipped, Attributes.get?_labels, ?_, ?_,
    ⟨asked, same, congrArg Prod.snd result⟩, ?_, ?_⟩
  · exact fun before after key text => Attributes.get?_labels_of_last
  · intro resource others metric other record later position place first second found foundToo
      counted countedToo inOrder
    have inNumbers : first.toNat ≤ second.toNat := UInt64.le_iff_toNat_le.mp inOrder
    have largest : 0 ≤ Int64.maxValue.toInt := by decide
    exact ⟨_, _, CollectedMetric.measured_of_count found counted,
      CollectedMetric.measured_of_count foundToo countedToo, by omega, by omega⟩
  · rw [congrArg Prod.fst result]
    exact reported_eq_done_iff _ _
  · intro error failed
    rw [congrArg Prod.fst result, failed]
    rfl

theorem push_keeps_measurements_saturated :
    let exporter : Exporter := { starting "my-project" ⟨0⟩ with
      naming := ⟨defaultPrefix, some ⟨"host", []⟩⟩ }
    let attributes : Attributes :=
      [("host", .text "first"), ("attempt", .int 2), ("host", .text "second"), ("path", .text "/")]
    let counter (value : UInt64) : CollectedMetric :=
      ⟨"requests", "", "1", .natural (.sum true ⟨0⟩ ⟨10⟩ [(attributes, value)])⟩
    let delay : CollectedMetric := ⟨"delay", "", "ms", .double .exponentialHistogram⟩
    let collection : Collection := ⟨[], [[delay], [counter 18446744073709551615]]⟩
    let refuse : Responder Call CallResult Unit := fun state _ => (.error (.rpc "refused"), state)
    let exported := exporter.exportRecords collection.records refuse ()
    let pushed := exporter.push collection refuse ()
    collection.records.length = 1 ∧ collection.skipped.length = 1 ∧
    (∃ record later low high, (counter 7).record? [] = some record ∧
      (counter 18446744073709551615).record? [] = some later ∧
      (counter 7).data.counts[0]? = some 7 ∧
      (counter 18446744073709551615).data.counts[0]? = some 18446744073709551615 ∧
      (7 : UInt64) ≤ 18446744073709551615 ∧
      (record.data.readings[0]?).map Reading.measured = some (.int low) ∧
      (later.data.readings[0]?).map Reading.measured = some (.int high) ∧ 0 ≤ low ∧ low ≤ high ∧
      (later.data.readings[0]?).map Reading.labels = some attributes.labels) ∧
    "host" ∉ Pairs.keys [("path", AttributeValue.text "/")] ∧
    attributes.labels.get? "host" = some "second" ∧ attributes.labels.get? "attempt" = some "2" ∧
    exported.result.1 = .failed (.rpc "refused") ∧ pushed.asked = exported.asked ∧
    pushed.result.1 = .refused (.internalFailure "RPC error: refused") := by
  intro exporter attributes counter delay collection refuse exported pushed
  obtain ⟨recorded, skipped, labelled, named, ordered, ⟨asked, -, -⟩, -, refused⟩ :=
    exporter.push_keeps_measurements collection refuse ()
  obtain ⟨low, high, isLow, isHigh, natural, inOrder⟩ := ordered [] [] (counter 7)
    (counter 18446744073709551615) _ _ 0 0 7 18446744073709551615 rfl rfl rfl rfl (by decide)
  have nowhereLater : "host" ∉ Pairs.keys [("path", AttributeValue.text "/")] := by decide
  have host : attributes.labels.get? "host" = some "second" :=
    named [("host", .text "first"), ("attempt", .int 2)] [("path", .text "/")] "host" "second"
      nowhereLater
  have failed : exported.result.1 = .failed (.rpc "refused") := by decide +kernel
  exact ⟨recorded.length_eq.symm, skipped, ⟨_, _, low, high, rfl, rfl, rfl, rfl, by decide, isLow,
    isHigh, natural, inOrder, rfl⟩, nowhereLater, host, labelled attributes "attempt", failed, asked,
    refused _ failed⟩

end Exporter

end CloudMonitoring
