import CloudMonitoring.Proofs.Calls

/-!
When an export counts as a success. The number of series is compared with the number of metrics, so
a metric with several label sets makes up for one that was dropped; only where no metric has more
than one series does success mean that none was dropped.
-/

namespace CloudMonitoring

def MetricRecord.Exportable (metric : MetricRecord) : Prop :=
  metric.data.types?.isSome ∧ metric.data.values ≠ []

instance (metric : MetricRecord) : Decidable metric.Exportable :=
  inferInstanceAs (Decidable (_ ∧ _))

def Call.isWrite : Call → Bool
  | .write .. => true
  | _ => false

theorem Naming.samplesOf_ne_nil_iff (naming : Naming) (metric : MetricRecord) :
    naming.samplesOf metric ≠ [] ↔ metric.Exportable := by
  simp only [samplesOf, samples, MetricRecord.types, MetricRecord.Exportable]
  cases metric.data.types? with
  | none => simp [Except.map]
  | some types => simp [Except.map]

namespace Exporter

variable {State : Type}

def seriesKeys (exporter : Exporter) (records : List MetricRecord) : List SeriesKey :=
  ((exporter.naming.allSamples records).map Sample.key).eraseDups

theorem keys_settled {exporter : Exporter} {records : List MetricRecord} {series : List Series}
    {intervals : IntervalTable} (finished : exporter.settled records = some (series, intervals)) :
    series.map Series.key = exporter.seriesKeys records := by
  rw [settled_eq] at finished
  rw [Aggregation.finish_ofSamples finished, List.map_map, seriesKeys, ← Aggregation.keys_series]
  rfl

theorem exportable_iff_contributes {exporter : Exporter} {records : List MetricRecord}
    {series : List Series} {intervals : IntervalTable}
    (finished : exporter.settled records = some (series, intervals)) {metric : MetricRecord}
    (recorded : metric ∈ records) :
    metric.Exportable ↔
      ∃ one ∈ series, ∃ sample ∈ exporter.naming.samplesOf metric, sample.key = one.key := by
  rw [← exporter.naming.samplesOf_ne_nil_iff]
  constructor
  · intro some
    obtain ⟨sample, member⟩ := List.exists_mem_of_ne_nil _ some
    have listed : sample ∈ exporter.naming.allSamples records :=
      List.mem_flatMap.mpr ⟨metric, recorded, member⟩
    have known : sample.key ∈ series.map Series.key := by
      rw [keys_settled finished, seriesKeys, List.mem_eraseDups]
      exact List.mem_map_of_mem listed
    obtain ⟨one, inSeries, same⟩ := List.mem_map.mp known
    exact ⟨one, inSeries, sample, member, same.symm⟩
  · rintro ⟨_, _, sample, member, _⟩
    exact List.ne_nil_of_mem member

theorem forall_isWrite_iff {exporter : Exporter} {records : List MetricRecord} {mode : WriteMode}
    {project : String} {parts : List (List Series)} {first second : List (Call × CallResult)}
    (registered : UntilRefused (exporter.registrations records) first)
    (written : UntilRefused (parts.map (.write mode project)) second) :
    (∀ exchange ∈ first ++ second, exchange.1.isWrite → exchange.2 = .ok ()) ↔
      ∀ exchange ∈ second, exchange.2 = .ok () := by
  constructor
  · intro all exchange member
    refine all exchange (List.mem_append_right _ member) ?_
    obtain ⟨part, _, same⟩ := List.mem_map.mp (written.mem_questions member)
    rw [← same]
    rfl
  · intro accepted exchange member isWrite
    rcases List.mem_append.mp member with early | late
    · have planned := registered.mem_questions early
      simp only [registrations] at planned
      split at planned
      · obtain ⟨descriptor, _, same⟩ := List.mem_map.mp planned
        rw [← same] at isWrite
        simp [Call.isWrite] at isWrite
      · simp at planned
    · exact accepted exchange late

theorem result_eq_success_iff (exporter : Exporter) (records : List MetricRecord)
    (respond : Responder Call CallResult State) (state : State) :
    (exporter.exportRecords records respond state).result.1 = .done .success ↔
      exporter.isShutdown = false ∧ (exporter.settled records).isSome ∧
      (∀ exchange ∈ (exporter.exportRecords records respond state).asked,
        exchange.1.isWrite → exchange.2 = .ok ()) ∧
      records.length ≤ (exporter.seriesKeys records).length := by
  cases running : exporter.isShutdown with
  | true => simp [exportRecords, running]
  | false =>
      cases finished : exporter.settled records with
      | none => simp [exportRecords_undated running finished respond state]
      | some found =>
          obtain ⟨series, intervals⟩ := found
          obtain ⟨result, asked, _⟩ := exportRecords_settled running finished respond state
          have size : series.length = (exporter.seriesKeys records).length := by
            rw [← keys_settled finished, List.length_map]
          have registered := exporter.registerAll_asked records respond state
          have written := writeBatches_asked exporter.mode exporter.projectName 0 (batches series)
            respond (exporter.registerAll (exporter.descriptors records) respond state).state
          rw [result, asked, writeBatches_result, concluded_eq_success_iff, outcome_eq_ok_iff, size]
          simp only [Option.isSome_some, true_and]
          rw [forall_isWrite_iff registered written]

theorem exists_not_exportable_iff (records : List MetricRecord) :
    (∃ metric ∈ records, ¬ metric.Exportable) ↔
      (records.filter fun metric => metric.Exportable).length < records.length := by
  rw [List.length_filter_lt_length_iff_exists]
  simp

/-- Success is reported although a metric was dropped just when fewer metrics than there are have a
series, but the series are as many as the metrics. -/
theorem success_with_dropped_iff (exporter : Exporter) (records : List MetricRecord)
    (respond : Responder Call CallResult State) (state : State) :
    ((exporter.exportRecords records respond state).result.1 = .done .success ∧
        (∃ metric ∈ records, ¬ metric.Exportable) ↔
      exporter.isShutdown = false ∧ (exporter.settled records).isSome ∧
      (∀ exchange ∈ (exporter.exportRecords records respond state).asked,
        exchange.1.isWrite → exchange.2 = .ok ()) ∧
      (records.filter fun metric => metric.Exportable).length < records.length ∧
      records.length ≤ (exporter.seriesKeys records).length) ∧
    ∀ series intervals, exporter.settled records = some (series, intervals) →
      series.map Series.key = exporter.seriesKeys records ∧
      ∀ metric ∈ records, (metric.Exportable ↔
        ∃ one ∈ series, ∃ sample ∈ exporter.naming.samplesOf metric, sample.key = one.key) := by
  refine ⟨?_, fun series intervals finished => ⟨keys_settled finished, fun metric recorded =>
    exportable_iff_contributes finished recorded⟩⟩
  rw [result_eq_success_iff, exists_not_exportable_iff]
  constructor
  · rintro ⟨⟨running, dated, accepted, enough⟩, fewer⟩
    exact ⟨running, dated, accepted, fewer, enough⟩
  · rintro ⟨running, dated, accepted, fewer, enough⟩
    exact ⟨⟨running, dated, accepted, enough⟩, fewer⟩

/-- Two label sets of one metric make up for another metric that is dropped. -/
theorem success_with_dropped_summary :
    ¬ ∀ (exporter : Exporter) (records : List MetricRecord)
        (respond : Responder Call CallResult Unit) (state : Unit),
        (exporter.exportRecords records respond state).result.1 = .done .success →
        ∀ metric ∈ records, metric.Exportable := by
  intro always
  let records : List MetricRecord :=
    [⟨"load", "", "", [], .longGauge
        [⟨1, Dict.empty.insert "room" "a", ⟨10⟩, ⟨10⟩⟩,
          ⟨2, Dict.empty.insert "room" "b", ⟨10⟩, ⟨10⟩⟩]⟩,
      ⟨"delay", "", "", [], .summary [⟨.empty, ⟨0⟩, ⟨10⟩, 1, .zero⟩]⟩]
  have dropped := always (.starting "my-project" ⟨0⟩) records (fun _ _ => (.ok (), ())) ()
    (by decide +kernel) ⟨"delay", "", "", [], .summary [⟨.empty, ⟨0⟩, ⟨10⟩, 1, .zero⟩]⟩
    (by simp [records])
  simp [MetricRecord.Exportable, MetricData.types?] at dropped

theorem length_eraseDups_le_one {α : Type} [DecidableEq α] {items : List α}
    (same : ∀ first ∈ items, ∀ second ∈ items, first = second) : items.eraseDups.length ≤ 1 := by
  cases items with
  | nil => simp
  | cons first rest =>
      have noOther : (rest.filter fun other => !other == first) = [] := by
        rw [List.filter_eq_nil_iff]
        intro other member
        simp [same other (List.mem_cons_of_mem _ member) first (by simp)]
      simp [List.eraseDups_cons, noOther]

theorem length_seriesKeys_le (exporter : Exporter) (records : List MetricRecord)
    (single : ∀ metric ∈ records, ∀ first ∈ exporter.naming.samplesOf metric,
      ∀ second ∈ exporter.naming.samplesOf metric, first.key = second.key) :
    (exporter.seriesKeys records).length ≤
      (records.filter fun metric => metric.Exportable).length := by
  induction records using List.reverseRecOn with
  | nil => simp [seriesKeys, Naming.allSamples]
  | append_singleton records last ih =>
      have earlier := ih fun metric recorded => single metric (List.mem_append_left _ recorded)
      simp only [seriesKeys, Naming.allSamples] at earlier
      simp only [seriesKeys, Naming.allSamples, List.flatMap_append, List.map_append,
        List.eraseDups_append, List.length_append, List.filter_append, List.flatMap_singleton]
      by_cases some : last.Exportable
      · have atMost : (((exporter.naming.samplesOf last).map Sample.key).removeAll
            ((records.flatMap exporter.naming.samplesOf).map Sample.key)).eraseDups.length ≤ 1 := by
          apply length_eraseDups_le_one
          intro first firstListed second secondListed
          obtain ⟨one, oneListed, rfl⟩ := List.mem_map.mp (List.mem_filter.mp firstListed).1
          obtain ⟨two, twoListed, rfl⟩ := List.mem_map.mp (List.mem_filter.mp secondListed).1
          exact single last (by simp) one oneListed two twoListed
        simp only [some, decide_true, List.filter_cons_of_pos, List.filter_nil,
          List.length_singleton]
        omega
      · have none : exporter.naming.samplesOf last = [] := by
          by_contra present
          exact some ((exporter.naming.samplesOf_ne_nil_iff last).mp present)
        simpa [none, some, List.removeAll] using earlier

/-- Where no metric has more than one key, success means that every metric has a series. -/
theorem exportable_of_success {exporter : Exporter} {records : List MetricRecord}
    (single : ∀ metric ∈ records, ∀ first ∈ exporter.naming.samplesOf metric,
      ∀ second ∈ exporter.naming.samplesOf metric, first.key = second.key)
    {respond : Responder Call CallResult State} {state : State}
    (succeeded : (exporter.exportRecords records respond state).result.1 = .done .success) :
    ∀ metric ∈ records, metric.Exportable := by
  obtain ⟨_, _, _, enough⟩ :=
    (result_eq_success_iff exporter records respond state).mp succeeded
  by_contra dropped
  have fewer := (exists_not_exportable_iff records).mp (by simpa using dropped)
  have atMost := length_seriesKeys_le exporter records single
  omega

end Exporter

end CloudMonitoring
