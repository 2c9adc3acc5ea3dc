import CloudMonitoring.Proofs.Runs

/-!
Runs whose records and start time all have calendar dates. Such a run never ends undated, since the
intervals in the table are then dated too and stay so from operation to operation.
-/

namespace CloudMonitoring

structure IntervalTable.Dated (table : IntervalTable) : Prop where
  startTime : table.startTime.Representable
  last : ∀ key interval, table.last? key = some interval → interval.Representable

def Sample.Dated (samples : List Sample) : Prop := ∀ sample ∈ samples, sample.time.Representable

theorem Instant.representable_earlier {first second : Instant} (firstDated : first.Representable)
    (secondDated : second.Representable) : (first.earlier second).Representable := by
  simp only [Instant.earlier]
  split
  · exact firstDated
  · exact secondDated

theorem IntervalTable.dated_starting {time : Instant} (dated : time.Representable) :
    (starting time).Dated := by
  refine ⟨dated, ?_⟩
  intro key interval kept
  simp [starting, last?] at kept

theorem IntervalTable.representable_following {startTime stop : Instant} {last : Option Interval}
    (startDated : startTime.Representable)
    (lastDated : ∀ interval, last = some interval → interval.Representable)
    (stopDated : stop.Representable) : (following startTime last stop).1.Representable := by
  cases last with
  | none => exact ⟨Instant.representable_earlier startDated stopDated, stopDated⟩
  | some last =>
      obtain ⟨lastStart, lastStop⟩ := lastDated last rfl
      simp only [following]
      split
      · rename_i room
        refine ⟨⟨?_, ?_⟩, stopDated⟩
        · have lower := lastStop.1
          simp only [Instant.le_iff, Instant.addMilliseconds] at lower ⊢
          omega
        · have upper := stopDated.2
          simp only [Instant.le_iff] at room upper ⊢
          omega
      · exact ⟨Instant.representable_earlier lastStart stopDated, stopDated⟩

theorem IntervalTable.representable_advance {startTime stop : Instant} {last : Option Interval}
    (startDated : startTime.Representable)
    (lastDated : ∀ interval, last = some interval → interval.Representable)
    (stopDated : stop.Representable) :
    ∀ interval, advance startTime last stop = some interval → interval.Representable := by
  simp only [advance]
  split
  · intro interval kept
    rw [← Option.some.inj kept]
    exact representable_following startDated lastDated stopDated
  · exact lastDated

namespace Aggregation

variable {samples : List Sample} {table next : IntervalTable} {series : List Series}

@[simp] theorem stop_intervalAfter (startTime : Instant) (last : Option Interval)
    (pending : Pending) : (intervalAfter startTime last pending).stop = pending.time := by
  simp only [intervalAfter]
  split
  · rfl
  · exact IntervalTable.stop_following startTime last pending.time

theorem representable_intervalAfter_iff (dated : table.Dated) (key : SeriesKey)
    (pending : Pending) :
    (intervalAfter table.startTime (table.last? key) pending).Representable ↔
      pending.time.Representable := by
  constructor
  · intro representable
    have stopDated := representable.2
    rwa [stop_intervalAfter] at stopDated
  · intro timeDated
    simp only [intervalAfter]
    split
    · exact ⟨timeDated, timeDated⟩
    · exact IntervalTable.representable_following dated.startTime (dated.last key) timeDated

theorem representable_lastAfter (dated : table.Dated) {key : SeriesKey} {pending : Pending}
    (timeDated : pending.time.Representable) :
    ∀ interval, lastAfter table.startTime (table.last? key) pending = some interval →
      interval.Representable := by
  simp only [lastAfter]
  split
  · exact dated.last key
  · exact IntervalTable.representable_advance dated.startTime (dated.last key) timeDated

theorem exists_finish_iff (dated : table.Dated) (samples : List Sample) :
    (∃ series next, (ofSamples samples).finish table = some (series, next)) ↔
      ∀ key pending, pending? key samples = some pending → pending.time.Representable := by
  constructor
  · rintro ⟨series, next, finished⟩ key pending found
    have listed : settledOver table key pending ∈ series :=
      (mem_finish finished _).mpr ⟨pending, found, rfl⟩
    have representable := ((finish_eq_some_iff _ _ _ _).mp finished).2 _ listed
    exact (representable_intervalAfter_iff dated key pending).mp
      (representable _ (List.mem_singleton_self _))
  · intro timesDated
    refine ⟨(settle (ofSamples samples).series table).1,
      (settle (ofSamples samples).series table).2, (finish_eq_some_iff _ _ _ _).mpr ⟨rfl, ?_⟩⟩
    rw [settle_fst (keys_series_nodup samples)]
    intro one member
    obtain ⟨⟨key, pending⟩, listed, rfl⟩ := List.mem_map.mp member
    have found := (Pairs.get?_eq_some_iff (keys_series_nodup samples)).mpr listed
    rw [get?_series] at found
    intro point only
    rw [List.mem_singleton.mp only]
    exact (representable_intervalAfter_iff dated key pending).mpr (timesDated key pending found)

theorem dated_finish (dated : table.Dated)
    (finished : (ofSamples samples).finish table = some (series, next)) : next.Dated := by
  have timesDated := (exists_finish_iff dated samples).mp ⟨series, next, finished⟩
  refine ⟨?_, ?_⟩
  · rw [startTime_finish finished]
    exact dated.startTime
  · intro key
    rw [last?_finish finished]
    cases found : pending? key samples with
    | none => exact dated.last key
    | some pending => exact representable_lastAfter dated (timesDated key pending found)

end Aggregation

def Operation.Dated : Operation → Prop
  | .exportRecords records =>
      ∀ metric ∈ records, ∀ value ∈ metric.data.values, value.2.1.Representable
  | _ => True

instance : DecidablePred Operation.Dated
  | .exportRecords records => inferInstanceAs
      (Decidable (∀ metric ∈ records, ∀ value ∈ metric.data.values, value.2.1.Representable))
  | .flush | .shutdown => .isTrue trivial

theorem Sample.representable_of_pending? {samples : List Sample} (samplesDated : Dated samples)
    {key : SeriesKey} {pending : Pending} (found : pending? key samples = some pending) :
    pending.time.Representable := by
  obtain ⟨_, last, _, isLast, rfl⟩ := pending?_eq_some found
  exact samplesDated last (Sample.mem_of_getLast? isLast).1

theorem Naming.dated_allSamples (naming : Naming) {records : List MetricRecord}
    (dated : (Operation.exportRecords records).Dated) :
    Sample.Dated (naming.allSamples records) := by
  intro sample member
  obtain ⟨metric, recorded, ofMetric⟩ := List.mem_flatMap.mp member
  obtain ⟨_, _, listed⟩ := mem_samplesOf ofMetric
  exact dated metric recorded _ listed

namespace Exporter

variable {State : Type}

theorem dated_intervalsAfter {exporter : Exporter} (dated : exporter.intervals.Dated)
    (operation : Operation) : (exporter.intervalsAfter operation).Dated := by
  cases operation with
  | flush => exact dated
  | shutdown => exact dated
  | exportRecords records =>
      cases running : exporter.isShutdown with
      | true => simpa [intervalsAfter, running] using dated
      | false =>
          cases finished : exporter.settled records with
          | none => simpa [intervalsAfter, running, finished] using dated
          | some found =>
              simp only [intervalsAfter, running, finished]
              rw [settled_eq] at finished
              exact Aggregation.dated_finish dated finished

theorem dated_of_split {exporter : Exporter} {operations : List Operation}
    {respond : Responder Call CallResult State} {state : State} {past future : List (Performed State)}
    {one : Performed State} (dated : exporter.intervals.Dated)
    (split : exporter.performed respond state operations = past ++ one :: future) :
    one.exporter.intervals.Dated ∧
      ∃ current, one.transcript = one.exporter.perform one.operation respond current := by
  let Reached (_ : List (Performed State)) (reached : Exporter) : Prop := reached.intervals.Dated
  have start : Reached [] exporter := dated
  refine reached_of_split start ?_ split
  intro _ reached operation current before
  simp only [Reached, intervals_perform]
  exact dated_intervalsAfter before operation

theorem perform_undated_iff (exporter : Exporter) (records : List MetricRecord)
    (respond : Responder Call CallResult State) (state : State) :
    (exporter.perform (.exportRecords records) respond state).result.1 = .exported .undated ↔
      exporter.isShutdown = false ∧ exporter.settled records = none := by
  rw [perform_exportRecords, OperationResult.exported.injEq]
  cases running : exporter.isShutdown with
  | true => simp [exportRecords, running]
  | false =>
      cases finished : exporter.settled records with
      | none => simp [exportRecords_undated running finished respond state]
      | some found =>
          have result := (exportRecords_settled running finished respond state).1
          simp [result, concluded_ne_undated]

theorem exists_settled_of_dated {exporter : Exporter} {records : List MetricRecord}
    (dated : exporter.intervals.Dated) (recordsDated : (Operation.exportRecords records).Dated) :
    ∃ series next, exporter.settled records = some (series, next) := by
  have samplesDated := exporter.naming.dated_allSamples recordsDated
  rw [settled_eq]
  exact (Aggregation.exists_finish_iff dated _).mpr fun _ _ found =>
    Sample.representable_of_pending? samplesDated found

theorem not_undated_of_dated {exporter : Exporter} {operation : Operation}
    (dated : exporter.intervals.Dated) (operationDated : operation.Dated)
    (respond : Responder Call CallResult State) (state : State) :
    (exporter.perform operation respond state).result.1 ≠ .exported .undated := by
  cases operation with
  | flush => simp [perform, flush]
  | shutdown => simp [perform]
  | exportRecords records =>
      intro undated
      obtain ⟨_, failed⟩ := (perform_undated_iff _ _ _ _).mp undated
      obtain ⟨series, next, finished⟩ := exists_settled_of_dated dated operationDated
      rw [finished] at failed
      contradiction

theorem dated_of_mem_performed {exporter : Exporter} {operations : List Operation}
    (dated : exporter.intervals.Dated) (operationsDated : ∀ operation ∈ operations, operation.Dated)
    {respond : Responder Call CallResult State} {state : State} {one : Performed State}
    (member : one ∈ exporter.performed respond state operations) :
    one.exporter.intervals.Dated ∧ one.operation.Dated ∧
      ∃ current, one.transcript = one.exporter.perform one.operation respond current := by
  obtain ⟨past, future, split⟩ := List.append_of_mem member
  obtain ⟨performerDated, made⟩ := dated_of_split dated split
  refine ⟨performerDated, operationsDated _ ?_, made⟩
  rw [← exporter.map_operation_performed operations respond state]
  exact List.mem_map_of_mem member

theorem dated_performed {exporter : Exporter} {operations : List Operation}
    (dated : exporter.intervals.Dated) (operationsDated : ∀ operation ∈ operations, operation.Dated)
    (respond : Responder Call CallResult State) (state : State) :
    ∀ one ∈ exporter.performed respond state operations,
      one.transcript.result.1 ≠ .exported .undated := by
  intro one member
  obtain ⟨performerDated, operationDated, current, made⟩ :=
    dated_of_mem_performed dated operationsDated member
  rw [made]
  exact not_undated_of_dated performerDated operationDated respond current

end Exporter

theorem Performed.finish_of_running {State : Type} {one : Performed State}
    (running : one.exporter.isShutdown = false) (dated : one.exporter.intervals.Dated)
    (operationDated : one.operation.Dated) :
    (Aggregation.ofSamples one.samples).finish one.exporter.intervals =
      some (one.series, one.exporter.intervalsAfter one.operation) := by
  obtain ⟨exporter, operation, transcript⟩ := one
  cases operation with
  | flush => rfl
  | shutdown => rfl
  | exportRecords records =>
      obtain ⟨settled, next, finished⟩ := Exporter.exists_settled_of_dated dated operationDated
      have isOpen : exporter.isShutdown = false := running
      simp [series, samples, Exporter.intervalsAfter, ← Exporter.settled_eq, finished, isOpen]

end CloudMonitoring
