import CloudMonitoring.Export.Configuration
import CloudMonitoring.Proofs.DatedRuns
import CloudMonitoring.Proofs.IntervalHistory

/-!
Over whole runs, the intervals of each cumulative series go on from the start time of the exporter,
whatever else is exported in between and whatever the service answers.
-/

namespace CloudMonitoring

def cumulativeIntervals (key : SeriesKey) (series : List Series) : List Interval :=
  (series.filter fun one => one.key = key ∧ one.kind = .cumulative).flatMap fun one =>
    one.points.map Point.interval

/-- The intervals that samples call for under a key: where the first sample of the key makes its series
cumulative, one that ends with the last sample, and else none. -/
inductive Given (key : SeriesKey) (samples : List Sample) : List Interval → Prop
  | one {first last : Sample} {interval : Interval} :
      (Sample.withKey key samples).head? = some first → first.descriptor.kind = .cumulative →
      (Sample.withKey key samples).getLast? = some last → interval.stop = last.time →
      Given key samples [interval]
  | none : (∀ first, (Sample.withKey key samples).head? = some first →
      first.descriptor.kind = .gauge) → Given key samples []

namespace Aggregation

variable {samples : List Sample} {table next : IntervalTable} {series : List Series}

theorem cumulativeIntervals_finish
    (finished : (ofSamples samples).finish table = some (series, next)) (key : SeriesKey) :
    cumulativeIntervals key series =
      match pending? key samples with
      | some pending =>
          match pending.kind with
          | .gauge => []
          | .cumulative =>
              [(IntervalTable.following table.startTime (table.last? key) pending.time).1]
      | none => [] := by
  have byKey : ((ofSamples samples).series.filter fun entry =>
      entry.1 = key ∧ entry.2.kind = .cumulative) =
      ((pending? key samples).toList.map fun pending => (key, pending)).filter fun entry =>
        entry.2.kind = .cumulative := by
    rw [← get?_series, ← Pairs.filter_key (keys_series_nodup samples), List.filter_filter]
    simp only [Bool.decide_and, Bool.and_comm]
  have kept : cumulativeIntervals key series =
      (((ofSamples samples).series.filter fun entry =>
        entry.1 = key ∧ entry.2.kind = .cumulative).flatMap fun entry =>
          [intervalAfter table.startTime (table.last? entry.1) entry.2]) := by
    rw [finish_ofSamples finished, cumulativeIntervals, List.filter_map, List.flatMap_map]
    rfl
  rw [kept, byKey]
  cases pending? key samples with
  | none => rfl
  | some pending =>
      cases kind : pending.kind with
      | gauge => simp [kind]
      | cumulative => simp [kind, intervalAfter]

theorem continues_finish (finished : (ofSamples samples).finish table = some (series, next))
    {key : SeriesKey} {history : List Interval} (continues : Continues table.startTime history)
    (keeps : Keeps history (table.last? key)) :
    Continues table.startTime (history ++ cumulativeIntervals key series) ∧
      Keeps (history ++ cumulativeIntervals key series) (next.last? key) := by
  rw [cumulativeIntervals_finish finished, last?_finish finished]
  cases pending? key samples with
  | none => simpa using ⟨continues, keeps⟩
  | some pending =>
      cases kind : pending.kind with
      | gauge => simpa [lastAfter, kind] using ⟨continues, keeps⟩
      | cumulative =>
          simp only [lastAfter, kind]
          exact continues_following continues keeps pending.time

theorem given_finish (finished : (ofSamples samples).finish table = some (series, next))
    (key : SeriesKey) : Given key samples (cumulativeIntervals key series) := by
  rw [cumulativeIntervals_finish finished]
  cases found : pending? key samples with
  | none =>
      refine .none fun first isFirst => ?_
      have noSample : Sample.withKey key samples = [] := by simpa [pending?, isFirst] using found
      simp [noSample] at isFirst
  | some pending =>
      obtain ⟨first, last, isFirst, isLast, rfl⟩ := pending?_eq_some found
      cases kind : first.descriptor.kind with
      | gauge =>
          simp only [Pending.spanning, kind]
          refine .none fun other isFirstToo => ?_
          rw [isFirst, Option.some.injEq] at isFirstToo
          rw [← isFirstToo, kind]
      | cumulative =>
          simp only [Pending.spanning, kind]
          exact .one isFirst kind isLast (IntervalTable.stop_following _ _ _)

end Aggregation

namespace Exporter

variable {State : Type}

theorem continues_perform {exporter : Exporter} (operation : Operation)
    (respond : Responder Call CallResult State) (state : State) {startTime : Instant}
    (start : exporter.intervals.startTime = startTime) {key : SeriesKey} {history : List Interval}
    (continues : Continues startTime history)
    (keeps : Keeps history (exporter.intervals.last? key)) :
    let transcript := exporter.perform operation respond state
    let settled := cumulativeIntervals key (Performed.mk exporter operation transcript).series
    transcript.result.2.intervals.startTime = startTime ∧
      Continues startTime (history ++ settled) ∧
      Keeps (history ++ settled) (transcript.result.2.intervals.last? key) := by
  intro transcript settled
  have after : transcript.result.2.intervals = exporter.intervalsAfter operation :=
    exporter.intervals_perform operation respond state
  rw [after]
  rcases (Performed.mk exporter operation transcript).settles with ⟨nothing, same⟩ | finished
  · have noInterval : settled = [] := by
      simp only [settled, nothing]
      rfl
    rw [noInterval, List.append_nil, same]
    exact ⟨start, continues, keeps⟩
  · subst start
    exact ⟨Aggregation.startTime_finish finished,
      Aggregation.continues_finish finished continues keeps⟩

theorem continues_performed {exporter : Exporter} (operations : List Operation)
    (respond : Responder Call CallResult State) (state : State) {startTime : Instant}
    (start : exporter.intervals.startTime = startTime) {key : SeriesKey} {history : List Interval}
    (continues : Continues startTime history)
    (keeps : Keeps history (exporter.intervals.last? key)) :
    Continues startTime (history ++ (exporter.performed respond state operations).flatMap fun one =>
      cumulativeIntervals key one.series) := by
  induction operations generalizing exporter state history with
  | nil => simpa [performed] using continues
  | cons operation rest ih =>
      obtain ⟨nextStart, nextContinues, nextKeeps⟩ :=
        continues_perform operation respond state start continues keeps
      rw [performed, List.flatMap_cons, ← List.append_assoc]
      exact ih _ nextStart nextContinues nextKeeps

end Exporter

/-- In every run of dated operations, no operation ends undated; on a running exporter each of them
gives a key the interval that its samples call for, on a closed one none; and all intervals of the key
together continue from the start time of the exporter. -/
theorem Configuration.run_continues {State : Type} (configuration : Configuration)
    (projectId : String) (startTime : Instant) (operations : List Operation)
    (respond : Responder Call CallResult State) (state : State) (key : SeriesKey)
    (startDated : startTime.Representable)
    (operationsDated : ∀ operation ∈ operations, operation.Dated) :
    let exporter := configuration.exporter projectId startTime
    let performed := exporter.performed respond state operations
    (∀ result ∈ (exporter.run operations respond state).result.1,
      result ≠ .exported .undated) ∧
    (∀ one ∈ performed,
      if one.exporter.isShutdown then cumulativeIntervals key one.series = []
      else Given key one.samples (cumulativeIntervals key one.series)) ∧
    Continues startTime (performed.flatMap fun one => cumulativeIntervals key one.series) := by
  intro exporter performed
  have noneLast : ∀ other, exporter.intervals.last? other = none := fun _ => rfl
  have dated : exporter.intervals.Dated := by
    refine ⟨startDated, ?_⟩
    intro other interval kept
    simp [noneLast] at kept
  refine ⟨?_, ?_, ?_⟩
  · rw [(exporter.run_eq_performed operations respond state).1]
    intro result member
    obtain ⟨one, listed, rfl⟩ := List.mem_map.mp member
    exact Exporter.dated_performed dated operationsDated respond state one listed
  · intro one member
    obtain ⟨performerDated, operationDated, -⟩ :=
      Exporter.dated_of_mem_performed dated operationsDated member
    cases closed : one.exporter.isShutdown with
    | true => simp [one.series_of_closed closed, cumulativeIntervals]
    | false =>
        have finished := Performed.finish_of_running closed performerDated operationDated
        simpa using Aggregation.given_finish finished key
  · have nothingKept : Keeps [] (exporter.intervals.last? key) := by
      rw [noneLast]
      rfl
    exact Exporter.continues_performed operations respond state rfl (continues_nil startTime)
      nothingKept

/-- The intervals of a counter whose writes are all refused: the first one, one after a gap, one too
soon for a gap, one in the past and one after a gap again. -/
theorem Configuration.run_continues_refused :
    let counted (times : List Instant) : Operation := .exportRecords
      [⟨"sent", "", "", [], .longSum (times.map fun time => ⟨1, .empty, ⟨0⟩, time⟩)⟩]
    let operations : List Operation := [counted [⟨9⟩], counted [⟨5000000⟩, ⟨2000000⟩],
      counted [⟨2000001⟩], counted [⟨2⟩], counted [⟨9000000⟩]]
    let respond : Responder Call CallResult Unit := fun state _ => (.error (.rpc "refused"), state)
    let key : SeriesKey := ⟨"workload.googleapis.com/sent", .empty⟩
    let performed :=
      (Configuration.standard.exporter "my-project" ⟨4⟩).performed respond () operations
    let intervals := performed.flatMap fun one => cumulativeIntervals key one.series
    (⟨4⟩ : Instant).Representable ∧ (∀ operation ∈ operations, operation.Dated) ∧
      intervals = [⟨⟨4⟩, ⟨9⟩⟩, ⟨⟨1000009⟩, ⟨2000000⟩⟩, ⟨⟨1000009⟩, ⟨2000001⟩⟩, ⟨⟨2⟩, ⟨2⟩⟩,
        ⟨⟨3000001⟩, ⟨9000000⟩⟩] ∧
      (∀ one ∈ performed, Given key one.samples (cumulativeIntervals key one.series)) ∧
      Continues ⟨4⟩ intervals := by
  intro counted operations respond key performed intervals
  have startDated : (⟨4⟩ : Instant).Representable := by decide
  have operationsDated : ∀ operation ∈ operations, operation.Dated := by decide
  obtain ⟨-, given, continues⟩ := Configuration.standard.run_continues "my-project" ⟨4⟩ operations
    respond () key startDated operationsDated
  have running : ∀ one ∈ performed, one.exporter.isShutdown = false := by decide +kernel
  refine ⟨startDated, operationsDated, by decide +kernel, ?_, continues⟩
  intro one member
  simpa [running one member] using given one member

end CloudMonitoring
