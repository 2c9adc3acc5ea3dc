import CloudMonitoring.Proofs.IntervalHistory
import CloudMonitoring.Proofs.Operations

/-!
An export that is made again repeats itself. The interval of a series is the same when it is asked for
again with the same end, and the table does not move a second time, whatever was kept before; what is
exported in between does not matter unless it has a cumulative sample with one of the keys.
-/

namespace CloudMonitoring

namespace IntervalTable

theorem following_advance (startTime : Instant) (last : Option Interval) (stop : Instant) :
    (following startTime (advance startTime last stop) stop).1 =
        (following startTime last stop).1 ∧
      advance startTime (advance startTime last stop) stop = advance startTime last stop := by
  cases advances : (following startTime last stop).2 with
  | false =>
      have kept : advance startTime last stop = last := by simp [advance, advances]
      rw [kept, kept]
      exact ⟨rfl, rfl⟩
  | true =>
      have kept : advance startTime last stop = some (following startTime last stop).1 := by
        simp [advance, advances]
      -- What is now kept ends at `stop`, so the second time its own start is used again.
      have sameStop := stop_following startTime last stop
      have ordered := start_following_le startTime last stop
      generalize (following startTime last stop).1 = found at kept sameStop ordered
      have again : following startTime (some found) stop = (found, false) := by
        rw [following_of_le startTime (by rw [sameStop]; exact Int.le_refl _)]
        have sameStart : found.start.earlier stop = found.start := if_pos ordered
        rw [sameStart, ← sameStop]
      rw [kept]
      simp [advance, again]

structure SameFor (samples : List Sample) (table other : IntervalTable) : Prop where
  startTime : other.startTime = table.startTime
  last : ∀ sample ∈ samples, other.last? sample.key = table.last? sample.key

theorem SameFor.trans {samples : List Sample} {first second third : IntervalTable}
    (same : SameFor samples first second) (rest : SameFor samples second third) :
    SameFor samples first third :=
  ⟨rest.startTime.trans same.startTime, fun sample member =>
    (rest.last sample member).trans (same.last sample member)⟩

end IntervalTable

namespace Aggregation

open IntervalTable (SameFor)

variable {samples : List Sample} {table next other : IntervalTable} {series : List Series}

theorem intervalAfter_lastAfter (startTime : Instant) (last : Option Interval) (pending : Pending) :
    intervalAfter startTime (lastAfter startTime last pending) pending =
        intervalAfter startTime last pending ∧
      lastAfter startTime (lastAfter startTime last pending) pending =
        lastAfter startTime last pending := by
  cases kind : pending.kind with
  | gauge => simp [intervalAfter, lastAfter, kind]
  | cumulative =>
      simpa [intervalAfter, lastAfter, kind] using
        IntervalTable.following_advance startTime last pending.time

theorem finish_fst (samples : List Sample) (table : IntervalTable) :
    ((ofSamples samples).finish table).map Prod.fst =
      let series := (ofSamples samples).series.map fun entry => settledOver table entry.1 entry.2
      if ∀ one ∈ series, one.Representable then some series else none := by
  simp only [finish, settle_fst (keys_series_nodup samples)]
  split
  · rw [Option.map_some, settle_fst (keys_series_nodup samples)]
  · rfl

theorem finish_fst_congr
    (same : ∀ key pending, pending? key samples = some pending →
      settledOver other key pending = settledOver table key pending) :
    ((ofSamples samples).finish other).map Prod.fst =
      ((ofSamples samples).finish table).map Prod.fst := by
  have sameSeries : ((ofSamples samples).series.map fun entry => settledOver other entry.1 entry.2) =
      (ofSamples samples).series.map fun entry => settledOver table entry.1 entry.2 := by
    apply List.map_congr_left
    intro entry member
    refine same entry.1 entry.2 ?_
    rw [← get?_series]
    exact (Pairs.get?_eq_some_iff (keys_series_nodup samples)).mpr member
  rw [finish_fst, finish_fst, sameSeries]

theorem last?_of_sameFor (same : SameFor samples table other) {key : SeriesKey} {pending : Pending}
    (found : pending? key samples = some pending) : other.last? key = table.last? key := by
  obtain ⟨first, _, isFirst, _, _⟩ := pending?_eq_some found
  obtain ⟨member, sameKey⟩ := Sample.mem_of_head? isFirst
  rw [← sameKey]
  exact same.last first member

theorem finish_of_sameFor (same : SameFor samples table other) :
    ((ofSamples samples).finish other).map Prod.fst =
      ((ofSamples samples).finish table).map Prod.fst := by
  apply finish_fst_congr
  intro key pending found
  rw [settledOver, settledOver, same.startTime, last?_of_sameFor same found]

theorem finish_again (finished : (ofSamples samples).finish table = some (series, next))
    (same : SameFor samples next other) :
    ∃ last, (ofSamples samples).finish other = some (series, last) ∧ SameFor samples next last := by
  have startTime := same.startTime.trans (startTime_finish finished)
  -- Each key is left as the first settling left it, from where settling does not move it.
  have kept : ∀ key pending, pending? key samples = some pending →
      other.last? key = lastAfter table.startTime (table.last? key) pending := by
    intro key pending found
    rw [last?_of_sameFor same found, last?_finish finished, found]
  have sameSeries : ((ofSamples samples).finish other).map Prod.fst = some series := by
    rw [finish_fst_congr, finished, Option.map_some]
    intro key pending found
    rw [settledOver, settledOver, startTime, kept key pending found,
      (intervalAfter_lastAfter _ _ _).1]
  obtain ⟨⟨_, last⟩, again, rfl⟩ := Option.map_eq_some_iff.mp sameSeries
  refine ⟨last, again, (startTime_finish again).trans same.startTime, ?_⟩
  intro sample member
  rw [last?_finish again, ← same.last sample member]
  cases found : pending? sample.key samples with
  | none => rfl
  | some pending =>
      simp only [startTime, kept sample.key pending found, (intervalAfter_lastAfter _ _ _).2]

theorem last?_finish_of_no_cumulative
    (finished : (ofSamples samples).finish table = some (series, next)) {key : SeriesKey}
    (noCumulative : ∀ sample ∈ samples, sample.descriptor.kind = .cumulative → sample.key ≠ key) :
    next.last? key = table.last? key := by
  rw [last?_finish finished]
  cases found : pending? key samples with
  | none => rfl
  | some pending =>
      obtain ⟨first, last, isFirst, _, rfl⟩ := pending?_eq_some found
      obtain ⟨member, sameKey⟩ := Sample.mem_of_head? isFirst
      cases kind : first.descriptor.kind with
      | gauge => simp [lastAfter, Pending.spanning, kind]
      | cumulative => exact absurd sameKey (noCumulative first member kind)

end Aggregation

namespace Exporter

open IntervalTable (SameFor)

variable {State : Type} {exporter later : Exporter} {records : List MetricRecord}

theorem intervalsAfter_exportRecords (running : exporter.isShutdown = false) :
    exporter.intervalsAfter (.exportRecords records) =
      ((exporter.settled records).map Prod.snd).getD exporter.intervals := by
  simp [intervalsAfter, running]

theorem settled_again (running : exporter.isShutdown = false) (stillRunning : later.isShutdown = false)
    (naming : later.naming = exporter.naming)
    (same : SameFor (exporter.naming.allSamples records)
      (exporter.intervalsAfter (.exportRecords records)) later.intervals) :
    (later.settled records).map Prod.fst = (exporter.settled records).map Prod.fst ∧
      SameFor (exporter.naming.allSamples records)
        (exporter.intervalsAfter (.exportRecords records))
        (later.intervalsAfter (.exportRecords records)) := by
  rw [intervalsAfter_exportRecords running] at same ⊢
  rw [intervalsAfter_exportRecords stillRunning]
  simp only [settled_eq, naming] at same ⊢
  cases finished : (Aggregation.ofSamples (exporter.naming.allSamples records)).finish
      exporter.intervals with
  | none =>
      rw [finished] at same
      have undated := Aggregation.finish_of_sameFor same
      rw [Option.map_none, Option.getD_none, finished, Option.map_none, Option.map_eq_none_iff]
        at undated
      simp only [undated]
      exact ⟨trivial, same⟩
  | some found =>
      obtain ⟨series, next⟩ := found
      rw [finished] at same
      obtain ⟨last, again, kept⟩ := Aggregation.finish_again finished same
      simp only [again]
      exact ⟨rfl, kept⟩

theorem next_exportRecords (exporter : Exporter) (records : List MetricRecord)
    (respond : Responder Call CallResult State) (state : State) :
    ∃ strategy, (exporter.exportRecords records respond state).result.2 =
      { exporter with
        strategy := strategy
        intervals := exporter.intervalsAfter (.exportRecords records) } := by
  have next := (exporter.perform_rounds (.exportRecords records) respond state).next
  simp only [Performed.next, perform_exportRecords] at next
  have sameFlag : (exporter.isShutdown || Operation.exportRecords records = .shutdown) =
      exporter.isShutdown := by simp
  rw [next, after, sameFlag]
  exact ⟨_, rfl⟩

theorem sameFor_intervalsAfter {samples : List Sample} {others : List MetricRecord}
    (apart : ∀ other ∈ exporter.naming.allSamples others, other.descriptor.kind = .cumulative →
      ∀ sample ∈ samples, other.key ≠ sample.key) :
    SameFor samples exporter.intervals (exporter.intervalsAfter (.exportRecords others)) := by
  have nothing : SameFor samples exporter.intervals exporter.intervals := ⟨rfl, fun _ _ => rfl⟩
  cases running : exporter.isShutdown with
  | true => simpa [intervalsAfter, running] using nothing
  | false =>
      rw [intervalsAfter_exportRecords running, settled_eq]
      cases finished : (Aggregation.ofSamples (exporter.naming.allSamples others)).finish
          exporter.intervals with
      | none => exact nothing
      | some found =>
          refine ⟨Aggregation.startTime_finish finished, fun sample member => ?_⟩
          exact Aggregation.last?_finish_of_no_cumulative finished fun other listed kind =>
            apart other listed kind sample member

theorem run_exports_apart (exporter : Exporter) {samples : List Sample}
    {between : List (List MetricRecord)}
    (apart : ∀ others ∈ between, ∀ other ∈ exporter.naming.allSamples others,
      other.descriptor.kind = .cumulative → ∀ sample ∈ samples, other.key ≠ sample.key)
    (respond : Responder Call CallResult State) (state : State) :
    ∃ strategy intervals,
      (exporter.run (between.map .exportRecords) respond state).result.2 =
        { exporter with strategy := strategy, intervals := intervals } ∧
      SameFor samples exporter.intervals intervals := by
  induction between generalizing exporter state with
  | nil => exact ⟨exporter.strategy, exporter.intervals, rfl, rfl, fun _ _ => rfl⟩
  | cons others rest ih =>
      obtain ⟨strategy, next⟩ := exporter.next_exportRecords others respond state
      have kept := sameFor_intervalsAfter (apart others (by simp))
      have restApart := fun more listed => apart more (List.mem_cons_of_mem others listed)
      obtain ⟨lastStrategy, last, reached, keptToo⟩ := ih
        { exporter with
          strategy := strategy
          intervals := exporter.intervalsAfter (.exportRecords others) }
        restApart (exporter.exportRecords others respond state).state
      refine ⟨lastStrategy, last, ?_, kept.trans keptToo⟩
      simp only [List.map_cons, run, Session.bind_result, Session.bind_state, Session.pure_eq,
        perform, next]
      exact reached

theorem writesOf_exportRecords {series : List Series} (running : exporter.isShutdown = false)
    (settled : (exporter.settled records).map Prod.fst = some series)
    (respond : Responder Call CallResult State) (state : State) :
    UntilRefused ((batches series).map (.write exporter.mode exporter.projectName))
      (writesOf (exporter.exportRecords records respond state).asked) := by
  obtain ⟨⟨_, intervals⟩, finished, rfl⟩ := Option.map_eq_some_iff.mp settled
  exact (exportRecords_rounds running finished respond state).2.2.1

/-- Exporting records, then others that have no cumulative sample with one of their keys, and then
the first ones again gives the same series again and leaves the table as it was for their keys. -/
theorem exportRecords_repeats (exporter : Exporter) (records : List MetricRecord)
    (between : List (List MetricRecord)) (respond : Responder Call CallResult State) (state : State)
    (running : exporter.isShutdown = false)
    (apart : ∀ others ∈ between, ∀ other ∈ exporter.naming.allSamples others,
      other.descriptor.kind = .cumulative →
        ∀ sample ∈ exporter.naming.allSamples records, other.key ≠ sample.key) :
    let first := exporter.exportRecords records respond state
    let rest := first.result.2.run (between.map .exportRecords) respond first.state
    let again := rest.result.2.exportRecords records respond rest.state
    (rest.result.2.settled records).map Prod.fst = (exporter.settled records).map Prod.fst ∧
    (∀ sample ∈ exporter.naming.allSamples records,
      again.result.2.intervals.last? sample.key = first.result.2.intervals.last? sample.key) ∧
    ∀ series intervals, exporter.settled records = some (series, intervals) →
      ∃ parts, Batched series parts ∧
        UntilRefused (parts.map (.write exporter.mode exporter.projectName))
          (writesOf first.asked) ∧
        UntilRefused (parts.map (.write exporter.mode exporter.projectName))
          (writesOf again.asked) := by
  intro first rest again
  obtain ⟨strategy, next⟩ := exporter.next_exportRecords records respond state
  have apartNext : ∀ others ∈ between, ∀ other ∈ first.result.2.naming.allSamples others,
      other.descriptor.kind = .cumulative →
        ∀ sample ∈ exporter.naming.allSamples records, other.key ≠ sample.key := by
    rw [next]
    exact apart
  obtain ⟨lastStrategy, last, reached, kept⟩ :=
    first.result.2.run_exports_apart apartNext respond first.state
  have later : rest.result.2 =
      { exporter with strategy := lastStrategy, intervals := last } := by rw [reached, next]
  have same : SameFor (exporter.naming.allSamples records)
      (exporter.intervalsAfter (.exportRecords records)) rest.result.2.intervals := by
    rw [next] at kept
    rw [later]
    exact kept
  have stillRunning : rest.result.2.isShutdown = false := by rw [later]; exact running
  obtain ⟨sameSeries, sameLast⟩ := settled_again running stillRunning (by rw [later]) same
  refine ⟨sameSeries, ?_, ?_⟩
  · obtain ⟨_, final⟩ := rest.result.2.next_exportRecords records respond rest.state
    intro sample member
    rw [final, next]
    exact sameLast.last sample member
  · intro series intervals finished
    rw [finished, Option.map_some] at sameSeries
    refine ⟨batches series, batched_batches series, ?_, ?_⟩
    · exact writesOf_exportRecords running (by rw [finished, Option.map_some]) respond state
    · have written := writesOf_exportRecords stillRunning sameSeries respond rest.state
      have sameMode : rest.result.2.mode = exporter.mode := by rw [later]
      have sameProject : rest.result.2.projectName = exporter.projectName := by rw [later]; rfl
      rw [sameMode, sameProject] at written
      exact written

theorem exportRecords_repeats_refused :
    let sent : SeriesKey := ⟨"workload.googleapis.com/sent", .empty⟩
    let exporter : Exporter := { starting "my-project" ⟨4⟩ with
      intervals := ⟨⟨4⟩, [(sent, ⟨⟨4⟩, ⟨2000000⟩⟩)]⟩ }
    let records : List MetricRecord := [⟨"sent", "", "", [], .longSum [⟨1, .empty, ⟨0⟩, ⟨2000001⟩⟩]⟩]
    let between : List (List MetricRecord) :=
      [[⟨"sent", "", "", [], .longGauge [⟨1, .empty, ⟨0⟩, ⟨9000000⟩⟩]⟩],
        [⟨"received", "", "", [], .longSum [⟨1, .empty, ⟨0⟩, ⟨9000000⟩⟩]⟩]]
    let refuse : Responder Call CallResult Unit := fun state _ => (.error (.rpc "refused"), state)
    ((exporter.settled records).map fun settled =>
      settled.1.map fun one => (one.key, one.points.map Point.interval)) =
        some [(sent, [⟨⟨4⟩, ⟨2000001⟩⟩])] ∧
    let first := exporter.exportRecords records refuse ()
    let rest := first.result.2.run (between.map .exportRecords) refuse first.state
    let again := rest.result.2.exportRecords records refuse rest.state
    (rest.result.2.settled records).map Prod.fst = (exporter.settled records).map Prod.fst ∧
    (∀ sample ∈ exporter.naming.allSamples records,
      again.result.2.intervals.last? sample.key = first.result.2.intervals.last? sample.key) ∧
    ∀ series intervals, exporter.settled records = some (series, intervals) →
      ∃ parts, Batched series parts ∧
        UntilRefused (parts.map (.write exporter.mode exporter.projectName))
          (writesOf first.asked) ∧
        UntilRefused (parts.map (.write exporter.mode exporter.projectName))
          (writesOf again.asked) := by
  intro sent exporter records between refuse
  have apart : ∀ others ∈ between, ∀ other ∈ exporter.naming.allSamples others,
      other.descriptor.kind = .cumulative →
        ∀ sample ∈ exporter.naming.allSamples records, other.key ≠ sample.key := by
    decide +kernel
  exact ⟨by decide +kernel, exportRecords_repeats exporter records between refuse () rfl apart⟩

end Exporter

end CloudMonitoring
