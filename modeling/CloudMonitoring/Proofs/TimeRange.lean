import CloudMonitoring.Proofs.DatedRuns
import CloudMonitoring.Proofs.DescribedWrites
import CloudMonitoring.Proofs.Grouping
import CloudMonitoring.Proofs.Shutdown

/-!
Which exports end undated. Once the start time has a calendar date, only the points of the export itself
matter, and of these only the last one of each group: an earlier point outside the calendar is
overwritten and does no harm, and neither do the intervals of earlier exports or the gap between them.
-/

namespace CloudMonitoring

section Groups

variable {α κ : Type} [DecidableEq κ] {key : α → κ} {items group : List α} {last : α}

theorem mem_groups_of_getLast? {asked : κ}
    (isLast : (items.filter fun item => key item = asked).getLast? = some last) :
    (items.filter fun item => key item = asked) ∈ groups key items := by
  obtain ⟨listed, same⟩ := List.mem_filter.mp (List.mem_of_getLast? isLast)
  have known : asked ∈ (items.map key).eraseDups := by
    rw [List.mem_eraseDups, List.mem_map]
    exact ⟨last, listed, by simpa using same⟩
  exact List.mem_map_of_mem known

theorem exists_split_of_last (member : group ∈ groups key items)
    (isLast : group.getLast? = some last) :
    ∃ early late, items = early ++ last :: late ∧ ∀ later ∈ late, key later ≠ key last := by
  obtain ⟨asked, _, rfl⟩ := List.mem_map.mp member
  have sameKey := (List.mem_filter.mp (List.mem_of_getLast? isLast)).2
  obtain ⟨front, shape⟩ := List.getLast?_eq_some_iff.mp isLast
  obtain ⟨early, rest, rfl, _, ofRest⟩ := List.filter_eq_append_iff.mp shape
  obtain ⟨between, late, rfl, _, _, noneLate⟩ := List.filter_eq_cons_iff.mp ofRest
  refine ⟨early ++ between, late, by simp, ?_⟩
  intro later member same
  have other := List.filter_eq_nil_iff.mp noneLate later member
  simp only [decide_eq_true_eq] at sameKey other
  exact other (same.trans sameKey)

end Groups

namespace Naming

variable (naming : Naming) {points : List RecordedPoint}

theorem withKey_map_sampleOf (key : SeriesKey) (points : List RecordedPoint) :
    Sample.withKey key (points.map naming.sampleOf) =
      (points.filter fun point => naming.keyOf point = key).map naming.sampleOf := by
  rw [Sample.withKey, List.filter_map]
  rfl

theorem dated_pending_iff :
    (∀ key pending, pending? key (points.map naming.sampleOf) = some pending →
        pending.time.Representable) ↔
      ∀ group ∈ groups naming.keyOf points, ∀ last ∈ group.getLast?,
        last.time.Representable := by
  constructor
  · intro pendingDated group member last isLast
    obtain ⟨key, _, rfl⟩ := List.mem_map.mp member
    have nonempty : (points.filter fun point => naming.keyOf point = key) ≠ [] := by
      intro empty
      simp [empty] at isLast
    obtain ⟨first, isFirst⟩ := Option.isSome_iff_exists.mp (List.isSome_head?.mpr nonempty)
    refine pendingDated key (.spanning (naming.sampleOf first) (naming.sampleOf last)) ?_
    rw [pending?, withKey_map_sampleOf, List.head?_map, List.getLast?_map, isFirst, isLast]
    rfl
  · intro groupsDated key pending found
    obtain ⟨first, sample, _, isLast, rfl⟩ := pending?_eq_some found
    rw [withKey_map_sampleOf, List.getLast?_map, Option.map_eq_some_iff] at isLast
    obtain ⟨last, lastOfKey, rfl⟩ := isLast
    exact groupsDated _ (mem_groups_of_getLast? lastOfKey) last lastOfKey

end Naming

theorem Exporter.settled_eq_none_iff {exporter : Exporter} (dated : exporter.intervals.Dated)
    (records : List MetricRecord) :
    exporter.settled records = none ↔
      ∃ group ∈ groups exporter.naming.keyOf (records.flatMap MetricRecord.points),
        ∃ last ∈ group.getLast?, ¬ last.time.Representable := by
  have finishes := Aggregation.exists_finish_iff dated (exporter.naming.allSamples records)
  rw [Naming.allSamples_eq, Naming.dated_pending_iff] at finishes
  rw [settled_eq, Naming.allSamples_eq, Option.eq_none_iff_forall_ne_some]
  constructor
  · intro fails
    by_contra noneOutside
    simp only [not_exists, not_and, not_not] at noneOutside
    obtain ⟨series, next, finished⟩ := finishes.mpr noneOutside
    exact fails (series, next) finished
  · rintro ⟨group, member, last, isLast, outside⟩ found finished
    exact outside (finishes.mp ⟨found.1, found.2, finished⟩ group member last isLast)

theorem Performed.Rounds.representable_of_write {State : Type} {one : Performed State}
    (rounds : one.Rounds) {mode : WriteMode} {project : String} {payload : List Series}
    {answer : CallResult} (written : (.write mode project payload, answer) ∈ one.asked)
    {each : Series} (member : each ∈ payload) : each.Representable := by
  have settled := rounds.mem_series written member
  rcases one.settles with ⟨noSeries, _⟩ | finished
  · simp [noSeries] at settled
  · exact ((Aggregation.finish_eq_some_iff _ _ _ _).mp finished).2 each settled

/-- In every run from a start time within the calendar, an export that is not refused ends undated just
when the last point of some group is outside the calendar; where each such point is followed by one with
the same key, it does not. If all points of a run are within the calendar, no operation ends undated, and
neither the start nor the end of any interval that is written is outside. -/
theorem Configuration.undated_iff_last {State : Type} (configuration : Configuration)
    (projectId : String) (startTime : Instant) (startDated : startTime.Representable)
    (operations : List Operation) (respond : Responder Call CallResult State) (state : State) :
    let naming : Naming := ⟨configuration.metricPrefix, configuration.description⟩
    let run := (configuration.exporter projectId startTime).performed respond state operations
    (∀ past one future, run = past ++ one :: future →
      (∀ earlier ∈ past, earlier.result ≠ .exported .undated) →
      .shutdown ∉ past.map Performed.operation →
      ∀ records, one.operation = .exportRecords records →
        let points := records.flatMap MetricRecord.points
        (one.result = .exported .undated ↔
          ∃ group ∈ groups naming.keyOf points,
            ∃ last ∈ group.getLast?, ¬ last.time.Representable) ∧
        ((∀ early point late, points = early ++ point :: late → ¬ point.time.Representable →
            ∃ later ∈ late, naming.keyOf later = naming.keyOf point) →
          one.result ≠ .exported .undated)) ∧
    ((∀ operation ∈ operations, operation.Dated) →
      ∀ one ∈ run, one.result ≠ .exported .undated ∧
        ∀ mode project series answer, (.write mode project series, answer) ∈ one.asked →
          ∀ each ∈ series, ∀ point ∈ each.points,
            point.interval.start.Representable ∧ point.interval.stop.Representable) := by
  intro naming run
  have started : (configuration.exporter projectId startTime).intervals.Dated :=
    IntervalTable.dated_starting startDated
  refine ⟨?_, ?_⟩
  · intro past one future split _ noShutdown records exporting points
    obtain ⟨performerDated, current, made⟩ := Exporter.dated_of_split started split
    have running : one.exporter.isShutdown = false := by
      rw [(Exporter.isShutdown_of_split split).1]
      simp [noShutdown, exporter]
    have sameNaming : one.exporter.naming = naming := by
      rw [(Exporter.performed_split split).2]
      rfl
    have undatedIff : one.result = .exported .undated ↔
        ∃ group ∈ groups naming.keyOf points,
          ∃ last ∈ group.getLast?, ¬ last.time.Representable := by
      rw [Performed.result, made, exporting, Exporter.perform_undated_iff,
        Exporter.settled_eq_none_iff performerDated, sameNaming]
      simp only [running, true_and]
      rfl
    refine ⟨undatedIff, ?_⟩
    intro overwritten undated
    obtain ⟨group, member, last, isLast, outside⟩ := undatedIff.mp undated
    obtain ⟨early, late, shape, different⟩ := exists_split_of_last member isLast
    obtain ⟨later, follows, sameKey⟩ := overwritten early last late shape outside
    exact different later follows sameKey
  · intro operationsDated one member
    refine ⟨Exporter.dated_performed started operationsDated respond state one member, ?_⟩
    intro mode project series answer written each listed point pointListed
    obtain ⟨past, future, split⟩ := List.append_of_mem member
    have rounds := (Exporter.performed_split split).1
    exact rounds.representable_of_write written listed point pointListed

theorem Configuration.undated_iff_last_overwritten :
    let counted (times : List Instant) : Operation := .exportRecords
      [⟨"sent", "", "", [], .longSum (times.map fun time => ⟨1, .empty, ⟨0⟩, time⟩)⟩]
    let beyond : Instant := ⟨Instant.latest.nanoseconds + 1⟩
    let exporter := { standard with description := some ⟨"host", []⟩ }.exporter "my-project" .earliest
    let respond : Responder Call CallResult Unit := fun state _ => (.ok (), state)
    (∃ first second, exporter.performed respond () [counted [beyond, .latest],
        counted [.latest, beyond]] = [first, second] ∧
      first.result ≠ .exported .undated ∧ second.result = .exported .undated) ∧
    (∃ first second, exporter.performed respond () [counted [.earliest], counted [.latest]] =
        [first, second] ∧
      second.result ≠ .exported .undated ∧
      ∃ each, (.write .plain "projects/my-project" [each], .ok ()) ∈ second.asked ∧
        each.points = [⟨⟨Instant.earliest.addMilliseconds 1, .latest⟩, .int64 1⟩] ∧
        ∀ point ∈ each.points,
          point.interval.start.Representable ∧ point.interval.stop.Representable) := by
  intro counted beyond exporter respond
  let after (one : Operation) : Performed Unit := ⟨exporter, one, exporter.perform one respond ()⟩
  let next (one two : Operation) : Performed Unit := ⟨(after one).next, two,
    (after one).next.perform two respond (after one).transcript.state⟩
  have both (one two : Operation) :
      exporter.performed respond () [one, two] = [after one, next one two] := rfl
  refine ⟨?_, ?_⟩
  · let first := counted [beyond, .latest]
    let second := counted [.latest, beyond]
    obtain ⟨each, _⟩ := undated_iff_last { standard with description := some ⟨"host", []⟩ }
      "my-project" .earliest (by decide) [first, second] respond ()
    obtain ⟨undatedIff, _⟩ := each [] (after first) [next first second] (both first second)
      (by simp) (by simp) _ rfl
    have dated := mt undatedIff.mp (by decide +kernel)
    obtain ⟨undatedIffToo, _⟩ := each [after first] (next first second) [] (both first second)
      (by simpa using dated) (by simp [after, first, counted]) _ rfl
    have undated := undatedIffToo.mpr (by decide +kernel)
    exact ⟨after first, next first second, both first second, dated, undated⟩
  · let first := counted [.earliest]
    let second := counted [.latest]
    let each : Series := ⟨"workload.googleapis.com/sent", .empty, ⟨"host", .empty⟩, .cumulative,
      .int64, [⟨⟨Instant.earliest.addMilliseconds 1, .latest⟩, .int64 1⟩]⟩
    obtain ⟨_, safe⟩ := undated_iff_last { standard with description := some ⟨"host", []⟩ }
      "my-project" .earliest (by decide) [first, second] respond ()
    have performed : next first second ∈ exporter.performed respond () [first, second] := by
      simp [both]
    have written : (.write .plain "projects/my-project" [each], .ok ()) ∈
        (next first second).asked := by decide +kernel
    obtain ⟨notUndated, inRange⟩ := safe (by decide) (next first second) performed
    have within := inRange .plain "projects/my-project" [each] (.ok ()) written each (by simp)
    exact ⟨after first, next first second, both first second, notUndated, each, written, rfl, within⟩

end CloudMonitoring
