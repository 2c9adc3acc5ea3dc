import CloudMonitoring.Proofs.Calls
import CloudMonitoring.Proofs.Grouping
import CloudMonitoring.Proofs.IntervalRequests
import Mathlib.Data.List.Forall2

/-!
Where no two points have the same key, their order does not matter. Records may stand in any order, and
points in any order within them: the same series come out, with the same intervals, and the interval
table holds the same afterwards.
-/

namespace CloudMonitoring

namespace Pairs

variable {κ α : Type} [DecidableEq κ]

theorem set_of_absent {key : κ} {pairs : List (κ × α)} (absent : key ∉ keys pairs) (value : α) :
    set key value pairs = pairs ++ [(key, value)] := by
  induction pairs with
  | nil => rfl
  | cons head rest ih =>
      simp only [keys_cons, List.mem_cons, not_or] at absent
      simp [set, absent.1, ih absent.2]

theorem get?_perm {pairs others : List (κ × α)} (distinct : (keys pairs).Nodup)
    (same : pairs.Perm others) (key : κ) : get? key pairs = get? key others := by
  have distinctToo : (keys others).Nodup := (same.map Prod.fst).nodup_iff.mp distinct
  have found (value : α) : get? key pairs = some value ↔ get? key others = some value := by
    rw [get?_eq_some_iff distinct, get?_eq_some_iff distinctToo]
    exact same.mem_iff
  exact Option.ext found

end Pairs

inductive MetricData.Rearranged : MetricData → MetricData → Prop
  | longGauge {points others} : points.Perm others → Rearranged (.longGauge points) (.longGauge others)
  | doubleGauge {points others} :
      points.Perm others → Rearranged (.doubleGauge points) (.doubleGauge others)
  | longSum {points others} : points.Perm others → Rearranged (.longSum points) (.longSum others)
  | doubleSum {points others} : points.Perm others → Rearranged (.doubleSum points) (.doubleSum others)
  | histogram {points others} : points.Perm others → Rearranged (.histogram points) (.histogram others)
  | summary {points others} : points.Perm others → Rearranged (.summary points) (.summary others)

structure MetricRecord.Rearranged (one other : MetricRecord) : Prop where
  name : one.name = other.name
  description : one.description = other.description
  unit : one.unit = other.unit
  resource : one.resource = other.resource
  data : one.data.Rearranged other.data

def Rearranged (records others : List MetricRecord) : Prop :=
  ∃ between, records.Perm between ∧ List.Forall₂ MetricRecord.Rearranged between others

theorem MetricData.Rearranged.types? {one other : MetricData} (same : one.Rearranged other) :
    one.types? = other.types? := by
  cases same <;> rfl

theorem MetricData.Rearranged.values {one other : MetricData} (same : one.Rearranged other) :
    one.values.Perm other.values := by
  cases same with
  | summary _ => exact .nil
  | longGauge points | doubleGauge points | longSum points | doubleSum points | histogram points =>
      exact points.map _

namespace Naming

variable (naming : Naming)

theorem samplesOf_perm {one other : MetricRecord} (same : one.Rearranged other) :
    (naming.samplesOf one).Perm (naming.samplesOf other) := by
  obtain ⟨name, description, unit, resource, data⟩ := one
  obtain ⟨rfl, rfl, rfl, rfl, rearranged⟩ := same
  have types := rearranged.types?
  simp only at types
  simp only [samplesOf, samples, MetricRecord.types, types, MetricRecord.describe]
  cases other.data.types? with
  | none => exact .nil
  | some types => exact rearranged.values.map _

theorem allSamples_perm {records others : List MetricRecord} (same : Rearranged records others) :
    (naming.allSamples records).Perm (naming.allSamples others) := by
  obtain ⟨between, moved, matched⟩ := same
  have within : (naming.allSamples between).Perm (naming.allSamples others) := by
    clear moved
    induction matched with
    | nil => exact .nil
    | cons first _ ih => exact (naming.samplesOf_perm first).append ih
  exact (moved.flatMap_right naming.samplesOf).trans within

end Naming

structure IntervalTable.Alike (one other : IntervalTable) : Prop where
  startTime : one.startTime = other.startTime
  last : ∀ key, one.last? key = other.last? key
  size : one.size = other.size

namespace IntervalTable

theorem size_extend (table : IntervalTable) (key : SeriesKey) (stop : Instant) :
    (table.extend key stop).2.size =
      table.size + if key ∈ Pairs.keys table.exported then 0 else 1 := by
  have sizeKeys (table : IntervalTable) : table.size = (Pairs.keys table.exported).length :=
    (List.length_map _).symm
  rw [sizeKeys, sizeKeys, keys_extend]
  split
  · rfl
  · simp

end IntervalTable

namespace Aggregation

def isNewTo (table : IntervalTable) (entry : SeriesKey × Pending) : Bool :=
  entry.2.kind = .cumulative ∧ entry.1 ∉ Pairs.keys table.exported

theorem size_settle {pending : List (SeriesKey × Pending)} (distinct : (Pairs.keys pending).Nodup)
    (table : IntervalTable) :
    (settle pending table).2.size = table.size + pending.countP (isNewTo table) := by
  induction pending generalizing table with
  | nil => rfl
  | cons head rest ih =>
      obtain ⟨key, first⟩ := head
      obtain ⟨absent, tail⟩ := List.nodup_cons.mp distinct
      have later := ih tail (settleOne key first table).2
      cases kind : first.kind with
      | gauge =>
          have stays : (settleOne key first table).2 = table := by simp [settleOne, kind]
          have known : isNewTo table (key, first) = false := by simp [isNewTo, kind]
          rw [stays] at later
          simp only [settle, stays, later, List.countP_cons, known]
          rfl
      | cumulative =>
          have moves : (settleOne key first table).2 = (table.extend key first.time).2 := by
            simp [settleOne, kind]
          -- No other series has this key, so the entry made for it changes nothing for them.
          have others : rest.countP (isNewTo (table.extend key first.time).2) =
              rest.countP (isNewTo table) := by
            apply List.countP_congr
            rintro ⟨other, next⟩ member
            have different : other ≠ key := by
              intro same
              have listed : other ∈ Pairs.keys rest := List.mem_map_of_mem member
              exact absent (same ▸ listed)
            simp only [isNewTo, IntervalTable.keys_extend]
            split
            · rfl
            · simp [different]
          rw [moves] at later
          simp only [settle, moves, later, others, IntervalTable.size_extend, List.countP_cons]
          by_cases known : key ∈ Pairs.keys table.exported
          · simp [isNewTo, kind, known]
          · simp [isNewTo, kind, known]
            omega

theorem place_of_absent {sample : Sample} {series : List (SeriesKey × Pending)}
    (absent : sample.key ∉ Pairs.keys series) :
    (place sample series).1 = series ++ [(sample.key, Pending.spanning sample sample)] := by
  have unplaced : Pairs.get? sample.key series = none := (Pairs.get?_eq_none_iff _ _).mpr absent
  simp only [place, unplaced, Pairs.set_of_absent absent]
  rfl

theorem series_of_distinct {samples : List Sample} (distinct : (samples.map Sample.key).Nodup) :
    (ofSamples samples).series =
      samples.map fun sample => (sample.key, Pending.spanning sample sample) := by
  induction samples using List.reverseRecOn with
  | nil => rfl
  | append_singleton samples last ih =>
      rw [List.map_append, List.map_singleton] at distinct
      obtain ⟨before, _, apart⟩ := List.nodup_append.mp distinct
      have absent : last.key ∉ Pairs.keys (ofSamples samples).series := by
        rw [keys_series, List.mem_eraseDups]
        intro known
        exact apart last.key known last.key (by simp) rfl
      have placed : (ofSamples (samples ++ [last])).series =
          (place last (ofSamples samples).series).1 := by
        rw [ofSamples_append_single]
        rfl
      rw [placed, place_of_absent absent, ih before, List.map_append, List.map_singleton]

variable {samples others : List Sample}

theorem settle_perm (distinct : (samples.map Sample.key).Nodup) (same : samples.Perm others)
    (table : IntervalTable) :
    let one := settle (ofSamples samples).series table
    let other := settle (ofSamples others).series table
    one.1.Perm other.1 ∧ one.2.Alike other.2 := by
  intro one other
  have distinctToo := (same.map Sample.key).nodup_iff.mp distinct
  have pending : (ofSamples samples).series.Perm (ofSamples others).series := by
    rw [series_of_distinct distinct, series_of_distinct distinctToo]
    exact same.map _
  refine ⟨?_, ?_, ?_, ?_⟩
  · rw [settle_fst (keys_series_nodup samples), settle_fst (keys_series_nodup others)]
    exact pending.map _
  · rw [startTime_settle, startTime_settle]
  · intro key
    rw [last?_settle (keys_series_nodup samples), last?_settle (keys_series_nodup others),
      Pairs.get?_perm (keys_series_nodup samples) pending]
  · rw [size_settle (keys_series_nodup samples), size_settle (keys_series_nodup others),
      pending.countP_eq]

theorem finish_perm (distinct : (samples.map Sample.key).Nodup) (same : samples.Perm others)
    (table : IntervalTable) :
    Option.Rel (fun one other => one.1.Perm other.1 ∧ one.2.Alike other.2)
      ((ofSamples samples).finish table) ((ofSamples others).finish table) := by
  obtain ⟨series, intervals⟩ := settle_perm distinct same table
  have dated : (∀ one ∈ (settle (ofSamples samples).series table).1, one.Representable) ↔
      ∀ one ∈ (settle (ofSamples others).series table).1, one.Representable := by
    simp only [series.mem_iff]
  simp only [finish, dated]
  split
  · exact .some ⟨series, intervals⟩
  · exact .none

end Aggregation

namespace Exporter

theorem mem_types_descriptors_iff (exporter : Exporter) (records : List MetricRecord)
    (metricType : String) :
    metricType ∈ (exporter.descriptors records).map Descriptor.metricType ↔
      ∃ sample ∈ exporter.naming.allSamples records, sample.descriptor.metricType = metricType := by
  have grouped : exporter.descriptors records =
      exporter.naming.groupedDescriptors (records.flatMap MetricRecord.points) := by
    rw [descriptors, aggregate_fst, Naming.allSamples_eq, Naming.descriptors_eq_grouped]
  rw [grouped, Naming.map_metricType_groupedDescriptors, List.mem_eraseDups, Naming.allSamples_eq]
  simp only [List.mem_map, exists_exists_and_eq_and]
  rfl

/-- Two exports of the same records in any order, with the points of each in any order, where no two
points have the same key. Either both of them have only series with a calendar date, and then they are
the same series in some order and leave tables that hold the same, or neither has. -/
theorem settled_of_rearranged (exporter : Exporter) (records others : List MetricRecord)
    (rearranged : Rearranged records others)
    (distinct : ((records.flatMap MetricRecord.points).map exporter.naming.keyOf).Nodup) :
    (∀ metricType, metricType ∈ (exporter.descriptors records).map Descriptor.metricType ↔
      metricType ∈ (exporter.descriptors others).map Descriptor.metricType) ∧
    Option.Rel (fun one other => one.1.Perm other.1 ∧ one.2.Alike other.2)
      (exporter.settled records) (exporter.settled others) := by
  have samples := exporter.naming.allSamples_perm rearranged
  have distinctSamples : ((exporter.naming.allSamples records).map Sample.key).Nodup := by
    rw [Naming.allSamples_eq, List.map_map]
    exact distinct
  refine ⟨?_, ?_⟩
  · intro metricType
    rw [mem_types_descriptors_iff, mem_types_descriptors_iff]
    simp only [samples.mem_iff]
  · rw [settled_eq, settled_eq]
    exact Aggregation.finish_perm distinctSamples samples exporter.intervals

theorem settled_of_rearranged_known :
    let room (name : String) : Labels := Dict.empty.insert "room" name
    let sent (rooms : List String) : MetricRecord := ⟨"sent", "", "", [],
      .longSum (rooms.map fun name => ⟨1, room name, ⟨0⟩, ⟨9000000⟩⟩)⟩
    let load : MetricRecord := ⟨"load", "", "", [], .longGauge [⟨1, .empty, ⟨10⟩, ⟨10⟩⟩]⟩
    let delay : MetricRecord := ⟨"delay", "", "", [], .summary [⟨.empty, ⟨0⟩, ⟨10⟩, 1, .zero⟩]⟩
    let records := [delay, sent ["a", "b"], load, delay]
    let others := [load, delay, delay, sent ["b", "a"]]
    let exporter : Exporter := { starting "my-project" ⟨4⟩ with
      intervals := ⟨⟨4⟩, [(⟨"workload.googleapis.com/sent", room "a"⟩, ⟨⟨4⟩, ⟨2000000⟩⟩)]⟩ }
    (Rearranged records others ∧
      ((records.flatMap MetricRecord.points).map exporter.naming.keyOf).Nodup) ∧
    Option.Rel (fun one other => one.1.Perm other.1 ∧ one.2.Alike other.2)
      (exporter.settled records) (exporter.settled others) ∧
    (exporter.settled records).map Prod.fst ≠ (exporter.settled others).map Prod.fst := by
  intro room sent load delay records others exporter
  have rearranged : Rearranged records others := by
    have sameLoad : load.Rearranged load := ⟨rfl, rfl, rfl, rfl, .longGauge (.refl _)⟩
    have sameDelay : delay.Rearranged delay := ⟨rfl, rfl, rfl, rfl, .summary (.refl _)⟩
    have swapped : (sent ["a", "b"]).Rearranged (sent ["b", "a"]) :=
      ⟨rfl, rfl, rfl, rfl, .longSum (.swap _ _ [])⟩
    exact ⟨[load, delay, delay, sent ["a", "b"]], by decide +kernel,
      .cons sameLoad (.cons sameDelay (.cons sameDelay (.cons swapped .nil)))⟩
  have distinct : ((records.flatMap MetricRecord.points).map exporter.naming.keyOf).Nodup := by
    decide +kernel
  exact ⟨⟨rearranged, distinct⟩, (exporter.settled_of_rearranged records others rearranged distinct).2,
    by decide +kernel⟩

end Exporter

end CloudMonitoring
