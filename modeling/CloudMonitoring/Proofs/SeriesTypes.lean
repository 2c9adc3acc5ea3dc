import CloudMonitoring.Proofs.Settlement

/-!
The types of the series of one export. A series has the kind and value type of the first sample with
its key but the value of the last one, and the descriptor of a metric type is that of its first
sample. So a series is well typed just when these samples agree, which they do when all metrics of a
metric type have points of one shape.
-/

namespace CloudMonitoring

def TypedValue.type : TypedValue → ValueType
  | .int64 _ => .int64
  | .double _ => .double
  | .distribution _ => .distribution

structure Series.WellTyped (series : Series) (descriptors : List Descriptor) : Prop where
  point : ∃ point, series.points = [point] ∧ point.value.type = series.valueType
  described : ∃ descriptor,
    (descriptors.filter fun other => other.metricType = series.metricType) = [descriptor] ∧
      series.kind = descriptor.kind ∧ series.valueType = descriptor.valueType

namespace Sample

/-- Whether the first sample with a key has the types of the first sample of its metric type, and
the last one has its value type. -/
def AgreeAt (key : SeriesKey) (samples : List Sample) : Prop :=
  ∃ first last header,
    (withKey key samples).head? = some first ∧
    (withKey key samples).getLast? = some last ∧
    (ofType key.metricType samples).head? = some header ∧
    first.descriptor.kind = header.descriptor.kind ∧
    first.descriptor.valueType = header.descriptor.valueType ∧
    last.descriptor.valueType = header.descriptor.valueType

theorem exists_head?_ofType {samples : List Sample} {sample : Sample} (member : sample ∈ samples) :
    ∃ header, (ofType sample.descriptor.metricType samples).head? = some header := by
  have listed : sample ∈ ofType sample.descriptor.metricType samples :=
    mem_ofType.mpr ⟨member, rfl⟩
  cases headers : ofType sample.descriptor.metricType samples with
  | nil => simp [headers] at listed
  | cons header rest => exact ⟨header, rfl⟩

theorem agreeAt_of_same_types {samples : List Sample} {key : SeriesKey} {pending : Pending}
    (found : pending? key samples = some pending)
    (sameTypes : ∀ sample ∈ samples, ∀ other ∈ samples,
      sample.descriptor.metricType = other.descriptor.metricType →
        sample.descriptor.kind = other.descriptor.kind ∧
          sample.descriptor.valueType = other.descriptor.valueType) :
    AgreeAt key samples := by
  obtain ⟨first, last, isFirst, isLast, _⟩ := pending?_eq_some found
  obtain ⟨firstListed, firstKey⟩ := mem_of_head? isFirst
  obtain ⟨lastListed, lastKey⟩ := mem_of_getLast? isLast
  have firstType : first.descriptor.metricType = key.metricType := congrArg (·.metricType) firstKey
  have lastType : last.descriptor.metricType = key.metricType := congrArg (·.metricType) lastKey
  obtain ⟨header, isHeader⟩ := exists_head?_ofType firstListed
  rw [firstType] at isHeader
  obtain ⟨headerListed, headerType⟩ := mem_ofType.mp (List.mem_of_mem_head? isHeader)
  have firstTypes := sameTypes first firstListed header headerListed
    (firstType.trans headerType.symm)
  have lastTypes := sameTypes last lastListed header headerListed (lastType.trans headerType.symm)
  exact ⟨first, last, header, isFirst, isLast, isHeader, firstTypes.1, firstTypes.2, lastTypes.2⟩

end Sample

theorem MetricData.type_of_mem_values {data : MetricData} {labels : Labels} {time : Instant}
    {value : TypedValue} (member : (labels, time, value) ∈ data.values)
    {kind : MetricKind} {valueType : ValueType} (types : data.types? = some (kind, valueType)) :
    value.type = valueType := by
  cases data with
  | longGauge points | doubleGauge points | longSum points | doubleSum points | histogram points =>
      simp only [values, List.mem_map, Prod.mk.injEq] at member
      obtain ⟨point, _, _, _, rfl⟩ := member
      simp only [types?, Option.some.injEq, Prod.mk.injEq] at types
      exact types.2
  | summary points => simp [types?] at types

theorem Naming.type_of_mem_allSamples {naming : Naming} {records : List MetricRecord}
    {sample : Sample} (member : sample ∈ naming.allSamples records) :
    sample.value.type = sample.descriptor.valueType := by
  obtain ⟨metric, _, ofMetric⟩ := List.mem_flatMap.mp member
  obtain ⟨types, _, listed⟩ := mem_samplesOf ofMetric
  exact MetricData.type_of_mem_values listed types

namespace Aggregation

theorem metricType_of_mem_descriptors {samples : List Sample} {entry : String × Descriptor}
    (member : entry ∈ (ofSamples samples).descriptors) : entry.2.metricType = entry.1 := by
  have found := (Pairs.get?_eq_some_iff (keys_descriptors_nodup samples)).mpr member
  rw [get?_descriptors, Option.map_eq_some_iff] at found
  obtain ⟨header, isHeader, same⟩ := found
  rw [← same]
  exact (Sample.mem_ofType.mp (List.mem_of_mem_head? isHeader)).2

theorem filter_descriptorList (samples : List Sample) (metricType : String) :
    ((ofSamples samples).descriptorList.filter fun other => other.metricType = metricType) =
      ((Sample.ofType metricType samples).head?.map Sample.descriptor).toList := by
  have byKey : ∀ entry ∈ (ofSamples samples).descriptors,
      decide (entry.2.metricType = metricType) = decide (entry.1 = metricType) := by
    intro entry member
    rw [metricType_of_mem_descriptors member]
  rw [← get?_descriptors, descriptorList, List.filter_map, Function.comp_def,
    List.filter_congr byKey, Pairs.filter_key (keys_descriptors_nodup samples)]
  cases Pairs.get? metricType (ofSamples samples).descriptors with
  | none => rfl
  | some descriptor => rfl

theorem wellTyped_settledOver_iff {samples : List Sample}
    (typed : ∀ sample ∈ samples, sample.value.type = sample.descriptor.valueType)
    {key : SeriesKey} {pending : Pending} (found : pending? key samples = some pending)
    (table : IntervalTable) :
    (settledOver table key pending).WellTyped (ofSamples samples).descriptorList ↔
      Sample.AgreeAt key samples := by
  obtain ⟨first, last, isFirst, isLast, rfl⟩ := pending?_eq_some found
  obtain ⟨firstListed, firstKey⟩ := Sample.mem_of_head? isFirst
  obtain ⟨lastListed, _⟩ := Sample.mem_of_getLast? isLast
  obtain ⟨header, isHeader⟩ := Sample.exists_head?_ofType firstListed
  have sameType : first.descriptor.metricType = key.metricType := congrArg (·.metricType) firstKey
  rw [sameType] at isHeader
  have described := filter_descriptorList samples key.metricType
  rw [isHeader, Option.map_some, Option.toList_some] at described
  have lastType := typed last lastListed
  constructor
  · rintro ⟨⟨point, onePoint, value⟩, descriptor, only, kind, valueType⟩
    have sameDescriptor : header.descriptor = descriptor := by
      have both := described.symm.trans only
      simpa using both
    have samePoint : last.value = point.value := by
      simp only [settledOver, Pending.over, List.cons.injEq, and_true] at onePoint
      exact congrArg Point.value onePoint
    subst sameDescriptor
    refine ⟨first, last, header, isFirst, isLast, isHeader, kind, valueType, ?_⟩
    rw [← lastType, samePoint, value]
    exact valueType
  · rintro ⟨first', last', header', isFirst', isLast', isHeader', kind, valueType, value⟩
    obtain rfl : first = first' := by simpa [isFirst] using isFirst'
    obtain rfl : last = last' := by simpa [isLast] using isLast'
    obtain rfl : header = header' := by simpa [isHeader] using isHeader'
    refine ⟨⟨_, rfl, ?_⟩, header.descriptor, described, kind, valueType⟩
    exact lastType.trans (value.trans valueType.symm)

/-- Every series has one point, and it is well typed just when the samples of its key agree. -/
theorem wellTyped_iff_agreeAt (naming : Naming) (records : List MetricRecord)
    (table next : IntervalTable) (series : List Series)
    (finished : (empty.recordAll naming records).1.finish table = some (series, next)) :
    ∀ one ∈ series,
      (∃ point, one.points = [point]) ∧
      (one.WellTyped (empty.recordAll naming records).1.descriptorList ↔
        Sample.AgreeAt one.key (naming.allSamples records)) := by
  rw [recordAll_fst] at finished ⊢
  intro one member
  obtain ⟨pending, found, same⟩ := (mem_finish finished one).mp member
  refine ⟨⟨⟨_, pending.value⟩, by rw [same]; rfl⟩, ?_⟩
  have typed : ∀ sample ∈ naming.allSamples records,
      sample.value.type = sample.descriptor.valueType :=
    fun _ listed => Naming.type_of_mem_allSamples listed
  rw [← wellTyped_settledOver_iff typed found table, ← same]
  rfl

theorem wellTyped_iff_agreeAt_replaced :
    let records : List MetricRecord :=
      [⟨"load", "", "", [], .longSum [⟨1, .empty, ⟨0⟩, ⟨10⟩⟩, ⟨2, .empty, ⟨0⟩, ⟨20⟩⟩]⟩,
        ⟨"errors", "", "", [], .doubleGauge [⟨.zero, .empty, ⟨0⟩, ⟨20⟩⟩]⟩]
    let naming : Naming := ⟨"custom", some ⟨"host", []⟩⟩
    let load : Series := ⟨"custom/load", .empty, ⟨"host", .empty⟩, .cumulative, .int64,
      [⟨⟨⟨5⟩, ⟨20⟩⟩, .int64 2⟩]⟩
    let errors : Series := ⟨"custom/errors", .empty, ⟨"host", .empty⟩, .gauge, .double,
      [⟨⟨⟨20⟩, ⟨20⟩⟩, .double .zero⟩]⟩
    ((empty.recordAll naming records).1.finish (.starting ⟨5⟩)).map (·.1) = some [load, errors] ∧
      ∀ one ∈ [load, errors],
        (∃ point, one.points = [point]) ∧
        (one.WellTyped (empty.recordAll naming records).1.descriptorList ↔
          Sample.AgreeAt one.key (naming.allSamples records)) := by
  intro records naming load errors
  have settled : ((empty.recordAll naming records).1.finish (.starting ⟨5⟩)).map (·.1) =
      some [load, errors] := by decide +kernel
  obtain ⟨⟨series, next⟩, finished, same⟩ := Option.map_eq_some_iff.mp settled
  rw [← same]
  exact ⟨settled.trans (congrArg some same.symm),
    wellTyped_iff_agreeAt naming records (.starting ⟨5⟩) next series finished⟩

/-- A metric type with points of two shapes makes a series of whole numbers with a double in it. -/
theorem not_wellTyped_of_two_shapes :
    ¬ ∀ (naming : Naming) (records : List MetricRecord) (table next : IntervalTable)
        (series : List Series),
        (empty.recordAll naming records).1.finish table = some (series, next) →
        ∀ one ∈ series, one.WellTyped (empty.recordAll naming records).1.descriptorList := by
  intro always
  let records : List MetricRecord :=
    [⟨"load", "", "", [], .longGauge [⟨1, .empty, ⟨10⟩, ⟨10⟩⟩]⟩,
      ⟨"load", "", "", [], .doubleGauge [⟨.zero, .empty, ⟨20⟩, ⟨20⟩⟩]⟩]
  let load : Series :=
    ⟨"custom/load", .empty, ⟨"host", .empty⟩, .gauge, .int64, [⟨.instant ⟨20⟩, .double .zero⟩]⟩
  have settled : ((empty.recordAll ⟨"custom", some ⟨"host", []⟩⟩ records).1.finish
      (.starting ⟨0⟩)).map (·.1) = some [load] := by decide +kernel
  obtain ⟨⟨_, next⟩, finished, rfl⟩ := Option.map_eq_some_iff.mp settled
  have typed := always _ records (.starting ⟨0⟩) next [load] finished load
    (List.mem_singleton_self load)
  obtain ⟨point, onePoint, value⟩ := typed.point
  have samePoint : ⟨.instant ⟨20⟩, .double .zero⟩ = point := (List.cons.inj onePoint).1
  rw [← samePoint] at value
  exact absurd value (by decide)

theorem same_types_of_one_shape {naming : Naming} {records : List MetricRecord}
    (oneShape : ∀ first ∈ records, ∀ second ∈ records,
      metricType naming.metricPrefix first.name = metricType naming.metricPrefix second.name →
      first.data.types?.isSome → second.data.types?.isSome →
      first.data.types? = second.data.types?)
    {sample other : Sample} (listed : sample ∈ naming.allSamples records)
    (otherListed : other ∈ naming.allSamples records)
    (sameType : sample.descriptor.metricType = other.descriptor.metricType) :
    sample.descriptor.kind = other.descriptor.kind ∧
      sample.descriptor.valueType = other.descriptor.valueType := by
  obtain ⟨metric, recorded, ofMetric⟩ := List.mem_flatMap.mp listed
  obtain ⟨second, secondRecorded, ofSecond⟩ := List.mem_flatMap.mp otherListed
  obtain ⟨types, named, _⟩ := Naming.mem_samplesOf ofMetric
  obtain ⟨otherTypes, otherNamed, _⟩ := Naming.mem_samplesOf ofSecond
  have agreed := oneShape metric recorded second secondRecorded
    (named.symm.trans (sameType.trans otherNamed)) (by simp [types]) (by simp [otherTypes])
  rw [types, otherTypes] at agreed
  simpa using agreed

/-- When all metrics of a metric type are of shapes with the same types, every series is well
typed. -/
theorem wellTyped_of_one_shape {naming : Naming} {records : List MetricRecord}
    {table next : IntervalTable} {series : List Series}
    (oneShape : ∀ first ∈ records, ∀ second ∈ records,
      metricType naming.metricPrefix first.name = metricType naming.metricPrefix second.name →
      first.data.types?.isSome → second.data.types?.isSome →
      first.data.types? = second.data.types?)
    (finished : (empty.recordAll naming records).1.finish table = some (series, next)) :
    ∀ one ∈ series, one.WellTyped (empty.recordAll naming records).1.descriptorList := by
  rw [recordAll_fst] at finished ⊢
  intro one member
  obtain ⟨pending, found, same⟩ := (mem_finish finished one).mp member
  rw [same]
  refine (wellTyped_settledOver_iff (fun _ => Naming.type_of_mem_allSamples) found table).mpr ?_
  exact Sample.agreeAt_of_same_types found fun sample listed other otherListed sameType =>
    same_types_of_one_shape oneShape listed otherListed sameType

end Aggregation

end CloudMonitoring
