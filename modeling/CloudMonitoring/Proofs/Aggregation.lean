import CloudMonitoring.Metric.Aggregation
import Mathlib.Data.List.Induction

/-!
What the points of one export fold into. The series stand in the order in which their keys first
appear; a series has the types of the first sample with its key and the resource, time and value of
the last one. Of each metric type the first descriptor stays.
-/

namespace CloudMonitoring

def Naming.samplesOf (naming : Naming) (metric : MetricRecord) : List Sample :=
  match naming.samples metric with
  | .ok samples => samples
  | .error _ => []

def Naming.allSamples (naming : Naming) (records : List MetricRecord) : List Sample :=
  records.flatMap naming.samplesOf

theorem Naming.mem_samplesOf {naming : Naming} {metric : MetricRecord} {sample : Sample}
    (member : sample ∈ naming.samplesOf metric) :
    metric.data.types? = some (sample.descriptor.kind, sample.descriptor.valueType) ∧
      sample.descriptor.metricType = metricType naming.metricPrefix metric.name ∧
      (sample.labels, sample.time, sample.value) ∈ metric.data.values := by
  simp only [samplesOf, samples, MetricRecord.types] at member
  cases supported : metric.data.types? with
  | none => simp [supported, Except.map] at member
  | some types =>
      simp only [supported, Except.map, List.mem_map] at member
      obtain ⟨⟨labels, time, value⟩, listed, rfl⟩ := member
      exact ⟨rfl, rfl, listed⟩

theorem eraseDups_append_single {α : Type} [DecidableEq α] (items : List α) (last : α) :
    (items ++ [last]).eraseDups =
      if last ∈ items then items.eraseDups else items.eraseDups ++ [last] := by
  rw [List.eraseDups_append, List.removeAll]
  by_cases known : last ∈ items
  · simp [known]
  · simp [known, List.eraseDups_cons]

namespace Sample

def withKey (key : SeriesKey) (samples : List Sample) : List Sample :=
  samples.filter fun sample => sample.key = key

def ofType (metricType : String) (samples : List Sample) : List Sample :=
  samples.filter fun sample => sample.descriptor.metricType = metricType

theorem withKey_append_single (key : SeriesKey) (samples : List Sample) (last : Sample) :
    withKey key (samples ++ [last]) =
      if last.key = key then withKey key samples ++ [last] else withKey key samples := by
  by_cases same : last.key = key
  · simp [withKey, same]
  · simp [withKey, same]

theorem ofType_append_single (metricType : String) (samples : List Sample) (last : Sample) :
    ofType metricType (samples ++ [last]) =
      if last.descriptor.metricType = metricType then ofType metricType samples ++ [last]
      else ofType metricType samples := by
  by_cases same : last.descriptor.metricType = metricType
  · simp [ofType, same]
  · simp [ofType, same]

theorem mem_withKey {key : SeriesKey} {samples : List Sample} {sample : Sample} :
    sample ∈ withKey key samples ↔ sample ∈ samples ∧ sample.key = key := by
  simp [withKey]

theorem mem_of_head? {samples : List Sample} {key : SeriesKey} {first : Sample}
    (isFirst : (withKey key samples).head? = some first) : first ∈ samples ∧ first.key = key :=
  mem_withKey.mp (List.mem_of_mem_head? isFirst)

theorem mem_of_getLast? {samples : List Sample} {key : SeriesKey} {last : Sample}
    (isLast : (withKey key samples).getLast? = some last) : last ∈ samples ∧ last.key = key :=
  mem_withKey.mp (List.mem_of_getLast? isLast)

theorem mem_ofType {metricType : String} {samples : List Sample} {sample : Sample} :
    sample ∈ ofType metricType samples ↔
      sample ∈ samples ∧ sample.descriptor.metricType = metricType := by
  simp [ofType]

end Sample

def Pending.spanning (first last : Sample) : Pending :=
  { kind := first.descriptor.kind
    valueType := first.descriptor.valueType
    resource := last.resource
    time := last.time
    value := last.value }

def pending? (key : SeriesKey) (samples : List Sample) : Option Pending :=
  (Sample.withKey key samples).head?.bind fun first =>
    (Sample.withKey key samples).getLast?.map (Pending.spanning first)

theorem pending?_append_single (key : SeriesKey) (samples : List Sample) (last : Sample) :
    pending? key (samples ++ [last]) =
      if last.key = key then
        some (Pending.spanning ((Sample.withKey key samples).head?.getD last) last)
      else pending? key samples := by
  simp only [pending?, Sample.withKey_append_single]
  by_cases same : last.key = key
  · cases earlier : Sample.withKey key samples with
    | nil => simp [same]
    | cons first rest => simp [same, List.getLast?_cons]
  · simp [same]

theorem pending?_eq_some {key : SeriesKey} {samples : List Sample} {pending : Pending}
    (found : pending? key samples = some pending) :
    ∃ first last, (Sample.withKey key samples).head? = some first ∧
      (Sample.withKey key samples).getLast? = some last ∧
      pending = Pending.spanning first last := by
  simp only [pending?, Option.bind_eq_some_iff, Option.map_eq_some_iff] at found
  obtain ⟨first, isFirst, last, isLast, spanned⟩ := found
  exact ⟨first, last, isFirst, isLast, spanned.symm⟩

namespace Aggregation

def ofSamples (samples : List Sample) : Aggregation := (empty.addAll samples).1

theorem addAll_append (aggregation : Aggregation) (first second : List Sample) :
    (aggregation.addAll (first ++ second)).1 = ((aggregation.addAll first).1.addAll second).1 := by
  induction first generalizing aggregation with
  | nil => rfl
  | cons sample rest ih => exact ih (aggregation.add sample).1

theorem ofSamples_append_single (samples : List Sample) (last : Sample) :
    ofSamples (samples ++ [last]) = ((ofSamples samples).add last).1 :=
  addAll_append empty samples [last]

theorem recordAll_fst (naming : Naming) (aggregation : Aggregation) (records : List MetricRecord) :
    (aggregation.recordAll naming records).1 =
      (aggregation.addAll (naming.allSamples records)).1 := by
  induction records generalizing aggregation with
  | nil => rfl
  | cons metric rest ih =>
      simp only [Naming.allSamples, List.flatMap_cons, addAll_append] at ih ⊢
      cases found : naming.samples metric with
      | ok samples => simp [recordAll, record, Naming.samplesOf, found, Except.map, ih]
      | error error => simp [recordAll, record, Naming.samplesOf, found, Except.map, ih, addAll]

theorem get?_place (sample : Sample) (key : SeriesKey) (series : List (SeriesKey × Pending)) :
    Pairs.get? key (place sample series).1 =
      if key = sample.key then
        some (match Pairs.get? sample.key series with
          | some earlier => { earlier with
              resource := sample.resource, time := sample.time, value := sample.value }
          | none => .spanning sample sample)
      else Pairs.get? key series := by
  cases found : Pairs.get? sample.key series with
  | some earlier => simp [place, found, Pairs.get?_set]
  | none => simp [place, found, Pairs.get?_set, Pending.spanning]

theorem keys_place (sample : Sample) (series : List (SeriesKey × Pending)) :
    Pairs.keys (place sample series).1 =
      if sample.key ∈ Pairs.keys series then Pairs.keys series
      else Pairs.keys series ++ [sample.key] := by
  cases found : Pairs.get? sample.key series with
  | some earlier => simp [place, found, Pairs.keys_set]
  | none => simp [place, found, Pairs.keys_set]

theorem get?_series (samples : List Sample) (key : SeriesKey) :
    Pairs.get? key (ofSamples samples).series = pending? key samples := by
  induction samples using List.reverseRecOn generalizing key with
  | nil => rfl
  | append_singleton samples last ih =>
      have placed : Pairs.get? key (ofSamples (samples ++ [last])).series =
          Pairs.get? key (place last (ofSamples samples).series).1 := by
        rw [ofSamples_append_single]
        rfl
      rw [placed, get?_place, pending?_append_single]
      by_cases same : last.key = key
      · subst same
        rw [ih last.key]
        cases earlier : Sample.withKey last.key samples with
        | nil => simp [pending?, earlier]
        | cons first rest => simp [pending?, earlier, Pending.spanning, List.getLast?_cons]
      · simp [same, Ne.symm same, ih key]

theorem keys_series (samples : List Sample) :
    Pairs.keys (ofSamples samples).series = (samples.map Sample.key).eraseDups := by
  induction samples using List.reverseRecOn with
  | nil => rfl
  | append_singleton samples last ih =>
      have placed : Pairs.keys (ofSamples (samples ++ [last])).series =
          Pairs.keys (place last (ofSamples samples).series).1 := by
        rw [ofSamples_append_single]
        rfl
      rw [placed, keys_place, ih, List.map_append, List.map_singleton, eraseDups_append_single]
      simp only [List.mem_eraseDups]

theorem keys_series_nodup (samples : List Sample) :
    (Pairs.keys (ofSamples samples).series).Nodup := by
  induction samples using List.reverseRecOn with
  | nil => exact List.nodup_nil
  | append_singleton samples last ih =>
      rw [ofSamples_append_single]
      simp only [add, place]
      split
      · exact Pairs.keys_set_nodup _ _ ih
      · exact Pairs.keys_set_nodup _ _ ih

theorem get?_descriptors (samples : List Sample) (metricType : String) :
    Pairs.get? metricType (ofSamples samples).descriptors =
      (Sample.ofType metricType samples).head?.map Sample.descriptor := by
  induction samples using List.reverseRecOn with
  | nil => rfl
  | append_singleton samples last ih =>
      have kept : (ofSamples (samples ++ [last])).descriptors =
          Pairs.setNew last.descriptor.metricType last.descriptor
            (ofSamples samples).descriptors := by
        rw [ofSamples_append_single]
        rfl
      rw [kept, Pairs.get?_setNew, Sample.ofType_append_single]
      by_cases same : last.descriptor.metricType = metricType
      · subst same
        rw [ih]
        cases earlier : Sample.ofType last.descriptor.metricType samples with
        | nil => simp
        | cons first rest => simp
      · simp [same, Ne.symm same, ih]

theorem keys_descriptors_nodup (samples : List Sample) :
    (Pairs.keys (ofSamples samples).descriptors).Nodup := by
  induction samples using List.reverseRecOn with
  | nil => exact List.nodup_nil
  | append_singleton samples last ih =>
      rw [ofSamples_append_single]
      exact Pairs.keys_setNew_nodup _ _ ih

end Aggregation

end CloudMonitoring
