import CloudMonitoring.Proofs.Aggregation

/-!
The series that an export settles. Their keys are distinct, so each of them has the interval that
the table before the export gives it, whatever the other series are; and the table moves only at
the keys of cumulative series.
-/

namespace CloudMonitoring

def Series.key (series : Series) : SeriesKey := ⟨series.metricType, series.labels⟩

def Pending.over (pending : Pending) (key : SeriesKey) (interval : Interval) : Series :=
  { metricType := key.metricType
    labels := key.labels
    resource := pending.resource
    kind := pending.kind
    valueType := pending.valueType
    points := [⟨interval, pending.value⟩] }

namespace IntervalTable

def advance (startTime : Instant) (last : Option Interval) (stop : Instant) : Option Interval :=
  if (following startTime last stop).2 then some (following startTime last stop).1 else last

theorem fst_extend (table : IntervalTable) (key : SeriesKey) (stop : Instant) :
    (table.extend key stop).1 = (following table.startTime (table.last? key) stop).1 := rfl

theorem last?_extend_self (table : IntervalTable) (key : SeriesKey) (stop : Instant) :
    (table.extend key stop).2.last? key =
      advance table.startTime (table.last? key) stop := by
  simp [last?_extend, fst_extend, advance]

end IntervalTable

namespace Aggregation

def intervalAfter (startTime : Instant) (last : Option Interval) (pending : Pending) : Interval :=
  match pending.kind with
  | .gauge => .instant pending.time
  | .cumulative => (IntervalTable.following startTime last pending.time).1

def lastAfter (startTime : Instant) (last : Option Interval) (pending : Pending) :
    Option Interval :=
  match pending.kind with
  | .gauge => last
  | .cumulative => IntervalTable.advance startTime last pending.time

theorem settleOne_fst (key : SeriesKey) (pending : Pending) (table : IntervalTable) :
    (settleOne key pending table).1 =
      intervalAfter table.startTime (table.last? key) pending := by
  cases kind : pending.kind with
  | gauge => simp [settleOne, intervalAfter, kind]
  | cumulative => simp [settleOne, intervalAfter, kind, IntervalTable.fst_extend]

@[simp] theorem startTime_settleOne (key : SeriesKey) (pending : Pending) (table : IntervalTable) :
    (settleOne key pending table).2.startTime = table.startTime := by
  simp only [settleOne]
  split
  · rfl
  · exact IntervalTable.startTime_extend table key pending.time

theorem last?_settleOne_self (key : SeriesKey) (pending : Pending) (table : IntervalTable) :
    (settleOne key pending table).2.last? key =
      lastAfter table.startTime (table.last? key) pending := by
  cases kind : pending.kind with
  | gauge => simp [settleOne, lastAfter, kind]
  | cumulative => simp [settleOne, lastAfter, kind, IntervalTable.last?_extend_self]

theorem last?_settleOne_ne {key other : SeriesKey} (different : other ≠ key) (pending : Pending)
    (table : IntervalTable) :
    (settleOne key pending table).2.last? other = table.last? other := by
  simp only [settleOne]
  split
  · rfl
  · simp [IntervalTable.last?_extend, different]

def settledOver (table : IntervalTable) (key : SeriesKey) (pending : Pending) : Series :=
  pending.over key (intervalAfter table.startTime (table.last? key) pending)

theorem settle_fst {pending : List (SeriesKey × Pending)} (distinct : (Pairs.keys pending).Nodup)
    (table : IntervalTable) :
    (settle pending table).1 = pending.map fun entry => settledOver table entry.1 entry.2 := by
  induction pending generalizing table with
  | nil => rfl
  | cons head rest ih =>
      obtain ⟨key, first⟩ := head
      obtain ⟨absent, tail⟩ := List.nodup_cons.mp distinct
      have later : (settle rest (settleOne key first table).2).1 =
          rest.map fun entry => settledOver table entry.1 entry.2 := by
        rw [ih tail]
        apply List.map_congr_left
        intro entry member
        have known : entry.1 ∈ Pairs.keys rest := List.mem_map_of_mem member
        have different : entry.1 ≠ key := fun same => absent (same ▸ known)
        simp only [settledOver, startTime_settleOne, last?_settleOne_ne different]
      simp only [settle, List.map_cons, later, settleOne_fst]
      rfl

@[simp] theorem startTime_settle (pending : List (SeriesKey × Pending)) (table : IntervalTable) :
    (settle pending table).2.startTime = table.startTime := by
  induction pending generalizing table with
  | nil => rfl
  | cons head rest ih =>
      simp only [settle]
      rw [ih, startTime_settleOne]

theorem last?_settle_of_absent {key : SeriesKey} {pending : List (SeriesKey × Pending)}
    (absent : key ∉ Pairs.keys pending) (table : IntervalTable) :
    (settle pending table).2.last? key = table.last? key := by
  induction pending generalizing table with
  | nil => rfl
  | cons head rest ih =>
      simp only [Pairs.keys_cons, List.mem_cons, not_or] at absent
      simp only [settle]
      rw [ih absent.2, last?_settleOne_ne absent.1]

theorem last?_settle {pending : List (SeriesKey × Pending)}
    (distinct : (Pairs.keys pending).Nodup) (table : IntervalTable) (key : SeriesKey) :
    (settle pending table).2.last? key =
      match Pairs.get? key pending with
      | some found => lastAfter table.startTime (table.last? key) found
      | none => table.last? key := by
  induction pending generalizing table with
  | nil => rfl
  | cons head rest ih =>
      obtain ⟨other, first⟩ := head
      obtain ⟨absent, tail⟩ := List.nodup_cons.mp distinct
      by_cases same : key = other
      · subst same
        simp only [settle, Pairs.get?, if_true]
        rw [last?_settle_of_absent absent, last?_settleOne_self]
      · simp only [settle, Pairs.get?, same, if_false]
        rw [ih tail, last?_settleOne_ne same, startTime_settleOne]

theorem finish_eq_some_iff (aggregation : Aggregation) (table next : IntervalTable)
    (series : List Series) :
    aggregation.finish table = some (series, next) ↔
      settle aggregation.series table = (series, next) ∧
        ∀ one ∈ series, one.Representable := by
  simp only [finish]
  split
  · rename_i dated
    constructor
    · intro same
      simp only [Option.some.injEq] at same
      exact ⟨same, by simpa [same] using dated⟩
    · rintro ⟨same, _⟩
      rw [same]
  · rename_i undated
    constructor
    · intro impossible
      contradiction
    · rintro ⟨same, dated⟩
      rw [same] at undated
      exact absurd dated undated

theorem finish_ofSamples {samples : List Sample} {table next : IntervalTable}
    {series : List Series} (finished : (ofSamples samples).finish table = some (series, next)) :
    series = (ofSamples samples).series.map fun entry => settledOver table entry.1 entry.2 := by
  obtain ⟨settled, _⟩ := (finish_eq_some_iff _ _ _ _).mp finished
  rw [← settle_fst (keys_series_nodup samples) table, settled]

theorem mem_finish {samples : List Sample} {table next : IntervalTable} {series : List Series}
    (finished : (ofSamples samples).finish table = some (series, next)) (one : Series) :
    one ∈ series ↔ ∃ pending, pending? one.key samples = some pending ∧
      one = settledOver table one.key pending := by
  rw [finish_ofSamples finished, List.mem_map]
  constructor
  · rintro ⟨⟨key, pending⟩, member, rfl⟩
    refine ⟨pending, ?_, rfl⟩
    rw [← get?_series]
    exact (Pairs.get?_eq_some_iff (keys_series_nodup samples)).mpr member
  · rintro ⟨pending, found, same⟩
    rw [← get?_series] at found
    exact ⟨(one.key, pending), Pairs.mem_of_get? found, same.symm⟩

theorem startTime_finish {samples : List Sample} {table next : IntervalTable}
    {series : List Series} (finished : (ofSamples samples).finish table = some (series, next)) :
    next.startTime = table.startTime := by
  obtain ⟨settled, _⟩ := (finish_eq_some_iff _ _ _ _).mp finished
  have same := startTime_settle (ofSamples samples).series table
  rwa [settled] at same

theorem last?_finish {samples : List Sample} {table next : IntervalTable} {series : List Series}
    (finished : (ofSamples samples).finish table = some (series, next)) (key : SeriesKey) :
    next.last? key =
      match pending? key samples with
      | some found => lastAfter table.startTime (table.last? key) found
      | none => table.last? key := by
  obtain ⟨settled, _⟩ := (finish_eq_some_iff _ _ _ _).mp finished
  have moved := last?_settle (keys_series_nodup samples) table key
  rwa [settled, get?_series] at moved

end Aggregation

end CloudMonitoring
