import CloudMonitoring.Metric.Series
import CloudMonitoring.Pairs

/-!
The interval last exported for each cumulative series, kept from export to export. Intervals of one
series follow each other with a gap of a millisecond, so that a series never overlaps itself.
-/

namespace CloudMonitoring

structure SeriesKey where
  metricType : String
  labels : Labels
deriving DecidableEq

structure IntervalTable where
  startTime : Instant
  exported : List (SeriesKey × Interval)

namespace IntervalTable

def starting (time : Instant) : IntervalTable := ⟨time, []⟩

def last? (table : IntervalTable) (key : SeriesKey) : Option Interval :=
  Pairs.get? key table.exported

def lastEnd? (table : IntervalTable) (key : SeriesKey) : Option Instant :=
  (table.last? key).map (·.stop)

def size (table : IntervalTable) : Nat := table.exported.length

/-- The interval of a series that ends at `stop`, after the interval exported last, and whether it
takes that one's place. The first interval begins at the start time. A later one begins a
millisecond after the last end; when `stop` leaves no room for that, the last start is used again,
and never an interval that would begin after its end. -/
def following (startTime : Instant) (last : Option Interval) (stop : Instant) : Interval × Bool :=
  match last with
  | none => (⟨startTime.earlier stop, stop⟩, true)
  | some last =>
      if last.stop.addMilliseconds 1 ≤ stop then (⟨last.stop.addMilliseconds 1, stop⟩, true)
      else (⟨last.start.earlier stop, stop⟩, last.stop < stop)

def extend (table : IntervalTable) (key : SeriesKey) (stop : Instant) : Interval × IntervalTable :=
  let (interval, advances) := following table.startTime (table.last? key) stop
  (interval,
    if advances then { table with exported := Pairs.set key interval table.exported } else table)

@[simp] theorem stop_following (startTime : Instant) (last : Option Interval) (stop : Instant) :
    (following startTime last stop).1.stop = stop := by
  cases last with
  | none => rfl
  | some last =>
      simp only [following]
      split
      · rfl
      · rfl

theorem start_following_le (startTime : Instant) (last : Option Interval) (stop : Instant) :
    (following startTime last stop).1.start ≤ stop := by
  cases last with
  | none => exact Instant.earlier_le_right startTime stop
  | some last =>
      simp only [following]
      split
      · rename_i room
        exact room
      · exact Instant.earlier_le_right last.start stop

@[simp] theorem startTime_extend (table : IntervalTable) (key : SeriesKey) (stop : Instant) :
    (table.extend key stop).2.startTime = table.startTime := by
  simp only [extend]
  split
  · rfl
  · rfl

theorem last?_extend (table : IntervalTable) (key other : SeriesKey) (stop : Instant) :
    (table.extend key stop).2.last? other =
      if other = key ∧ (following table.startTime (table.last? key) stop).2 then
        some (table.extend key stop).1
      else table.last? other := by
  simp only [extend]
  generalize following table.startTime (table.last? key) stop = found
  by_cases advances : found.2 = true
  · simp [advances, last?, Pairs.get?_set]
  · simp [advances]

end IntervalTable

end CloudMonitoring
