import CloudMonitoring.Export.Strategy
import CloudMonitoring.Metric.Aggregation

/-!
The exporter. One export folds its records into series, registers descriptors as the strategy wants,
and writes the series in batches. What it keeps between exports are the interval table, the memory
of the strategy and whether it has been shut down.
-/

namespace CloudMonitoring

structure Exporter where
  projectId : String
  naming : Naming
  mode : WriteMode
  strategy : Strategy
  intervals : IntervalTable
  isShutdown : Bool

inductive ExportOutcome
  | success
  | failure
deriving DecidableEq, Repr

/-- An export is undated when some series has no calendar date. It breaks off there, and the exporter
that comes with it is the one from before it, although a process in which this happens may have
settled some of its intervals by then. -/
inductive Exported
  | done (outcome : ExportOutcome)
  | failed (error : ExportError)
  | undated
deriving DecidableEq, Repr

/-- The service takes at most this many series at a time. -/
def batchSize : Nat := 200

section Batches

variable {α : Type}

def batchesWithin : Nat → List α → List (List α)
  | _, [] => []
  | 0, _ => []
  | count + 1, items => items.take batchSize :: batchesWithin count (items.drop batchSize)

def batches (items : List α) : List (List α) :=
  batchesWithin items.length items

theorem flatten_batchesWithin (count : Nat) (items : List α) (enough : items.length ≤ count) :
    (batchesWithin count items).flatten = items := by
  induction count generalizing items with
  | zero =>
      have none : items = [] := List.eq_nil_of_length_eq_zero (by omega)
      simp [none, batchesWithin]
  | succ count ih =>
      cases items with
      | nil => simp [batchesWithin]
      | cons first rest =>
          simp only [batchesWithin, List.flatten_cons]
          rw [ih _ (by simp [batchSize] at *; omega), List.take_append_drop]

theorem flatten_batches (items : List α) : (batches items).flatten = items :=
  flatten_batchesWithin items.length items (Nat.le_refl _)

theorem batchesWithin_sizes (count : Nat) (items batch : List α)
    (member : batch ∈ batchesWithin count items) : batch ≠ [] ∧ batch.length ≤ batchSize := by
  induction count generalizing items with
  | zero =>
      cases items with
      | nil => simp [batchesWithin] at member
      | cons first rest => simp [batchesWithin] at member
  | succ count ih =>
      cases items with
      | nil => simp [batchesWithin] at member
      | cons first rest =>
          simp only [batchesWithin, List.mem_cons] at member
          rcases member with whole | later
          · subst whole
            refine ⟨by simp [batchSize], ?_⟩
            rw [List.length_take]
            omega
          · exact ih _ later

theorem batches_sizes {items batch : List α} (member : batch ∈ batches items) :
    batch ≠ [] ∧ batch.length ≤ batchSize :=
  batchesWithin_sizes items.length items batch member

end Batches

namespace Exporter

variable {State : Type}

def projectName (exporter : Exporter) : String := "projects/" ++ exporter.projectId

def starting (projectId : String) (time : Instant) : Exporter :=
  { projectId := projectId
    naming := ⟨defaultPrefix, none⟩
    mode := .plain
    strategy := .once []
    intervals := .starting time
    isShutdown := false }

def aggregate (exporter : Exporter) (records : List MetricRecord) :
    Aggregation × List Log.Event :=
  Aggregation.empty.recordAll exporter.naming records

def registerAll (exporter : Exporter) (descriptors : List Descriptor) :
    CallSession State Strategy :=
  if exporter.mode = .plain ∧ descriptors ≠ [] then do
    let (result, strategy) ← Session.rephrase (Call.createDescriptor exporter.projectName)
      (exporter.strategy.register descriptors)
    match result with
    | .ok () => return strategy
    | .error error =>
        Session.log .warn "Failed to create metric descriptors" [("error", .shown error.message)]
        return strategy
  else return exporter.strategy

def writeBatches (mode : WriteMode) (project : String) :
    Nat → List (List Series) → CallSession State CallResult
  | _, [] => return .ok ()
  | number, batch :: rest => do
      Session.log .debug "Writing time series"
        [("batch", .int number), ("size", .int batch.length), ("service", .bool (mode = .service))]
      match ← Session.ask (.write mode project batch) with
      | .ok () => writeBatches mode project (number + 1) rest
      | .error error => return .error error

def conclude (series records : Nat) : CallSession State Exported :=
  if series < records then do
    Session.log .debug "Some metrics produced no series"
      [("series", .int series), ("metrics", .int records)]
    return .done .failure
  else return .done .success

/-- Intervals are settled before anything is sent, and they stay settled whatever the service answers,
so that an export that is tried again repeats itself. Where an export breaks off undated none of them
is kept. -/
def exportRecords (exporter : Exporter) (records : List MetricRecord) :
    CallSession State (Exported × Exporter) :=
  if exporter.isShutdown then return (.failed .shutdown, exporter)
  else do
    let (aggregation, events) := exporter.aggregate records
    Session.logAll events
    match aggregation.finish exporter.intervals with
    | none => return (.undated, exporter)
    | some (series, intervals) =>
        let strategy ← exporter.registerAll aggregation.descriptorList
        let next := { exporter with strategy := strategy, intervals := intervals }
        match ← writeBatches exporter.mode exporter.projectName 0 (batches series) with
        | .ok () => return (← conclude series.length records.length, next)
        | .error error => return (.failed error, next)

def flush (exporter : Exporter) : CallSession State (CallResult × Exporter) :=
  return (.ok (), exporter)

def shutdown (exporter : Exporter) : CallSession State (CallResult × Exporter) :=
  if exporter.isShutdown then do
    Session.log .debug "Metric exporter already shut down" []
    return (.ok (), exporter)
  else do
    let result ← Session.ask .shutdown
    return (result, { exporter with isShutdown := true })

end Exporter

end CloudMonitoring
