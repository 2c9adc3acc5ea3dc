import CloudMonitoring.Export.Run
import CloudMonitoring.Proofs.Calls
import CloudMonitoring.Proofs.Steps

/-!
Runs taken apart into their operations, each with the exporter that it was performed on and what
happened. What an operation does to the interval table does not depend on the service.
-/

namespace CloudMonitoring

variable {State : Type}

structure Performed (State : Type) where
  exporter : Exporter
  operation : Operation
  transcript : Transcript Call CallResult State (OperationResult × Exporter)

namespace Performed

def samples (performed : Performed State) : List Sample :=
  match performed.operation with
  | .exportRecords records => performed.exporter.naming.allSamples records
  | _ => []

def series (performed : Performed State) : List Series :=
  match performed.operation with
  | .exportRecords records =>
      if performed.exporter.isShutdown then []
      else ((performed.exporter.settled records).map Prod.fst).getD []
  | _ => []

theorem series_of_closed (one : Performed State) (closed : one.exporter.isShutdown = true) :
    one.series = [] := by
  unfold series
  split
  · simp [closed]
  · rfl

end Performed

namespace Exporter

def performed (exporter : Exporter) (respond : Responder Call CallResult State) :
    State → List Operation → List (Performed State)
  | _, [] => []
  | state, operation :: rest =>
      let transcript := exporter.perform operation respond state
      ⟨exporter, operation, transcript⟩ ::
        transcript.result.2.performed respond transcript.state rest

theorem run_eq_performed (exporter : Exporter) (operations : List Operation)
    (respond : Responder Call CallResult State) (state : State) :
    (exporter.run operations respond state).result.1 =
        ((exporter.performed respond state operations).map fun one => one.transcript.result.1) ∧
      (exporter.run operations respond state).asked =
        (exporter.performed respond state operations).flatMap fun one => one.transcript.asked := by
  induction operations generalizing exporter state with
  | nil => exact ⟨rfl, rfl⟩
  | cons operation rest ih =>
      obtain ⟨results, asked⟩ := ih (exporter.perform operation respond state).result.2
        (exporter.perform operation respond state).state
      simp [run, performed, results, asked]

def steps (respond : Responder Call CallResult State) :
    Steps (Exporter × State) Operation (Performed State) where
  run now operations := now.1.performed respond now.2 operations
  make now operation := ⟨now.1, operation, now.1.perform operation respond now.2⟩
  next now operation :=
    let transcript := now.1.perform operation respond now.2
    (transcript.result.2, transcript.state)
  run_nil _ := rfl
  run_cons _ _ _ := rfl

theorem map_operation_performed (exporter : Exporter) (operations : List Operation)
    (respond : Responder Call CallResult State) (state : State) :
    (exporter.performed respond state operations).map Performed.operation = operations :=
  (steps respond).map_run (fun _ _ => rfl) (exporter, state) operations

theorem reached_of_split {respond : Responder Call CallResult State}
    {Reached : List (Performed State) → Exporter → Prop} {exporter : Exporter} {state : State}
    {operations : List Operation} {past future : List (Performed State)} {one : Performed State}
    (start : Reached [] exporter)
    (carried : ∀ past reached operation current, Reached past reached →
      Reached (past ++ [⟨reached, operation, reached.perform operation respond current⟩])
        (reached.perform operation respond current).result.2)
    (split : exporter.performed respond state operations = past ++ one :: future) :
    Reached past one.exporter ∧
      ∃ current, one.transcript = one.exporter.perform one.operation respond current := by
  let ReachedNow (past : List (Performed State)) (now : Exporter × State) : Prop :=
    Reached past now.1
  have startNow : ReachedNow [] (exporter, state) := start
  obtain ⟨⟨reached, current⟩, operation, before, rfl⟩ := (steps respond).reached_of_split startNow
    (fun past now operation => carried past now.1 operation now.2) split
  exact ⟨before, current, rfl⟩

theorem perform_exportRecords (exporter : Exporter) (records : List MetricRecord)
    (respond : Responder Call CallResult State) (state : State) :
    (exporter.perform (.exportRecords records) respond state).result =
      (.exported (exporter.exportRecords records respond state).result.1,
        (exporter.exportRecords records respond state).result.2) := rfl

def intervalsAfter (exporter : Exporter) : Operation → IntervalTable
  | .exportRecords records =>
      if exporter.isShutdown then exporter.intervals
      else ((exporter.settled records).map Prod.snd).getD exporter.intervals
  | _ => exporter.intervals

theorem intervals_perform (exporter : Exporter) (operation : Operation)
    (respond : Responder Call CallResult State) (state : State) :
    (exporter.perform operation respond state).result.2.intervals =
      exporter.intervalsAfter operation := by
  cases operation with
  | flush => rfl
  | shutdown =>
      cases closed : exporter.isShutdown with
      | true => simp [perform, shutdown, closed, intervalsAfter]
      | false => simp [perform, shutdown, closed, intervalsAfter]
  | exportRecords records =>
      rw [perform_exportRecords]
      cases running : exporter.isShutdown with
      | true => simp [exportRecords, running, intervalsAfter]
      | false =>
          cases finished : exporter.settled records with
          | none =>
              simp [exportRecords_undated running finished, intervalsAfter, running, finished]
          | some found =>
              have result := (exportRecords_settled running finished respond state).1
              simp [result, intervalsAfter, running, finished]

end Exporter

theorem Performed.settles (one : Performed State) :
    (one.series = [] ∧ one.exporter.intervalsAfter one.operation = one.exporter.intervals) ∨
      (Aggregation.ofSamples one.samples).finish one.exporter.intervals =
        some (one.series, one.exporter.intervalsAfter one.operation) := by
  obtain ⟨exporter, operation, transcript⟩ := one
  cases operation with
  | flush => exact .inl ⟨rfl, rfl⟩
  | shutdown => exact .inl ⟨rfl, rfl⟩
  | exportRecords records =>
      simp only [series, samples, Exporter.intervalsAfter, ← Exporter.settled_eq]
      cases running : exporter.isShutdown with
      | true => simp
      | false =>
          cases finished : exporter.settled records with
          | none => simp
          | some found => simp

end CloudMonitoring
