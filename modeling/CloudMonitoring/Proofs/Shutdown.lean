import CloudMonitoring.Proofs.Operations

/-!
The end of an exporter. Its first shutdown lets go of the service, with one call whose answer it returns.
Whatever that answer is, the exporter is closed from then on: it makes no more calls, refuses exports,
and stays as it is.
-/

namespace CloudMonitoring

def Operation.whenClosed : Operation → OperationResult
  | .exportRecords _ => .exported (.failed .shutdown)
  | .flush => .finished (.ok ())
  | .shutdown => .finished (.ok ())

variable {State : Type}

theorem Call.ne_shutdown_of_mem_rounds {exchanges : List (Call × CallResult)}
    (order : exchanges = registrationsOf exchanges ++ writesOf exchanges) :
    ∀ exchange ∈ exchanges, exchange.1 ≠ .shutdown := by
  intro exchange member closes
  rw [order] at member
  rcases List.mem_append.mp member with registered | written
  · have registers := (List.mem_filter.mp registered).2
    simp [closes, descriptor?] at registers
  · have writes := (List.mem_filter.mp written).2
    simp [closes, isWrite] at writes

namespace Exporter

variable {exporter : Exporter}

theorem isShutdown_perform (exporter : Exporter) (operation : Operation)
    (respond : Responder Call CallResult State) (state : State) :
    (exporter.perform operation respond state).result.2.isShutdown =
      (exporter.isShutdown || operation = .shutdown) :=
  congrArg isShutdown (exporter.perform_rounds operation respond state).next

theorem isShutdown_of_split {operations : List Operation} {respond : Responder Call CallResult State}
    {state : State} {past future : List (Performed State)} {one : Performed State}
    (split : exporter.performed respond state operations = past ++ one :: future) :
    one.exporter.isShutdown =
        (exporter.isShutdown || .shutdown ∈ past.map Performed.operation) ∧
      ∃ current, one.transcript = one.exporter.perform one.operation respond current := by
  let Reached (past : List (Performed State)) (reached : Exporter) : Prop :=
    reached.isShutdown = (exporter.isShutdown || .shutdown ∈ past.map Performed.operation)
  have start : Reached [] exporter := by simp [Reached]
  refine reached_of_split start ?_ split
  intro past reached operation current before
  simp only [Reached] at before ⊢
  rw [isShutdown_perform, before, Bool.or_assoc]
  simp [eq_comm]

theorem perform_closed (closed : exporter.isShutdown = true) (operation : Operation)
    (respond : Responder Call CallResult State) (state : State) :
    (exporter.perform operation respond state).result = (operation.whenClosed, exporter) ∧
      (exporter.perform operation respond state).asked = [] := by
  cases operation with
  | exportRecords records => simp [perform, exportRecords, closed, Operation.whenClosed]
  | flush => exact ⟨rfl, rfl⟩
  | shutdown => simp [perform, shutdown, closed, Operation.whenClosed]

section Running

variable (running : exporter.isShutdown = false)

include running

theorem perform_shutdown_running (respond : Responder Call CallResult State) (state : State) :
    (exporter.perform .shutdown respond state).result.1 =
        .finished (respond state .shutdown).1 ∧
      (exporter.perform .shutdown respond state).asked =
        [(.shutdown, (respond state .shutdown).1)] := by
  simp [perform, shutdown, running]

theorem exportRecords_running (records : List MetricRecord)
    (respond : Responder Call CallResult State) (state : State) :
    let transcript := exporter.exportRecords records respond state
    (∀ exchange ∈ transcript.asked, exchange.1 ≠ .shutdown) ∧
      (transcript.result.1 = .failed .shutdown →
        ∃ call, call.isWrite ∧ (call, .error .shutdown) ∈ transcript.asked) := by
  intro transcript
  cases finished : exporter.settled records with
  | none =>
      obtain ⟨result, asked⟩ := exportRecords_undated running finished respond state
      simp [transcript, result, asked]
  | some found =>
      obtain ⟨series, intervals⟩ := found
      obtain ⟨order, _, _, result⟩ := exportRecords_rounds running finished respond state
      refine ⟨Call.ne_shutdown_of_mem_rounds order, ?_⟩
      intro failed
      simp only [transcript, result] at failed
      obtain ⟨call, written⟩ := mem_of_outcome ((concluded_eq_failed_iff _ _ _ _).mp failed)
      obtain ⟨member, isWrite⟩ := List.mem_filter.mp written
      exact ⟨call, isWrite, member⟩

end Running

def releases (exchanges : List (Call × CallResult)) : Nat :=
  (exchanges.map Prod.fst).count .shutdown

theorem releases_append (first second : List (Call × CallResult)) :
    releases (first ++ second) = releases first + releases second := by
  simp [releases]

theorem releases_perform (exporter : Exporter) (operation : Operation)
    (respond : Responder Call CallResult State) (state : State) :
    releases (exporter.perform operation respond state).asked =
      if operation = .shutdown ∧ exporter.isShutdown = false then 1 else 0 := by
  cases closed : exporter.isShutdown with
  | true => simp [perform_closed closed operation respond state, releases]
  | false =>
      cases operation with
      | flush => rfl
      | shutdown => simp [perform_shutdown_running closed respond state, releases]
      | exportRecords records =>
          have kept := (exportRecords_running closed records respond state).1
          have asked : (exporter.perform (.exportRecords records) respond state).asked =
              (exporter.exportRecords records respond state).asked := by simp [perform]
          rw [asked, if_neg (by simp), releases, List.count_eq_zero]
          intro member
          obtain ⟨exchange, listed, closes⟩ := List.mem_map.mp member
          exact kept exchange listed closes

theorem releases_performed (exporter : Exporter) (operations : List Operation)
    (respond : Responder Call CallResult State) (state : State) :
    releases ((exporter.performed respond state operations).flatMap Performed.asked) =
      if .shutdown ∈ operations ∧ exporter.isShutdown = false then 1 else 0 := by
  induction operations generalizing exporter state with
  | nil => rfl
  | cons operation rest ih =>
      simp only [performed, List.flatMap_cons, releases_append]
      rw [ih, Performed.asked, releases_perform, isShutdown_perform]
      by_cases closes : operation = .shutdown
      · simp [closes]
      · simp [closes, Ne.symm closes]

/-- In every run of an exporter that is not closed, the service is let go of once if there is a shutdown
and never otherwise. The first shutdown returns what the service answers to it; before it, an export
reports a shutdown only where a write was answered so, and after it nothing is asked or changed any
more. -/
theorem shutdown_is_final (exporter : Exporter) (running : exporter.isShutdown = false)
    (operations : List Operation) (respond : Responder Call CallResult State) (state : State) :
    let run := exporter.performed respond state operations
    run.map Performed.operation = operations ∧
    ((run.flatMap Performed.asked).map Prod.fst).count .shutdown =
      (if .shutdown ∈ operations then 1 else 0) ∧
    ∀ past one future, run = past ++ one :: future →
      (.shutdown ∉ past.map Performed.operation →
        (one.operation = .shutdown →
          ∃ answer, one.asked = [(.shutdown, answer)] ∧ one.result = .finished answer) ∧
        (one.result = .exported (.failed .shutdown) →
          ∃ call, call.isWrite ∧ (call, .error .shutdown) ∈ one.asked)) ∧
      (.shutdown ∈ past.map Performed.operation →
        one.result = one.operation.whenClosed ∧ one.asked = [] ∧ one.next = one.exporter) ∧
      (one.operation = .flush →
        one.result = .finished (.ok ()) ∧ one.asked = [] ∧ one.next = one.exporter) := by
  intro run
  have released := exporter.releases_performed operations respond state
  simp only [running, and_true] at released
  refine ⟨exporter.map_operation_performed operations respond state, released, ?_⟩
  intro past one future split
  obtain ⟨closed, current, made⟩ := isShutdown_of_split split
  rw [running, Bool.false_or] at closed
  obtain ⟨performer, operation, transcript⟩ := one
  simp only [Performed.asked, Performed.result, Performed.next] at *
  subst made
  refine ⟨?_, ?_, ?_⟩
  · intro noShutdown
    have stillRunning : performer.isShutdown = false := by simp [closed, noShutdown]
    refine ⟨?_, ?_⟩
    · rintro rfl
      obtain ⟨result, asked⟩ := perform_shutdown_running stillRunning respond current
      exact ⟨_, asked, result⟩
    · cases operation with
      | flush => simp [perform, flush]
      | shutdown => simp [perform_shutdown_running stillRunning respond current]
      | exportRecords records =>
          intro failed
          have reported := (exportRecords_running stillRunning records respond current).2
          rw [perform_exportRecords, OperationResult.exported.injEq] at failed
          simpa [perform] using reported failed
  · intro afterShutdown
    have isClosed : performer.isShutdown = true := by simp [closed, afterShutdown]
    obtain ⟨result, asked⟩ := perform_closed isClosed operation respond current
    rw [result]
    exact ⟨rfl, asked, rfl⟩
  · rintro rfl
    exact ⟨rfl, rfl, rfl⟩

theorem shutdown_is_final_refused :
    let exporter : Exporter := { starting "my-project" ⟨0⟩ with
      naming := ⟨defaultPrefix, some ⟨"host", []⟩⟩ }
    let records : List MetricRecord :=
      [⟨"load", "", "", [], .longGauge [⟨1, .empty, ⟨10⟩, ⟨10⟩⟩]⟩]
    let operations : List Operation :=
      [.exportRecords records, .shutdown, .exportRecords records, .shutdown]
    let respond : Responder Call CallResult Unit := fun state call =>
      (if call.isWrite then .error .shutdown else .error (.rpc "refused"), state)
    let run := exporter.performed respond () operations
    exporter.isShutdown = false ∧
    ((run.flatMap Performed.asked).map Prod.fst).count .shutdown = 1 ∧
    ∃ early closing late again, run = [early, closing, late, again] ∧
      early.result = .exported (.failed .shutdown) ∧
      (∃ call, call.isWrite ∧ (call, .error .shutdown) ∈ early.asked) ∧
      (∃ answer, closing.asked = [(.shutdown, answer)] ∧ closing.result = .finished answer) ∧
      (late.result = .exported (.failed .shutdown) ∧ late.asked = [] ∧ late.next = late.exporter) ∧
      again.result = .finished (.ok ()) ∧ again.asked = [] ∧ again.next = again.exporter := by
  intro exporter records operations respond run
  obtain ⟨_, released, each⟩ := shutdown_is_final exporter rfl operations respond ()
  have reported : (exporter.exportRecords records respond ()).result.1 = .failed .shutdown := by
    decide +kernel
  have failed := congrArg OperationResult.exported reported
  have early := (each [] _ _ rfl).1 (by simp)
  have closing := (each [_] _ _ rfl).1 (by simp)
  have late := (each [_, _] _ _ rfl).2.1 (by simp)
  have again := (each [_, _, _] _ _ rfl).2.1 (by simp)
  exact ⟨rfl, released, _, _, _, _, rfl, failed, early.2 failed, closing.1 rfl, late, again⟩

end Exporter

end CloudMonitoring
