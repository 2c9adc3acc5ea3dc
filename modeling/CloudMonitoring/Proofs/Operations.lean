import CloudMonitoring.Proofs.ExportOutcome
import CloudMonitoring.Proofs.Registration
import CloudMonitoring.Proofs.Runs

/-!
What one operation does. It makes two rounds of calls, descriptors and then writes, each of them until
one is refused; its result follows from the writes alone, and the exporter that it leaves from the
descriptors that were accepted.
-/

namespace CloudMonitoring

def Call.descriptor? : Call → Option Descriptor
  | .createDescriptor _ descriptor => some descriptor
  | _ => none

theorem Call.not_isWrite_of_descriptor? {call : Call} (registers : call.descriptor?.isSome) :
    call.isWrite = false := by
  cases call with
  | createDescriptor project descriptor => rfl
  | write mode project series => simp [descriptor?] at registers
  | shutdown => rfl

section Rounds

def registrationsOf (exchanges : List (Call × CallResult)) : List (Call × CallResult) :=
  exchanges.filter fun exchange => exchange.1.descriptor?.isSome

def writesOf (exchanges : List (Call × CallResult)) : List (Call × CallResult) :=
  exchanges.filter fun exchange => exchange.1.isWrite

def acceptedDescriptors (exchanges : List (Call × CallResult)) : List Descriptor :=
  (acceptedQuestions exchanges).filterMap Call.descriptor?

@[simp] theorem acceptedDescriptors_append (first second : List (Call × CallResult)) :
    acceptedDescriptors (first ++ second) =
      acceptedDescriptors first ++ acceptedDescriptors second := by
  simp [acceptedDescriptors]

theorem mem_acceptedDescriptors {descriptor : Descriptor} {exchanges : List (Call × CallResult)} :
    descriptor ∈ acceptedDescriptors exchanges ↔
      ∃ project, (.createDescriptor project descriptor, .ok ()) ∈ exchanges := by
  simp only [acceptedDescriptors, List.mem_filterMap, mem_acceptedQuestions]
  constructor
  · rintro ⟨call, member, same⟩
    cases call with
    | createDescriptor project other =>
        simp only [Call.descriptor?, Option.some.injEq] at same
        exact ⟨project, same ▸ member⟩
    | write mode project series => simp [Call.descriptor?] at same
    | shutdown => simp [Call.descriptor?] at same
  · rintro ⟨project, member⟩
    exact ⟨_, member, rfl⟩

theorem acceptedDescriptors_registrationsOf (exchanges : List (Call × CallResult)) :
    acceptedDescriptors (registrationsOf exchanges) = acceptedDescriptors exchanges := by
  induction exchanges with
  | nil => rfl
  | cons head rest ih =>
      obtain ⟨call, answer⟩ := head
      cases call with
      | createDescriptor project descriptor =>
          cases answer with
          | ok => exact congrArg (descriptor :: ·) ih
          | error error => exact ih
      | write mode project series =>
          cases answer with
          | ok => exact ih
          | error error => exact ih
      | shutdown =>
          cases answer with
          | ok => exact ih
          | error error => exact ih

theorem rounds_apart {first second : List (Call × CallResult)}
    (registers : ∀ exchange ∈ first, exchange.1.descriptor?.isSome)
    (writes : ∀ exchange ∈ second, exchange.1.isWrite) :
    registrationsOf (first ++ second) = first ∧ writesOf (first ++ second) = second := by
  have noWrite : writesOf first = [] := by
    rw [writesOf, List.filter_eq_nil_iff]
    intro exchange member
    simp [Call.not_isWrite_of_descriptor? (registers exchange member)]
  have noDescriptor : registrationsOf second = [] := by
    rw [registrationsOf, List.filter_eq_nil_iff]
    intro exchange member registers
    have isWrite := writes exchange member
    rw [Call.not_isWrite_of_descriptor? registers] at isWrite
    contradiction
  constructor
  · rw [registrationsOf, List.filter_append, List.filter_eq_self.mpr registers]
    exact (congrArg (first ++ ·) noDescriptor).trans (List.append_nil first)
  · rw [writesOf, List.filter_append, List.filter_eq_self.mpr writes]
    exact congrArg (· ++ second) noWrite

theorem mem_of_registers_first {asked early late : List (Call × CallResult)}
    {write exchange : Call × CallResult}
    (order : asked = registrationsOf asked ++ writesOf asked) (split : asked = early ++ write :: late)
    (isWrite : write.1.isWrite) (member : exchange ∈ registrationsOf asked) : exchange ∈ early := by
  rcases List.append_eq_append_iff.mp (order.symm.trans split) with
    ⟨more, rest, _⟩ | ⟨more, rest, final⟩
  · rw [rest]
    exact List.mem_append_left _ member
  · cases more with
    | nil => simpa [rest] using member
    | cons first others =>
        -- The write would be one of the descriptor calls.
        obtain ⟨rfl, _⟩ := List.cons.inj final
        have registers : write ∈ registrationsOf asked := by simp [rest]
        have both := Call.not_isWrite_of_descriptor? (List.mem_filter.mp registers).2
        rw [both] at isWrite
        contradiction

end Rounds

namespace Exporter

variable {State : Type}

theorem registers_of_mem_registerAll (exporter : Exporter) (records : List MetricRecord)
    (respond : Responder Call CallResult State) (state : State) :
    ∀ exchange ∈ (exporter.registerAll (exporter.descriptors records) respond state).asked,
      exchange.1.descriptor?.isSome := by
  intro exchange member
  have planned := (exporter.registerAll_asked records respond state).mem_questions member
  simp only [registrations] at planned
  split at planned
  · obtain ⟨descriptor, _, same⟩ := List.mem_map.mp planned
    rw [← same]
    rfl
  · simp at planned

theorem isWrite_of_mem_writeBatches (mode : WriteMode) (project : String) (number : Nat)
    (parts : List (List Series)) (respond : Responder Call CallResult State) (state : State) :
    ∀ exchange ∈ (writeBatches mode project number parts respond state).asked,
      exchange.1.isWrite := by
  intro exchange member
  have planned := (writeBatches_asked mode project number parts respond state).mem_questions member
  obtain ⟨part, _, same⟩ := List.mem_map.mp planned
  rw [← same]
  rfl

theorem registerAll_result (exporter : Exporter) (descriptors : List Descriptor)
    (respond : Responder Call CallResult State) (state : State) :
    (exporter.registerAll descriptors respond state).result =
      exporter.strategy.rememberAll
        (acceptedDescriptors (exporter.registerAll descriptors respond state).asked) := by
  cases mode : exporter.mode with
  | service => simp [registerAll, mode, acceptedDescriptors, acceptedQuestions]
  | plain =>
      obtain ⟨result, _, asked⟩ := registerAll_plain mode descriptors respond state
      rw [result, asked, Strategy.register_result, acceptedDescriptors, acceptedQuestions_rephrased,
        List.filterMap_map]
      exact congrArg exporter.strategy.rememberAll List.filterMap_some.symm

theorem exportRecords_rounds {exporter : Exporter} {records : List MetricRecord}
    {series : List Series} {intervals : IntervalTable} (running : exporter.isShutdown = false)
    (finished : exporter.settled records = some (series, intervals))
    (respond : Responder Call CallResult State) (state : State) :
    let transcript := exporter.exportRecords records respond state
    transcript.asked = registrationsOf transcript.asked ++ writesOf transcript.asked ∧
      UntilRefused (exporter.registrations records) (registrationsOf transcript.asked) ∧
      UntilRefused ((batches series).map (.write exporter.mode exporter.projectName))
        (writesOf transcript.asked) ∧
      transcript.result =
        (concluded series.length records.length (outcome (writesOf transcript.asked)),
          { exporter with
            strategy := exporter.strategy.rememberAll (acceptedDescriptors transcript.asked)
            intervals := intervals }) := by
  intro transcript
  obtain ⟨result, asked, _⟩ := exportRecords_settled running finished respond state
  obtain ⟨registered, written⟩ := rounds_apart
    (exporter.registers_of_mem_registerAll records respond state)
    (isWrite_of_mem_writeBatches exporter.mode exporter.projectName 0 (batches series) respond
      (exporter.registerAll (exporter.descriptors records) respond state).state)
  rw [← asked] at registered written
  refine ⟨?_, ?_, ?_, ?_⟩
  · rw [registered, written]
    exact asked
  · rw [registered]
    exact exporter.registerAll_asked records respond state
  · rw [written]
    exact writeBatches_asked _ _ _ _ _ _
  · rw [written, ← acceptedDescriptors_registrationsOf, registered, ← registerAll_result,
      ← writeBatches_result]
    exact result

end Exporter

namespace Performed

variable {State : Type}

def asked (one : Performed State) : List (Call × CallResult) := one.transcript.asked

def result (one : Performed State) : OperationResult := one.transcript.result.1

def next (one : Performed State) : Exporter := one.transcript.result.2

def descriptors (one : Performed State) : List Descriptor :=
  match one.operation with
  | .exportRecords records =>
      if one.exporter.isShutdown then []
      else ((one.exporter.settled records).map fun _ => one.exporter.descriptors records).getD []
  | _ => []

def registrations (one : Performed State) : List Call :=
  match one.exporter.mode with
  | .plain => (one.exporter.strategy.wanted one.descriptors).map
      (.createDescriptor one.exporter.projectName)
  | .service => []

def writes (one : Performed State) : List Call :=
  (batches one.series).map (.write one.exporter.mode one.exporter.projectName)

def Releases (one : Performed State) : Prop :=
  one.operation = .shutdown ∧ one.exporter.isShutdown = false

end Performed

namespace Exporter

def resultWith (exporter : Exporter) (written : CallResult) : Operation → OperationResult
  | .exportRecords records => .exported <|
      if exporter.isShutdown then .failed .shutdown
      else
        match exporter.settled records with
        | none => .undated
        | some (series, _) => concluded series.length records.length written
  | _ => .finished (.ok ())

def after (exporter : Exporter) (operation : Operation) (accepted : List Descriptor) : Exporter :=
  { exporter with
    strategy := exporter.strategy.rememberAll accepted
    intervals := exporter.intervalsAfter operation
    isShutdown := exporter.isShutdown || operation = .shutdown }

theorem after_nothing {exporter : Exporter} {operation : Operation}
    (still : exporter.intervalsAfter operation = exporter.intervals)
    (running : (exporter.isShutdown || operation = .shutdown) = exporter.isShutdown) :
    exporter.after operation [] = exporter := by
  rw [after, still, running, Strategy.rememberAll_nil]

end Exporter

namespace Performed

variable {State : Type}

/-- An operation makes two rounds of calls, descriptors before writes, and the answers to them decide
its result and the exporter after it. -/
structure Rounds (one : Performed State) : Prop where
  registrations : UntilRefused one.registrations (registrationsOf one.asked)
  writes : UntilRefused one.writes (writesOf one.asked)
  order : ∀ early write late, one.asked = early ++ write :: late → write.1.isWrite →
    ∀ exchange ∈ registrationsOf one.asked, exchange ∈ early
  next : one.next = one.exporter.after one.operation (acceptedDescriptors one.asked)
  result : ¬ one.Releases →
    one.result = one.exporter.resultWith (outcome (writesOf one.asked)) one.operation

theorem Rounds.of_nothing {one : Performed State} (noDescriptor : one.descriptors = [])
    (noSeries : one.series = [])
    (noCall : ∀ exchange ∈ one.asked, exchange.1 = .shutdown)
    (next : one.next = one.exporter.after one.operation [])
    (result : ¬ one.Releases → one.result = one.exporter.resultWith (.ok ()) one.operation) :
    one.Rounds := by
  have noRegistration : registrationsOf one.asked = [] := by
    rw [registrationsOf, List.filter_eq_nil_iff]
    intro exchange member
    simp [noCall exchange member, Call.descriptor?]
  have noWrite : writesOf one.asked = [] := by
    rw [writesOf, List.filter_eq_nil_iff]
    intro exchange member
    simp [noCall exchange member, Call.isWrite]
  have noneAccepted : acceptedDescriptors one.asked = [] := by
    rw [← acceptedDescriptors_registrationsOf, noRegistration]
    rfl
  have noPlan : one.registrations = [] := by
    rw [Performed.registrations, noDescriptor]
    split
    · rw [Strategy.wanted_nil, List.map_nil]
    · rfl
  refine ⟨?_, ?_, ?_, ?_, ?_⟩
  · rw [noPlan, noRegistration]
    exact .done
  · rw [Performed.writes, noSeries, noWrite]
    exact .done
  · simp [noRegistration]
  · rw [noneAccepted]
    exact next
  · rw [noWrite]
    exact result

end Performed

namespace Exporter

variable {State : Type}

theorem perform_flush_rounds (exporter : Exporter) (respond : Responder Call CallResult State)
    (state : State) :
    (Performed.mk exporter .flush (exporter.perform .flush respond state)).Rounds := by
  refine .of_nothing rfl rfl ?_ ?_ ?_
  · simp [Performed.asked, perform, flush]
  · simp [Performed.next, perform, flush, after, intervalsAfter]
  · intro _
    rfl

theorem perform_shutdown_rounds (exporter : Exporter) (respond : Responder Call CallResult State)
    (state : State) :
    (Performed.mk exporter .shutdown (exporter.perform .shutdown respond state)).Rounds := by
  cases closed : exporter.isShutdown with
  | true =>
      refine .of_nothing rfl rfl ?_ ?_ ?_
      · simp [Performed.asked, perform, shutdown, closed]
      · rw [after_nothing rfl (by simp [closed])]
        simp [Performed.next, perform, shutdown, closed]
      · intro _
        simp [Performed.result, perform, shutdown, closed, resultWith]
  | false =>
      refine .of_nothing rfl rfl ?_ ?_ ?_
      · simp [Performed.asked, perform, shutdown, closed]
      · simp [Performed.next, perform, shutdown, closed, after, intervalsAfter]
      · intro notReleasing
        exact absurd ⟨rfl, closed⟩ notReleasing

theorem perform_export_rounds (exporter : Exporter) (records : List MetricRecord)
    (respond : Responder Call CallResult State) (state : State) :
    (Performed.mk exporter (.exportRecords records)
      (exporter.perform (.exportRecords records) respond state)).Rounds := by
  cases running : exporter.isShutdown with
  | true =>
      refine .of_nothing ?_ ?_ ?_ ?_ ?_
      · simp [Performed.descriptors, running]
      · simp [Performed.series, running]
      · simp [Performed.asked, perform, exportRecords, running]
      · rw [after_nothing (by simp [intervalsAfter, running]) (by simp)]
        simp [Performed.next, perform, exportRecords, running]
      · intro _
        simp [Performed.result, perform, exportRecords, running, resultWith]
  | false =>
      cases finished : exporter.settled records with
      | none =>
          obtain ⟨result, asked⟩ := exportRecords_undated running finished respond state
          refine .of_nothing ?_ ?_ ?_ ?_ ?_
          · simp [Performed.descriptors, running, finished]
          · simp [Performed.series, running, finished]
          · simp [Performed.asked, perform, asked]
          · simp [Performed.next, perform, result, after, intervalsAfter, finished]
          · intro _
            simp [Performed.result, perform, result, resultWith, running, finished]
      | some found =>
          obtain ⟨series, intervals⟩ := found
          obtain ⟨order, registered, written, result⟩ :=
            exportRecords_rounds running finished respond state
          have descriptors : (Performed.mk exporter (.exportRecords records)
              (exporter.perform (.exportRecords records) respond state)).descriptors =
              exporter.descriptors records := by
            simp [Performed.descriptors, running, finished]
          have asked : (Performed.mk exporter (.exportRecords records)
              (exporter.perform (.exportRecords records) respond state)).asked =
              (exporter.exportRecords records respond state).asked := by
            simp [Performed.asked, perform]
          refine ⟨?_, ?_, ?_, ?_, ?_⟩
          · rw [Performed.registrations, descriptors, asked]
            exact registered
          · rw [asked]
            simpa [Performed.writes, Performed.series, running, finished] using written
          · rw [asked]
            exact fun early write late split isWrite exchange member =>
              mem_of_registers_first order split isWrite member
          · rw [asked]
            simp [Performed.next, perform, result, after, intervalsAfter, running, finished]
          · intro _
            rw [asked]
            simp [Performed.result, perform, result, resultWith, running, finished]

theorem perform_rounds (exporter : Exporter) (operation : Operation)
    (respond : Responder Call CallResult State) (state : State) :
    (Performed.mk exporter operation (exporter.perform operation respond state)).Rounds := by
  cases operation with
  | exportRecords records => exact exporter.perform_export_rounds records respond state
  | flush => exact exporter.perform_flush_rounds respond state
  | shutdown => exact exporter.perform_shutdown_rounds respond state

theorem performed_split {exporter : Exporter} {operations : List Operation}
    {respond : Responder Call CallResult State} {state : State} {past future : List (Performed State)}
    {one : Performed State}
    (split : exporter.performed respond state operations = past ++ one :: future) :
    one.Rounds ∧ one.exporter = { exporter with
      strategy := exporter.strategy.rememberAll
        (acceptedDescriptors (past.flatMap Performed.asked))
      intervals := one.exporter.intervals
      isShutdown := one.exporter.isShutdown } := by
  let Reached (past : List (Performed State)) (reached : Exporter) : Prop :=
    ∃ intervals isShutdown, reached = { exporter with
      strategy := exporter.strategy.rememberAll
        (acceptedDescriptors (past.flatMap Performed.asked))
      intervals := intervals
      isShutdown := isShutdown }
  have carried (past : List (Performed State)) (reached : Exporter) (operation : Operation)
      (current : State) (before : Reached past reached) :
      Reached (past ++ [⟨reached, operation, reached.perform operation respond current⟩])
        (reached.perform operation respond current).result.2 := by
    have next := (reached.perform_rounds operation respond current).next
    simp only [Performed.next] at next
    obtain ⟨intervals, isShutdown, same⟩ := before
    refine ⟨reached.intervalsAfter operation, reached.isShutdown || operation = .shutdown, ?_⟩
    rw [next, List.flatMap_append, acceptedDescriptors_append, Strategy.rememberAll_append,
      List.flatMap_singleton]
    subst same
    rfl
  obtain ⟨⟨intervals, isShutdown, same⟩, current, made⟩ :=
    reached_of_split ⟨exporter.intervals, exporter.isShutdown, rfl⟩ carried split
  obtain ⟨performer, operation, transcript⟩ := one
  simp only at made same
  subst made same
  exact ⟨Exporter.perform_rounds _ _ _ _, rfl⟩

end Exporter

end CloudMonitoring
