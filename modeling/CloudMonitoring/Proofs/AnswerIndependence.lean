import CloudMonitoring.Export.Configuration
import CloudMonitoring.Proofs.Operations

/-!
Two runs of the same operations for two services. What is computed, and the intervals that are kept,
do not depend on the answers at all; the writes and the results depend on the answers to writes only,
and the descriptor calls on the answers to descriptor calls only.
-/

namespace CloudMonitoring

section Exchanges

variable {Question : Type}

/-- Whether two lists of exchanges have the same answers for as long as they have the same
questions. -/
def AnswersAgree : List (Question × CallResult) → List (Question × CallResult) → Prop
  | (question, answer) :: rest, (other, reply) :: more =>
      question = other → answer = reply ∧ AnswersAgree rest more
  | _, _ => True

instance answersAgreeDecidable [DecidableEq Question] :
    (first second : List (Question × CallResult)) → Decidable (AnswersAgree first second)
  | (question, answer) :: rest, (other, reply) :: more =>
      have := answersAgreeDecidable rest more
      inferInstanceAs (Decidable (question = other → answer = reply ∧ AnswersAgree rest more))
  | [], _ => .isTrue trivial
  | _ :: _, [] => .isTrue trivial

theorem UntilRefused.eq_of_answersAgree {questions : List Question}
    {first second laterFirst laterSecond : List (Question × CallResult)}
    (asked : UntilRefused questions first) (askedToo : UntilRefused questions second)
    (agree : AnswersAgree (first ++ laterFirst) (second ++ laterSecond)) :
    first = second ∧ AnswersAgree laterFirst laterSecond := by
  induction asked generalizing second with
  | done =>
      cases askedToo
      exact ⟨rfl, agree⟩
  | accepted _ ih =>
      cases askedToo with
      | accepted restToo =>
          obtain ⟨same, later⟩ := ih restToo (agree rfl).2
          exact ⟨congrArg _ same, later⟩
      | refused =>
          have impossible := (agree rfl).1
          contradiction
  | refused =>
      cases askedToo with
      | accepted _ =>
          have impossible := (agree rfl).1
          contradiction
      | refused =>
          obtain ⟨same, later⟩ := agree rfl
          rw [same]
          exact ⟨rfl, later⟩

end Exchanges

def Exporter.SameButStrategy (one other : Exporter) : Prop :=
  ∃ strategy, other = { one with strategy := strategy }

variable {First Second : Type}

namespace Performed

def payloads {State : Type} (one : Performed State) : List (List Series) :=
  (writesOf one.asked).map fun exchange => exchange.1.payload

structure SameTranslation (one : Performed First) (other : Performed Second) : Prop where
  operation : one.operation = other.operation
  intervals : one.exporter.intervals = other.exporter.intervals
  nextIntervals : one.next.intervals = other.next.intervals
  descriptors : one.descriptors = other.descriptors
  series : one.series = other.series
  batches : ∃ parts, Batched one.series parts ∧ one.payloads <+: parts ∧ other.payloads <+: parts

theorem Rounds.payloads_prefix {State : Type} {one : Performed State} (rounds : one.Rounds) :
    one.payloads <+: batches one.series := by
  have written := rounds.writes.questions_prefix.map Call.payload
  rw [List.map_map, Performed.writes, List.map_map] at written
  have same : Call.payload ∘ Call.write one.exporter.mode one.exporter.projectName = id := rfl
  rwa [same, List.map_id] at written

variable {one other : Exporter} (operation : Operation)
  (transcript : Transcript Call CallResult First (OperationResult × Exporter))
  (transcriptToo : Transcript Call CallResult Second (OperationResult × Exporter))

theorem series_congr (same : one.SameButStrategy other) :
    (Performed.mk one operation transcript).series =
      (Performed.mk other operation transcriptToo).series := by
  obtain ⟨strategy, rfl⟩ := same
  cases operation <;> rfl

theorem descriptors_congr (same : one.SameButStrategy other) :
    (Performed.mk one operation transcript).descriptors =
      (Performed.mk other operation transcriptToo).descriptors := by
  obtain ⟨strategy, rfl⟩ := same
  cases operation <;> rfl

theorem writes_congr (same : one.SameButStrategy other) :
    (Performed.mk one operation transcript).writes =
      (Performed.mk other operation transcriptToo).writes := by
  obtain ⟨strategy, rfl⟩ := same
  cases operation <;> rfl

end Performed

namespace Exporter

namespace SameButStrategy

variable {one other : Exporter}

theorem intervalsAfter (same : one.SameButStrategy other) (operation : Operation) :
    one.intervalsAfter operation = other.intervalsAfter operation := by
  obtain ⟨strategy, rfl⟩ := same
  cases operation <;> rfl

theorem resultWith (same : one.SameButStrategy other) (written : CallResult)
    (operation : Operation) :
    one.resultWith written operation = other.resultWith written operation := by
  obtain ⟨strategy, rfl⟩ := same
  cases operation <;> rfl

theorem after (same : one.SameButStrategy other) (operation : Operation)
    (accepted acceptedToo : List Descriptor) :
    (one.after operation accepted).SameButStrategy (other.after operation acceptedToo) := by
  refine ⟨other.strategy.rememberAll acceptedToo, ?_⟩
  rw [Exporter.after, Exporter.after, same.intervalsAfter]
  obtain ⟨strategy, rfl⟩ := same
  rfl

theorem perform (same : one.SameButStrategy other) (operation : Operation)
    (first : Responder Call CallResult First) (firstState : First)
    (second : Responder Call CallResult Second) (secondState : Second) :
    (one.perform operation first firstState).result.2.SameButStrategy
      (other.perform operation second secondState).result.2 := by
  have next := (one.perform_rounds operation first firstState).next
  have nextToo := (other.perform_rounds operation second secondState).next
  simp only [Performed.next] at next nextToo
  rw [next, nextToo]
  exact same.after operation _ _

end SameButStrategy

theorem performed_sameTranslation {one other : Exporter} (same : one.SameButStrategy other)
    (operations : List Operation) (first : Responder Call CallResult First) (firstState : First)
    (second : Responder Call CallResult Second) (secondState : Second) :
    List.Forall₂ Performed.SameTranslation (one.performed first firstState operations)
      (other.performed second secondState operations) := by
  induction operations generalizing one other firstState secondState with
  | nil => exact .nil
  | cons operation rest ih =>
      have next := same.perform operation first firstState second secondState
      refine .cons ?_ (ih next _ _)
      have rounds := one.perform_rounds operation first firstState
      have roundsToo := other.perform_rounds operation second secondState
      have series := Performed.series_congr operation (one.perform operation first firstState)
        (other.perform operation second secondState) same
      refine ⟨rfl, ?_, ?_, Performed.descriptors_congr _ _ _ same, series, batches _,
        batched_batches _, rounds.payloads_prefix, ?_⟩
      · obtain ⟨strategy, rfl⟩ := same
        rfl
      · obtain ⟨strategy, changed⟩ := next
        exact (congrArg Exporter.intervals changed).symm
      · rw [series]
        exact roundsToo.payloads_prefix

theorem performed_writes {one other : Exporter} (same : one.SameButStrategy other)
    (operations : List Operation) (first : Responder Call CallResult First) (firstState : First)
    (second : Responder Call CallResult Second) (secondState : Second)
    (agree : AnswersAgree
      ((one.performed first firstState operations).flatMap fun each => writesOf each.asked)
      ((other.performed second secondState operations).flatMap fun each => writesOf each.asked)) :
    List.Forall₂
      (fun each eachToo => writesOf each.asked = writesOf eachToo.asked ∧
        (¬ each.Releases → each.result = eachToo.result))
      (one.performed first firstState operations)
      (other.performed second secondState operations) := by
  induction operations generalizing one other firstState secondState with
  | nil => exact .nil
  | cons operation rest ih =>
      simp only [performed, List.flatMap_cons] at agree ⊢
      have rounds := one.perform_rounds operation first firstState
      have roundsToo := other.perform_rounds operation second secondState
      -- The strategies may have come apart, but not what there is to write.
      have written := roundsToo.writes
      rw [← Performed.writes_congr operation (one.perform operation first firstState) _ same]
        at written
      obtain ⟨sameWrites, later⟩ := rounds.writes.eq_of_answersAgree written agree
      refine .cons ⟨sameWrites, ?_⟩
        (ih (same.perform operation first firstState second secondState) _ _ later)
      intro keeps
      have keepsToo : ¬ (Performed.mk other operation
          (other.perform operation second secondState)).Releases := by
        obtain ⟨strategy, rfl⟩ := same
        exact keeps
      rw [rounds.result keeps, roundsToo.result keepsToo, sameWrites]
      exact same.resultWith _ operation

theorem performed_registrations (exporter : Exporter) (operations : List Operation)
    (first : Responder Call CallResult First) (firstState : First)
    (second : Responder Call CallResult Second) (secondState : Second)
    (agree : AnswersAgree
      ((exporter.performed first firstState operations).flatMap fun each =>
        registrationsOf each.asked)
      ((exporter.performed second secondState operations).flatMap fun each =>
        registrationsOf each.asked)) :
    List.Forall₂
      (fun each eachToo => registrationsOf each.asked = registrationsOf eachToo.asked)
      (exporter.performed first firstState operations)
      (exporter.performed second secondState operations) := by
  induction operations generalizing exporter firstState secondState with
  | nil => exact .nil
  | cons operation rest ih =>
      simp only [performed, List.flatMap_cons] at agree ⊢
      have rounds := exporter.perform_rounds operation first firstState
      have roundsToo := exporter.perform_rounds operation second secondState
      obtain ⟨sameCalls, later⟩ :=
        rounds.registrations.eq_of_answersAgree roundsToo.registrations agree
      refine .cons sameCalls ?_
      -- The accepted descriptors are the same, and with them the whole exporter.
      have next : (exporter.perform operation second secondState).result.2 =
          (exporter.perform operation first firstState).result.2 := by
        have after := rounds.next
        have afterToo := roundsToo.next
        rw [← acceptedDescriptors_registrationsOf] at after afterToo
        rw [sameCalls] at after
        exact afterToo.trans after.symm
      rw [next] at later ⊢
      exact ih _ _ _ later

end Exporter

/-- Two runs of the same operations for any two services. -/
theorem Configuration.run_ignores_answers (configuration : Configuration) (projectId : String)
    (startTime : Instant) (operations : List Operation)
    (first : Responder Call CallResult First) (firstState : First)
    (second : Responder Call CallResult Second) (secondState : Second) :
    let exporter := configuration.exporter projectId startTime
    let run := exporter.performed first firstState operations
    let runToo := exporter.performed second secondState operations
    List.Forall₂ Performed.SameTranslation run runToo ∧
    (AnswersAgree (run.flatMap fun each => writesOf each.asked)
        (runToo.flatMap fun each => writesOf each.asked) →
      List.Forall₂ (fun each eachToo => writesOf each.asked = writesOf eachToo.asked ∧
        (¬ each.Releases → each.result = eachToo.result)) run runToo) ∧
    (AnswersAgree (run.flatMap fun each => registrationsOf each.asked)
        (runToo.flatMap fun each => registrationsOf each.asked) →
      List.Forall₂ (fun each eachToo =>
        registrationsOf each.asked = registrationsOf eachToo.asked) run runToo) := by
  intro exporter run runToo
  have same : exporter.SameButStrategy exporter := ⟨exporter.strategy, rfl⟩
  exact ⟨Exporter.performed_sameTranslation same operations first firstState second secondState,
    Exporter.performed_writes same operations first firstState second secondState,
    exporter.performed_registrations operations first firstState second secondState⟩

theorem Configuration.run_ignores_answers_refused :
    let configuration : Configuration := { standard with description := some ⟨"host", []⟩ }
    let exporter := configuration.exporter "my-project" ⟨0⟩
    let exported : Operation :=
      .exportRecords [⟨"load", "", "", [], .longGauge [⟨1, .empty, ⟨10⟩, ⟨10⟩⟩]⟩]
    let operations : List Operation := [exported, exported, .shutdown, exported]
    let refusal : CallResult := .error (.rpc "refused")
    let secondWrite (others : CallResult) : Responder Call CallResult Nat := fun count call =>
      if call.isWrite then (if count = 1 then refusal else .ok (), count + 1) else (others, count)
    let allWrites : Responder Call CallResult Unit := fun state call =>
      (if call.isWrite then refusal else .ok (), state)
    let run := exporter.performed (secondWrite (.ok ())) 0 operations
    let strict := exporter.performed (secondWrite refusal) 0 operations
    let closed := exporter.performed allWrites () operations
    (AnswersAgree (run.flatMap fun each => writesOf each.asked)
        (strict.flatMap fun each => writesOf each.asked) ∧
      List.Forall₂ (fun each eachToo => writesOf each.asked = writesOf eachToo.asked ∧
        (¬ each.Releases → each.result = eachToo.result)) run strict) ∧
    (AnswersAgree (run.flatMap fun each => registrationsOf each.asked)
        (closed.flatMap fun each => registrationsOf each.asked) ∧
      List.Forall₂ (fun each eachToo =>
        registrationsOf each.asked = registrationsOf eachToo.asked) run closed) ∧
    (run.flatMap fun each => registrationsOf each.asked).length = 1 ∧
    (strict.flatMap fun each => registrationsOf each.asked).length = 2 := by
  intro configuration exporter exported operations refusal secondWrite allWrites run strict closed
  have sameWrites : AnswersAgree (run.flatMap fun each => writesOf each.asked)
      (strict.flatMap fun each => writesOf each.asked) := by decide +kernel
  have sameRegistrations : AnswersAgree (run.flatMap fun each => registrationsOf each.asked)
      (closed.flatMap fun each => registrationsOf each.asked) := by decide +kernel
  obtain ⟨_, writes, _⟩ := run_ignores_answers configuration "my-project" ⟨0⟩ operations
    (secondWrite (.ok ())) 0 (secondWrite refusal) 0
  obtain ⟨_, _, registrations⟩ := run_ignores_answers configuration "my-project" ⟨0⟩ operations
    (secondWrite (.ok ())) 0 allWrites ()
  exact ⟨⟨sameWrites, writes sameWrites⟩, ⟨sameRegistrations, registrations sameRegistrations⟩,
    by decide +kernel, by decide +kernel⟩

end CloudMonitoring
