import CloudMonitoring.Export.Exporter
import CloudMonitoring.Proofs.Settlement

/-!
The calls of one export: first the descriptors that the strategy wants, then the series in batches.
Each of the two rounds goes on until a call is refused; only a refused write decides how the export
ends.
-/

namespace CloudMonitoring

inductive UntilRefused {Question : Type} :
    List Question → List (Question × CallResult) → Prop
  | done : UntilRefused [] []
  | accepted {question rest exchanges} : UntilRefused rest exchanges →
      UntilRefused (question :: rest) ((question, .ok ()) :: exchanges)
  | refused {question rest error} : UntilRefused (question :: rest) [(question, .error error)]

def outcome {Question : Type} : List (Question × CallResult) → CallResult
  | [] => .ok ()
  | (_, .ok ()) :: rest => outcome rest
  | (_, .error error) :: _ => .error error

section Exchanges

variable {Question Other : Type}

theorem outcome_eq_ok_iff (exchanges : List (Question × CallResult)) :
    outcome exchanges = .ok () ↔ ∀ exchange ∈ exchanges, exchange.2 = .ok () := by
  induction exchanges with
  | nil => simp [outcome]
  | cons head rest ih =>
      obtain ⟨question, answer⟩ := head
      cases answer with
      | ok => simp [outcome, ih]
      | error error => simp [outcome]

theorem mem_of_outcome {exchanges : List (Question × CallResult)} {error : ExportError}
    (failed : outcome exchanges = .error error) :
    ∃ question, (question, .error error) ∈ exchanges := by
  induction exchanges with
  | nil => simp [outcome] at failed
  | cons head rest ih =>
      obtain ⟨question, answer⟩ := head
      cases answer with
      | ok =>
          obtain ⟨later, member⟩ := ih failed
          exact ⟨later, List.mem_cons_of_mem _ member⟩
      | error other =>
          simp only [outcome, Except.error.injEq] at failed
          exact ⟨question, by simp [failed]⟩

theorem outcome_rephrased (words : Question → Other) (exchanges : List (Question × CallResult)) :
    outcome (exchanges.map fun exchange => (words exchange.1, exchange.2)) = outcome exchanges := by
  induction exchanges with
  | nil => rfl
  | cons head rest ih =>
      obtain ⟨question, answer⟩ := head
      cases answer with
      | ok => exact ih
      | error error => rfl

namespace UntilRefused

theorem outcome_of_mem {questions : List Question} {exchanges : List (Question × CallResult)}
    (asked : UntilRefused questions exchanges) {question : Question} {error : ExportError}
    (member : (question, .error error) ∈ exchanges) : outcome exchanges = .error error := by
  induction asked with
  | done => simp at member
  | accepted _ ih =>
      simp only [List.mem_cons, Prod.mk.injEq, reduceCtorEq, and_false, false_or] at member
      exact ih member
  | refused =>
      simp only [List.mem_singleton, Prod.mk.injEq, Except.error.injEq] at member
      simp [outcome, member.2]

theorem mem_questions {questions : List Question} {exchanges : List (Question × CallResult)}
    (asked : UntilRefused questions exchanges) {exchange : Question × CallResult}
    (member : exchange ∈ exchanges) : exchange.1 ∈ questions := by
  induction asked with
  | done => simp at member
  | accepted _ ih =>
      rcases List.mem_cons.mp member with same | later
      · simp [same]
      · exact List.mem_cons_of_mem _ (ih later)
  | refused =>
      rw [List.mem_singleton] at member
      simp [member]

theorem questions_of_accepted {questions : List Question}
    {exchanges : List (Question × CallResult)} (asked : UntilRefused questions exchanges)
    (accepted : ∀ exchange ∈ exchanges, exchange.2 = .ok ()) :
    exchanges.map Prod.fst = questions := by
  induction asked with
  | done => rfl
  | accepted _ ih =>
      simp only [List.map_cons, List.cons.injEq, true_and]
      exact ih fun exchange later => accepted exchange (List.mem_cons_of_mem _ later)
  | refused => simp at accepted

theorem rephrased (words : Question → Other) {questions : List Question}
    {exchanges : List (Question × CallResult)} (asked : UntilRefused questions exchanges) :
    UntilRefused (questions.map words)
      (exchanges.map fun exchange => (words exchange.1, exchange.2)) := by
  induction asked with
  | done => exact .done
  | accepted _ ih => exact .accepted ih
  | refused => exact .refused

end UntilRefused

end Exchanges

def Call.payload : Call → List Series
  | .write _ _ series => series
  | _ => []

namespace Strategy

variable {State : Type}

/-- The descriptors that a strategy registers when none is refused: of each metric type that is not
registered yet the first, where types are registered once. -/
def wanted : Strategy → List Descriptor → List Descriptor
  | always, descriptors => descriptors
  | never, _ => []
  | once accepted, descriptors =>
      (descriptors.filter fun descriptor => descriptor.metricType ∉ accepted).eraseDupsBy
        fun first second => first.metricType = second.metricType

theorem wanted_cons (strategy : Strategy) (descriptor : Descriptor) (rest : List Descriptor) :
    strategy.wanted (descriptor :: rest) =
      if strategy.wants descriptor then
        descriptor :: (strategy.remember descriptor).wanted rest
      else strategy.wanted rest := by
  cases strategy with
  | always => rfl
  | never => rfl
  | once accepted =>
      by_cases known : descriptor.metricType ∈ accepted
      · simp [wanted, wants, known]
      · simp only [wanted, wants, remember, known, not_false_eq_true, decide_true,
          List.filter_cons_of_pos, List.eraseDupsBy_cons, List.filter_filter, if_true]
        congr 2
        apply List.filter_congr
        intro other _
        simp [not_or, and_comm]

theorem register_asked (strategy : Strategy) (descriptors : List Descriptor)
    (respond : Responder Descriptor CallResult State) (state : State) :
    UntilRefused (strategy.wanted descriptors)
      (strategy.register descriptors respond state).asked := by
  induction descriptors generalizing strategy state with
  | nil =>
      cases strategy <;> exact .done
  | cons descriptor rest ih =>
      rw [wanted_cons, register]
      by_cases isWanted : strategy.wants descriptor
      · simp only [isWanted, if_true, Session.bind_asked, Session.log_eq, Session.ask_eq,
          List.nil_append, List.singleton_append]
        cases answer : (respond state descriptor).1 with
        | ok => exact .accepted (ih _ _)
        | error error => exact .refused
      · rw [if_neg isWanted, if_neg isWanted]
        exact ih strategy state

end Strategy

structure Batched {α : Type} (items : List α) (parts : List (List α)) : Prop where
  flatten : parts.flatten = items
  nonempty : ∀ part ∈ parts, part ≠ []
  full : ∀ part ∈ parts.dropLast, part.length = 200
  atMost : ∀ part ∈ parts, part.length ≤ 200

theorem batchesWithin_full {α : Type} (count : Nat) (items part : List α)
    (member : part ∈ (batchesWithin count items).dropLast) : part.length = batchSize := by
  induction count generalizing items with
  | zero => cases items <;> simp [batchesWithin] at member
  | succ count ih =>
      cases items with
      | nil => simp [batchesWithin] at member
      | cons first rest =>
          simp only [batchesWithin] at member
          cases later : batchesWithin count ((first :: rest).drop batchSize) with
          | nil => simp [later] at member
          | cons second more =>
              rw [later, List.dropLast_cons_of_ne_nil (by simp), List.mem_cons] at member
              rcases member with whole | other
              · -- A later part exists, so the first one takes as many items as it may.
                have remaining : (first :: rest).drop batchSize ≠ [] := by
                  intro empty
                  rw [empty] at later
                  cases count <;> simp [batchesWithin] at later
                rw [ne_eq, List.drop_eq_nil_iff] at remaining
                rw [whole, List.length_take]
                omega
              · exact ih _ (by rwa [later])

theorem batched_batches {α : Type} (items : List α) : Batched items (batches items) :=
  { flatten := flatten_batches items
    nonempty := fun _ member => (batches_sizes member).1
    full := fun part member => batchesWithin_full items.length items part member
    atMost := fun _ member => (batches_sizes member).2 }

namespace Exporter

variable {State : Type}

def descriptors (exporter : Exporter) (records : List MetricRecord) : List Descriptor :=
  (exporter.aggregate records).1.descriptorList

def settled (exporter : Exporter) (records : List MetricRecord) :
    Option (List Series × IntervalTable) :=
  (exporter.aggregate records).1.finish exporter.intervals

def registrations (exporter : Exporter) (records : List MetricRecord) : List Call :=
  match exporter.mode with
  | .plain => (exporter.strategy.wanted (exporter.descriptors records)).map
      (.createDescriptor ("projects/" ++ exporter.projectId))
  | .service => []

theorem aggregate_fst (exporter : Exporter) (records : List MetricRecord) :
    (exporter.aggregate records).1 =
      Aggregation.ofSamples (exporter.naming.allSamples records) :=
  Aggregation.recordAll_fst exporter.naming .empty records

theorem settled_eq (exporter : Exporter) (records : List MetricRecord) :
    exporter.settled records =
      (Aggregation.ofSamples (exporter.naming.allSamples records)).finish exporter.intervals := by
  rw [settled, aggregate_fst]

theorem registerAll_plain {exporter : Exporter} (plain : exporter.mode = .plain)
    (descriptors : List Descriptor) (respond : Responder Call CallResult State) (state : State) :
    let registered := exporter.strategy.register descriptors
      (fun current descriptor =>
        respond current (.createDescriptor exporter.projectName descriptor)) state
    let transcript := exporter.registerAll descriptors respond state
    transcript.result = registered.result.2 ∧ transcript.state = registered.state ∧
      transcript.asked = registered.asked.map fun exchange =>
        (.createDescriptor exporter.projectName exchange.1, exchange.2) := by
  by_cases none : descriptors = []
  · subst none
    simp [registerAll, Strategy.register]
  · simp only [registerAll, plain, none, ne_eq, not_false_eq_true, and_self, if_true,
      Session.bind_result, Session.bind_state, Session.bind_asked, Session.rephrase]
    generalize exporter.strategy.register descriptors _ state = registered
    cases registered.result.1 with
    | ok => simp
    | error error => simp

theorem registerAll_asked (exporter : Exporter) (records : List MetricRecord)
    (respond : Responder Call CallResult State) (state : State) :
    UntilRefused (exporter.registrations records)
      (exporter.registerAll (exporter.descriptors records) respond state).asked := by
  cases mode : exporter.mode with
  | service => simpa [registerAll, registrations, mode] using UntilRefused.done
  | plain =>
      rw [(registerAll_plain mode _ respond state).2.2]
      simp only [registrations, mode]
      exact (exporter.strategy.register_asked _ _ state).rephrased _

theorem writeBatches_asked (mode : WriteMode) (project : String) (number : Nat)
    (parts : List (List Series)) (respond : Responder Call CallResult State) (state : State) :
    UntilRefused (parts.map (.write mode project))
      (writeBatches mode project number parts respond state).asked := by
  induction parts generalizing number state with
  | nil => exact .done
  | cons part rest ih =>
      simp only [writeBatches, Session.bind_asked, Session.log_eq, Session.ask_eq,
        List.nil_append, List.singleton_append, List.map_cons]
      cases answer : (respond state (.write mode project part)).1 with
      | ok => exact .accepted (ih _ _)
      | error error => exact .refused

theorem writeBatches_result (mode : WriteMode) (project : String) (number : Nat)
    (parts : List (List Series)) (respond : Responder Call CallResult State) (state : State) :
    (writeBatches mode project number parts respond state).result =
      outcome (writeBatches mode project number parts respond state).asked := by
  induction parts generalizing number state with
  | nil => rfl
  | cons part rest ih =>
      simp only [writeBatches, Session.bind_asked, Session.bind_result, Session.log_eq,
        Session.ask_eq, List.nil_append, List.singleton_append]
      cases answer : (respond state (.write mode project part)).1 with
      | ok => exact ih _ _
      | error error => rfl

def concluded (series records : Nat) : CallResult → Exported
  | .ok () => .done (if records ≤ series then .success else .failure)
  | .error error => .failed error

theorem concluded_eq_failed_iff (series records : Nat) (result : CallResult)
    (error : ExportError) :
    concluded series records result = .failed error ↔ result = .error error := by
  cases result with
  | ok => simp [concluded]
  | error other => simp [concluded]

theorem concluded_eq_success_iff (series records : Nat) (result : CallResult) :
    concluded series records result = .done .success ↔ result = .ok () ∧ records ≤ series := by
  cases result with
  | ok => simp [concluded]
  | error error => simp [concluded]

theorem concluded_ne_undated (series records : Nat) (result : CallResult) :
    concluded series records result ≠ .undated := by
  cases result with
  | ok => simp [concluded]
  | error error => simp [concluded]

theorem exportRecords_undated {exporter : Exporter} {records : List MetricRecord}
    (running : exporter.isShutdown = false) (undated : exporter.settled records = none)
    (respond : Responder Call CallResult State) (state : State) :
    (exporter.exportRecords records respond state).result = (.undated, exporter) ∧
      (exporter.exportRecords records respond state).asked = [] := by
  simp only [settled] at undated
  simp [exportRecords, running, undated, Session.logAll]

theorem exportRecords_settled {exporter : Exporter} {records : List MetricRecord}
    {series : List Series} {intervals : IntervalTable} (running : exporter.isShutdown = false)
    (finished : exporter.settled records = some (series, intervals))
    (respond : Responder Call CallResult State) (state : State) :
    let registered := exporter.registerAll (exporter.descriptors records) respond state
    let written := writeBatches exporter.mode exporter.projectName 0 (batches series) respond
      registered.state
    let transcript := exporter.exportRecords records respond state
    transcript.result =
        (concluded series.length records.length written.result,
          { exporter with strategy := registered.result, intervals := intervals }) ∧
      transcript.asked = registered.asked ++ written.asked ∧
      transcript.state = written.state := by
  simp only [settled] at finished
  simp only [exportRecords, running, finished, descriptors, Session.logAll, Session.bind_result,
    Session.bind_asked, Session.bind_state, Bool.false_eq_true, if_false, List.nil_append]
  generalize exporter.registerAll _ respond state = registered
  generalize writeBatches _ _ 0 _ respond registered.state = written
  cases written.result with
  | error error => simp [concluded]
  | ok =>
      by_cases dropped : series.length < records.length
      · simp [concluded, conclude, dropped, Nat.not_le.mpr dropped]
      · simp [concluded, conclude, dropped, Nat.not_lt.mp dropped]

/-- The calls of one export and what becomes of them: the descriptor calls, until one is refused,
and then writes of consecutive batches, until one is refused. The first refused write is the result
of the export; a refused descriptor never is. -/
theorem exportRecords_calls (exporter : Exporter) (records : List MetricRecord)
    (running : exporter.isShutdown = false) (respond : Responder Call CallResult State)
    (state : State) :
    let transcript := exporter.exportRecords records respond state
    (exporter.settled records = none →
      transcript.result.1 = .undated ∧ transcript.asked = []) ∧
    ∀ series intervals, exporter.settled records = some (series, intervals) →
      ∃ (registrations writes : List (Call × CallResult)) (parts : List (List Series)),
        transcript.asked = registrations ++ writes ∧
        UntilRefused (exporter.registrations records) registrations ∧
        Batched series parts ∧
        UntilRefused (parts.map (.write exporter.mode ("projects/" ++ exporter.projectId))) writes ∧
        (∀ call error, (call, .error error) ∈ writes → transcript.result.1 = .failed error) ∧
        ((∀ exchange ∈ writes, exchange.2 = .ok ()) →
          (writes.flatMap fun exchange => exchange.1.payload) = series ∧
          transcript.result.1 =
            .done (if records.length ≤ series.length then .success else .failure)) ∧
        (∀ error, transcript.result.1 = .failed error →
          ∃ call, (call, .error error) ∈ writes) := by
  refine ⟨?_, ?_⟩
  · intro undated
    obtain ⟨result, asked⟩ := exportRecords_undated running undated respond state
    exact ⟨congrArg Prod.fst result, asked⟩
  · intro series intervals finished
    obtain ⟨result, asked, _⟩ := exportRecords_settled running finished respond state
    have inOrder := writeBatches_asked exporter.mode exporter.projectName 0 (batches series) respond
      (exporter.registerAll (exporter.descriptors records) respond state).state
    rw [writeBatches_result] at result
    refine ⟨_, _, batches series, asked, exporter.registerAll_asked records respond state,
      batched_batches series, inOrder, ?_, ?_, ?_⟩
    · intro call error member
      rw [result, inOrder.outcome_of_mem member]
      rfl
    · intro accepted
      rw [result, (outcome_eq_ok_iff _).mpr accepted]
      refine ⟨?_, rfl⟩
      calc (_ : List (Call × CallResult)).flatMap (fun exchange => exchange.1.payload)
          = (List.map Prod.fst _).flatMap Call.payload := (List.flatMap_map ..).symm
        _ = ((batches series).map (Call.write exporter.mode exporter.projectName)).flatMap
              Call.payload := by rw [inOrder.questions_of_accepted accepted]
        _ = (batches series).flatten := by rw [List.flatMap_map]; simp [Call.payload]
        _ = series := flatten_batches series
    · intro error failed
      rw [result] at failed
      exact mem_of_outcome ((concluded_eq_failed_iff _ _ _ _).mp failed)

theorem exportRecords_calls_refused :
    let exporter : Exporter := { starting "my-project" ⟨0⟩ with
      naming := ⟨defaultPrefix, some ⟨"host", []⟩⟩ }
    let records : List MetricRecord :=
      [⟨"load", "", "", [], .longGauge [⟨1, .empty, ⟨10⟩, ⟨10⟩⟩]⟩]
    let series : List Series := [⟨"workload.googleapis.com/load", .empty, ⟨"host", .empty⟩, .gauge,
      .int64, [⟨.instant ⟨10⟩, .int64 1⟩]⟩]
    let refuse : Responder Call CallResult Unit := fun state _ => (.error (.rpc "refused"), state)
    let transcript := exporter.exportRecords records refuse ()
    ∃ (registrations writes : List (Call × CallResult)) (parts : List (List Series)),
      transcript.asked = registrations ++ writes ∧
      UntilRefused (exporter.registrations records) registrations ∧ Batched series parts ∧
      UntilRefused (parts.map (.write .plain "projects/my-project")) writes ∧
      transcript.result.1 = .failed (.rpc "refused") := by
  intro exporter records series refuse transcript
  have settled : (exporter.settled records).map Prod.fst = some series := by decide +kernel
  obtain ⟨⟨_, intervals⟩, finished, rfl⟩ := Option.map_eq_some_iff.mp settled
  obtain ⟨registrations, writes, parts, asked, registered, batched, written, _⟩ :=
    (exportRecords_calls exporter records rfl refuse ()).2 _ intervals finished
  have result : transcript.result.1 = .failed (.rpc "refused") := by decide +kernel
  exact ⟨registrations, writes, parts, asked, registered, batched, written, result⟩

end Exporter

end CloudMonitoring
