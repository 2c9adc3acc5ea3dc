import CloudMonitoring.Export.Configuration
import CloudMonitoring.Proofs.Operations
import CloudMonitoring.Proofs.SeriesTypes

/-!
Descriptors precede points. Every series that an export computes has a descriptor of its metric type
among those that the export computes; these are registered before anything is written, or have been
registered already. So where no registration is refused, nothing is written whose metric type was not
accepted before.
-/

namespace CloudMonitoring

theorem Strategy.wanted_or_accepted {strategy : Strategy}
    (registers : strategy = .always ∨ strategy = .once []) (past : List Descriptor)
    {descriptors : List Descriptor} {descriptor : Descriptor} (member : descriptor ∈ descriptors) :
    (∃ other ∈ (strategy.rememberAll past).wanted descriptors,
        other.metricType = descriptor.metricType) ∨
      (strategy ≠ .always ∧ ∃ other ∈ past, other.metricType = descriptor.metricType) := by
  rcases registers with rfl | rfl
  · rw [rememberAll_always]
    exact .inl ⟨descriptor, member, rfl⟩
  · rw [rememberAll_once, List.nil_append]
    rcases known_or_wanted (past.map Descriptor.metricType) member with isKnown | isWanted
    · exact .inr ⟨by simp, List.mem_map.mp isKnown⟩
    · exact .inl (List.mem_map.mp isWanted)

theorem Aggregation.exists_descriptor {samples : List Sample} {table next : IntervalTable}
    {series : List Series} (finished : (ofSamples samples).finish table = some (series, next))
    {each : Series} (member : each ∈ series) :
    ∃ descriptor ∈ (ofSamples samples).descriptorList,
      descriptor.metricType = each.metricType := by
  obtain ⟨pending, found, _⟩ := (mem_finish finished each).mp member
  obtain ⟨first, _, isFirst, _, _⟩ := pending?_eq_some found
  obtain ⟨listed, sameKey⟩ := Sample.mem_of_head? isFirst
  have sameType : first.descriptor.metricType = each.metricType := congrArg (·.metricType) sameKey
  obtain ⟨header, isHeader⟩ := Sample.exists_head?_ofType listed
  rw [sameType] at isHeader
  have described := filter_descriptorList samples each.metricType
  rw [isHeader, Option.map_some, Option.toList_some] at described
  have found : header.descriptor ∈ (ofSamples samples).descriptorList.filter fun other =>
      other.metricType = each.metricType := by simp [described]
  exact ⟨_, (List.mem_filter.mp found).1, by simpa using (List.mem_filter.mp found).2⟩

namespace Performed

variable {State : Type} {one : Performed State}

theorem exists_descriptor {each : Series} (member : each ∈ one.series) :
    ∃ descriptor ∈ one.descriptors, descriptor.metricType = each.metricType := by
  obtain ⟨exporter, operation, transcript⟩ := one
  cases operation with
  | flush => simp [series] at member
  | shutdown => simp [series] at member
  | exportRecords records =>
      cases running : exporter.isShutdown with
      | true => simp [series, running] at member
      | false =>
          cases finished : exporter.settled records with
          | none => simp [series, running, finished] at member
          | some found =>
              obtain ⟨settled, intervals⟩ := found
              have listed : each ∈ settled := by simpa [series, running, finished] using member
              simp only [descriptors, running, finished]
              rw [Exporter.settled_eq] at finished
              have described := Aggregation.exists_descriptor finished listed
              rwa [← Exporter.aggregate_fst] at described

theorem Rounds.mem_series (rounds : one.Rounds) {mode : WriteMode} {project : String}
    {payload : List Series} {answer : CallResult}
    (written : (.write mode project payload, answer) ∈ one.asked) {each : Series}
    (member : each ∈ payload) : each ∈ one.series := by
  have isWrite : (Call.write mode project payload, answer) ∈ writesOf one.asked :=
    List.mem_filter.mpr ⟨written, rfl⟩
  obtain ⟨part, listed, same⟩ := List.mem_map.mp (rounds.writes.mem_questions isWrite)
  obtain ⟨_, _, rfl⟩ := Call.write.inj same
  rw [← flatten_batches one.series]
  exact List.mem_flatten.mpr ⟨part, listed, member⟩

theorem Rounds.accepted_before_write (rounds : one.Rounds) (plain : one.exporter.mode = .plain)
    (accepted : ∀ exchange ∈ registrationsOf one.asked, exchange.2 = .ok ())
    {descriptor : Descriptor} (isWanted : descriptor ∈ one.exporter.strategy.wanted one.descriptors)
    {early late : List (Call × CallResult)} {write : Call × CallResult}
    (split : one.asked = early ++ write :: late) (isWrite : write.1.isWrite) :
    (.createDescriptor one.exporter.projectName descriptor, .ok ()) ∈ early := by
  have planned : .createDescriptor one.exporter.projectName descriptor ∈ one.registrations := by
    rw [Performed.registrations, plain]
    exact List.mem_map_of_mem isWanted
  have succeeded := (outcome_eq_ok_iff _).mpr accepted
  have found := rounds.registrations.accepted_of_outcome succeeded planned
  exact rounds.order early write late split isWrite _ (mem_acceptedQuestions.mp found)

theorem Rounds.project_of_createDescriptor (rounds : one.Rounds) {project : String}
    {descriptor : Descriptor} {answer : CallResult}
    (member : (.createDescriptor project descriptor, answer) ∈ one.asked) :
    project = one.exporter.projectName := by
  have registers : (Call.createDescriptor project descriptor, answer) ∈ registrationsOf one.asked :=
    List.mem_filter.mpr ⟨member, rfl⟩
  have planned := rounds.registrations.mem_questions registers
  rw [Performed.registrations] at planned
  split at planned
  · obtain ⟨_, _, same⟩ := List.mem_map.mp planned
    exact (Call.createDescriptor.inj same).1.symm
  · simp at planned

end Performed

theorem Exporter.createDescriptor_of_accepted {State : Type} {exporter : Exporter}
    {operations : List Operation} {respond : Responder Call CallResult State} {state : State}
    {past future : List (Performed State)}
    (split : exporter.performed respond state operations = past ++ future) {descriptor : Descriptor}
    (accepted : descriptor ∈ acceptedDescriptors (past.flatMap Performed.asked)) :
    (.createDescriptor exporter.projectName descriptor, .ok ()) ∈
      past.flatMap Performed.asked := by
  obtain ⟨project, member⟩ := mem_acceptedDescriptors.mp accepted
  obtain ⟨one, listed, asked⟩ := List.mem_flatMap.mp member
  obtain ⟨before, after, rfl⟩ := List.append_of_mem listed
  rw [List.append_assoc, List.cons_append] at split
  obtain ⟨rounds, reached⟩ := performed_split split
  have sameProject : project = exporter.projectName := by
    rw [rounds.project_of_createDescriptor asked, reached]
    rfl
  rwa [sameProject] at member

/-- In every run of an exporter that registers its descriptors, an export none of whose descriptors is
refused writes only series whose metric type has been accepted before, in the same export where all
descriptors are registered every time. -/
theorem Configuration.writes_described {State : Type} (configuration : Configuration)
    (projectId : String) (startTime : Instant) (operations : List Operation)
    (respond : Responder Call CallResult State) (state : State)
    (plain : configuration.mode = .plain)
    (registers : configuration.strategy = .always ∨ configuration.strategy = .once []) :
    ∀ past one future, (configuration.exporter projectId startTime).performed respond state
        operations = past ++ one :: future →
      (∀ exchange ∈ registrationsOf one.asked, exchange.2 = .ok ()) →
      ∀ early mode project series answer late,
        one.asked = early ++ (.write mode project series, answer) :: late →
        ∀ each ∈ series, ∃ descriptor, descriptor.metricType = each.metricType ∧
          (.createDescriptor ("projects/" ++ projectId) descriptor, .ok ()) ∈
            if configuration.strategy = .always then early
            else past.flatMap Performed.asked ++ early := by
  intro past one future split accepted early mode project series answer late asked each member
  obtain ⟨rounds, reached⟩ := Exporter.performed_split split
  have written : (Call.write mode project series, answer) ∈ one.asked := by simp [asked]
  obtain ⟨computed, isComputed, sameType⟩ :=
    Performed.exists_descriptor (rounds.mem_series written member)
  have sameProject : one.exporter.projectName = "projects/" ++ projectId := by
    rw [reached]
    rfl
  have samePlain : one.exporter.mode = .plain := by
    rw [reached]
    exact plain
  have remembers : one.exporter.strategy = configuration.strategy.rememberAll
      (acceptedDescriptors (past.flatMap Performed.asked)) := by
    rw [reached]
    rfl
  rcases Strategy.wanted_or_accepted registers
      (acceptedDescriptors (past.flatMap Performed.asked)) isComputed with
    ⟨other, isWanted, otherType⟩ | ⟨notAlways, other, isAccepted, otherType⟩
  · -- The descriptor belongs to this operation, whose registrations all succeed.
    rw [← remembers] at isWanted
    have before := rounds.accepted_before_write samePlain accepted isWanted asked rfl
    rw [sameProject] at before
    refine ⟨other, otherType.trans sameType, ?_⟩
    split
    · exact before
    · exact List.mem_append_right _ before
  · -- The type was accepted in an earlier operation.
    have before := Exporter.createDescriptor_of_accepted split isAccepted
    refine ⟨other, otherType.trans sameType, ?_⟩
    rw [if_neg notAlways]
    exact List.mem_append_left _ before

theorem Configuration.writes_described_remembered :
    let configuration : Configuration := { standard with description := some ⟨"host", []⟩ }
    let record (name : String) : MetricRecord :=
      ⟨name, "", "", [], .longGauge [⟨1, .empty, ⟨10⟩, ⟨10⟩⟩]⟩
    let exported : Operation := .exportRecords [record "load", record "heat"]
    let respond : Responder Call CallResult Nat := fun count _ =>
      (if count = 1 then .error (.rpc "refused") else .ok (), count + 1)
    let run := (configuration.exporter "my-project" ⟨0⟩).performed respond 0 [exported, exported]
    let heat : Descriptor :=
      ⟨"workload.googleapis.com/heat", "heat", "", "", .gauge, .int64, []⟩
    let series (metricType : String) : Series :=
      ⟨metricType, .empty, ⟨"host", .empty⟩, .gauge, .int64, [⟨.instant ⟨10⟩, .int64 1⟩]⟩
    let both := [series "workload.googleapis.com/load", series "workload.googleapis.com/heat"]
    let early : List (Call × CallResult) :=
      [(Call.createDescriptor "projects/my-project" heat, .ok ())]
    let late : List (Call × CallResult) := []
    ∃ first second, run = [first] ++ second :: [] ∧
      second.asked = early ++ (Call.write .plain "projects/my-project" both, .ok ()) :: late ∧
      ∀ each ∈ both, ∃ descriptor, descriptor.metricType = each.metricType ∧
        (Call.createDescriptor "projects/my-project" descriptor, .ok ()) ∈
          if configuration.strategy = .always then early
          else [first].flatMap Performed.asked ++ early := by
  intro configuration record exported respond run heat series both early late
  let exporter := configuration.exporter "my-project" ⟨0⟩
  let transcript := exporter.perform exported respond 0
  let first : Performed Nat := ⟨exporter, exported, transcript⟩
  let second : Performed Nat := ⟨transcript.result.2, exported,
    transcript.result.2.perform exported respond transcript.state⟩
  have split : run = [first] ++ second :: [] := by
    simp only [run, first, second, transcript, exporter, Exporter.performed, List.singleton_append]
  have accepted : ∀ exchange ∈ registrationsOf second.asked, exchange.2 = .ok () := by
    decide +kernel
  have asked : second.asked =
      early ++ (Call.write .plain "projects/my-project" both, .ok ()) :: late := by decide +kernel
  have described := writes_described configuration "my-project" ⟨0⟩ [exported, exported] respond 0
    rfl (.inr rfl) [first] second [] split accepted early .plain "projects/my-project" both
    (.ok ()) late asked
  exact ⟨first, second, split, asked, described⟩

end CloudMonitoring
