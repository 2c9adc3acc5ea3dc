import CloudMonitoring.Export.Configuration

/-!
The project that an exporter is made for. The environment names a project by the first project variable
that is not empty, but a configuration made from it stops at the first one that is set. The two differ only
where that one is empty and a later one is not: then no project is taken from the environment, and the
metadata server is asked instead. In no way is an exporter made for a project without a name.
-/

namespace CloudMonitoring

namespace Configuration

variable {State : Type}

def namedProject? (environment : Environment) : Option String :=
  projectVariables.findSome? fun name => (environment name).filter (· ≠ "")

/-- Some project variable names a project, but the first one that is set is empty. -/
structure HidesProject (environment : Environment) : Prop where
  emptyFirst : projectVariables.findSome? environment = some ""
  named : ∃ name ∈ projectVariables, ∃ project, environment name = some project ∧ project ≠ ""

section Names

variable {environment : Environment} {names : List String}

theorem findSome?_named_of_unset (unset : names.findSome? environment = none) :
    (names.findSome? fun name => (environment name).filter (· ≠ "")) = none := by
  rw [List.findSome?_eq_none_iff] at unset ⊢
  intro name listed
  rw [unset name listed]
  rfl

theorem findSome?_named_of_set {project : String} (nonempty : project ≠ "")
    (first : names.findSome? environment = some project) :
    (names.findSome? fun name => (environment name).filter (· ≠ "")) = some project := by
  rw [List.findSome?_eq_some_iff] at first ⊢
  obtain ⟨earlier, name, later, whole, found, unset⟩ := first
  refine ⟨earlier, name, later, whole, by simp [found, nonempty], ?_⟩
  intro other listed
  rw [unset other listed]
  rfl

end Names

theorem namedProject?_isSome_iff (environment : Environment) :
    (namedProject? environment).isSome ↔
      ∃ name ∈ projectVariables, ∃ project, environment name = some project ∧ project ≠ "" := by
  simp [namedProject?, Option.isSome_filter, Option.any_eq_true]

theorem environmentProject?_of_hides {environment : Environment} (hides : HidesProject environment) :
    environmentProject? environment = none := by
  rw [environmentProject?, hides.emptyFirst]
  rfl

theorem environmentProject?_of_shown {environment : Environment}
    (shown : ¬ HidesProject environment) :
    environmentProject? environment = namedProject? environment := by
  cases first : projectVariables.findSome? environment with
  | none => rw [environmentProject?, namedProject?, first, findSome?_named_of_unset first]; rfl
  | some project =>
      by_cases empty : project = ""
      · subst empty
        have unnamed : namedProject? environment = none := Option.not_isSome_iff_eq_none.mp fun named =>
          shown ⟨first, (namedProject?_isSome_iff environment).mp named⟩
        rw [unnamed, environmentProject?, first]
        rfl
      · rw [environmentProject?, namedProject?, first, findSome?_named_of_set empty first]
        simp [empty]

theorem namedProject?_ne_empty {environment : Environment} {project : String}
    (named : namedProject? environment = some project) : project ≠ "" := by
  obtain ⟨name, _, found⟩ := List.exists_of_findSome?_eq_some named
  simpa using (Option.filter_eq_some_iff.mp found).2

section Checked

variable {configuration : Configuration}

structure Sound (configuration : Configuration) : Prop where
  deadline : configuration.deadline ≠ 0
  endpoint : configuration.endpoint ≠ ""

theorem validate_eq_ok_iff (configuration : Configuration) :
    configuration.validate = .ok () ↔ configuration.projectId ≠ some "" ∧ configuration.Sound := by
  constructor
  · intro valid
    simp only [validate] at valid
    split at valid
    · simp at valid
    · rename_i named
      split at valid
      · simp at valid
      · rename_i deadline
        split at valid
        · simp at valid
        · rename_i endpoint
          exact ⟨named, deadline, endpoint⟩
  · rintro ⟨named, deadline, endpoint⟩
    simp [validate, named, deadline, endpoint]

theorem checkedProject_of_project (sound : configuration.Sound) {project : String}
    (configured : configuration.projectId = some project) (nonempty : project ≠ "")
    (respond : Responder String (Option String) State) (state : State) :
    configuration.checkedProject respond state = ⟨.ok project, state, [], []⟩ := by
  have valid := (validate_eq_ok_iff configuration).mpr ⟨by simp [configured, nonempty], sound⟩
  simp [checkedProject, valid, resolveProject, configured]

theorem checkedProject_of_none (sound : configuration.Sound)
    (unconfigured : configuration.projectId = none)
    (respond : Responder String (Option String) State) (state : State) :
    let answer := (respond state "project/project-id").1
    let checked := configuration.checkedProject respond state
    checked.asked = [("project/project-id", answer)] ∧
      checked.result = match answer.filter (· ≠ "") with
        | some project => .ok project
        | none => .error (.config
            "no project id configured and none available from the metadata server") := by
  have valid := (validate_eq_ok_iff configuration).mpr ⟨by simp [unconfigured], sound⟩
  simp only [checkedProject, valid, resolveProject, unconfigured, Metadata.projectId,
    Metadata.projectIdPath, Session.bind_asked, Session.bind_result, Session.ask_eq]
  cases (respond state "project/project-id").1 with
  | none => exact ⟨rfl, rfl⟩
  | some project =>
      by_cases empty : project = ""
      · subst empty
        exact ⟨rfl, rfl⟩
      · have kept : (some project).filter (· ≠ "") = some project := by simp [empty]
        simp only [kept]
        exact ⟨rfl, rfl⟩

theorem ne_empty_of_checkedProject {project : String}
    {respond : Responder String (Option String) State} {state : State}
    (chosen : (configuration.checkedProject respond state).result = .ok project) : project ≠ "" := by
  cases valid : configuration.validate with
  | error error => simp [checkedProject, valid] at chosen
  | ok =>
      obtain ⟨named, sound⟩ := (validate_eq_ok_iff configuration).mp valid
      cases configured : configuration.projectId with
      | some other =>
          have nonempty : other ≠ "" := by simpa [configured] using named
          rw [checkedProject_of_project sound configured nonempty] at chosen
          exact Except.ok.inj chosen ▸ nonempty
      | none =>
          obtain ⟨-, result⟩ := checkedProject_of_none sound configured respond state
          rw [result] at chosen
          split at chosen
          · rename_i other found
            have nonempty := (Option.filter_eq_some_iff.mp found).2
            rw [Except.ok.inj chosen] at nonempty
            simpa using nonempty
          · simp at chosen

theorem createExporter_eq (configuration : Configuration) (time : Instant)
    (respond : Responder String (Option String) State) (state : State) :
    let checked := configuration.checkedProject respond state
    let made := configuration.createExporter time respond state
    made.result = checked.result.map (configuration.exporter · time) ∧ made.asked = checked.asked := by
  simp only [createExporter, Session.bind_result, Session.bind_asked]
  cases (configuration.checkedProject respond state).result with
  | error error => simp [Except.map]
  | ok project => simp [Except.map, announce]

theorem project_of_createExporter {time : Instant}
    {respond : Responder String (Option String) State} {state : State} {exporter : Exporter}
    (made : (configuration.createExporter time respond state).result = .ok exporter) :
    (configuration.checkedProject respond state).result = .ok exporter.projectId := by
  rw [(createExporter_eq configuration time respond state).1] at made
  cases checked : (configuration.checkedProject respond state).result with
  | error error => simp [checked, Except.map] at made
  | ok project =>
      rw [checked] at made
      rw [← Except.ok.inj made]
      rfl

theorem project_of_createAuthorized {provider : Except String Unit} {time : Instant}
    {respond : Responder String (Option String) State} {state : State} {exporter : Exporter}
    {client : MonitoringClient}
    (made : (configuration.createAuthorized provider time respond state).result =
      .ok (exporter, client)) :
    (configuration.checkedProject respond state).result = .ok exporter.projectId := by
  simp only [createAuthorized, Session.bind_result] at made
  cases checked : (configuration.checkedProject respond state).result with
  | error error => simp [checked] at made
  | ok project =>
      cases provider with
      | error reason => simp [checked] at made
      | ok =>
          simp only [checked, Session.bind_result, Session.pure_eq, Except.ok.injEq,
            Prod.mk.injEq] at made
          rw [← made.1]
          rfl

end Checked

abbrev Making (State : Type) := Transcript String (Option String) State (Except ExportError Exporter)

def Making.Targets (made : Making State) (project : String) : Prop :=
  ∃ exporter, made.result = .ok exporter ∧ exporter.projectId = project

def Making.AsksServer (made : Making State) : Prop :=
  ∃ answer, made.asked = [("project/project-id", answer)] ∧
    (∀ project, answer = some project → project ≠ "" → made.Targets project) ∧
    (answer = none ∨ answer = some "" → ∃ reason, made.result = .error (.config reason))

structure Making.FollowsNames (environment : Environment) (made : Making State) : Prop where
  named : ∀ project, namedProject? environment = some project →
    made.Targets project ∧ made.asked = []
  unnamed : namedProject? environment = none → made.AsksServer

section Making

variable {environment : Environment} (time : Instant)
  (respond : Responder String (Option String) State) (state : State)

theorem targets_of_checked {configuration : Configuration} {project : String}
    (checked : (configuration.checkedProject respond state).result = .ok project) :
    Making.Targets (configuration.createExporter time respond state) project := by
  refine ⟨configuration.exporter project time, ?_, rfl⟩
  rw [(createExporter_eq configuration time respond state).1, checked]
  rfl

theorem sound_ofEnvironment
    (endpoint : environment "GOOGLE_CLOUD_MONITORING_ENDPOINT" ≠ some "") :
    (ofEnvironment environment).Sound := by
  refine ⟨by simp [ofEnvironment, standard], ?_⟩
  cases set : environment "GOOGLE_CLOUD_MONITORING_ENDPOINT" with
  | none => simp [ofEnvironment, set, standard]
  | some url =>
      have nonempty : url ≠ "" := by simpa [set] using endpoint
      simpa [ofEnvironment, set] using nonempty

theorem asksServer_of_none (endpoint : environment "GOOGLE_CLOUD_MONITORING_ENDPOINT" ≠ some "")
    (unnamed : environmentProject? environment = none) :
    Making.AsksServer ((ofEnvironment environment).createExporter time respond state) := by
  obtain ⟨asked, result⟩ :=
    checkedProject_of_none (sound_ofEnvironment endpoint) unnamed respond state
  obtain ⟨made, askedToo⟩ := createExporter_eq (ofEnvironment environment) time respond state
  refine ⟨_, askedToo.trans asked, ?_, ?_⟩
  · intro project answered nonempty
    apply targets_of_checked
    have kept : (some project).filter (· ≠ "") = some project := by simp [nonempty]
    rw [result, answered, kept]
  · intro nothing
    rw [made, result]
    rcases nothing with none | empty
    · exact ⟨_, by rw [none]; rfl⟩
    · exact ⟨_, by rw [empty]; rfl⟩

theorem followsNames_of_shown (endpoint : environment "GOOGLE_CLOUD_MONITORING_ENDPOINT" ≠ some "")
    (shown : ¬ HidesProject environment) :
    Making.FollowsNames environment
      ((ofEnvironment environment).createExporter time respond state) := by
  have configured := environmentProject?_of_shown shown
  refine ⟨?_, fun unnamed => asksServer_of_none time respond state endpoint (configured.trans unnamed)⟩
  intro project named
  have checked := checkedProject_of_project (sound_ofEnvironment endpoint)
    (configured.trans named) (namedProject?_ne_empty named) respond state
  refine ⟨targets_of_checked time respond state (congrArg Transcript.result checked), ?_⟩
  rw [(createExporter_eq _ time respond state).2, checked]

theorem not_followsNames_of_hides
    (endpoint : environment "GOOGLE_CLOUD_MONITORING_ENDPOINT" ≠ some "")
    (hides : HidesProject environment) :
    ¬ Making.FollowsNames environment
      ((ofEnvironment environment).createExporter time respond state) := by
  intro follows
  obtain ⟨project, named⟩ :=
    Option.isSome_iff_exists.mp ((namedProject?_isSome_iff environment).mpr hides.named)
  obtain ⟨answer, asked, -⟩ := asksServer_of_none time respond state endpoint
    (environmentProject?_of_hides hides)
  rw [(follows.named project named).2] at asked
  contradiction

end Making

/-- An exporter made from the environment is one for the project that the environment names, or else for
that of the metadata server, just where no empty variable hides the name; where one does, the server
decides although a project is named. Whichever way an exporter is made, its project has a name. -/
theorem follows_names_iff (environment : Environment) (time : Instant)
    (respond : Responder String (Option String) State) (state : State) :
    (environment "GOOGLE_CLOUD_MONITORING_ENDPOINT" ≠ some "" →
      let made := (ofEnvironment environment).createExporter time respond state
      (Making.FollowsNames environment made ↔ ¬ HidesProject environment) ∧
      (HidesProject environment → Making.AsksServer made)) ∧
    ∀ configuration : Configuration,
      (∀ exporter, (configuration.createExporter time respond state).result = .ok exporter →
        exporter.projectId ≠ "") ∧
      ∀ provider exporter client,
        (configuration.createAuthorized provider time respond state).result =
          .ok (exporter, client) → exporter.projectId ≠ "" := by
  refine ⟨?_, fun configuration => ⟨?_, ?_⟩⟩
  · intro endpoint
    refine ⟨⟨?_, followsNames_of_shown time respond state endpoint⟩, ?_⟩
    · intro follows hides
      exact not_followsNames_of_hides time respond state endpoint hides follows
    · intro hides
      exact asksServer_of_none time respond state endpoint (environmentProject?_of_hides hides)
  · intro exporter made
    exact ne_empty_of_checkedProject (project_of_createExporter made)
  · intro provider exporter client made
    exact ne_empty_of_checkedProject (project_of_createAuthorized made)

def projectEnvironment (google gcloud gcp : Option String) : Environment
  | "GOOGLE_CLOUD_PROJECT" => google
  | "GCLOUD_PROJECT" => gcloud
  | "GCP_PROJECT" => gcp
  | _ => none

theorem hides_projectEnvironment {project : String} (nonempty : project ≠ "") :
    HidesProject (projectEnvironment (some "") none (some project)) :=
  ⟨rfl, "GCP_PROJECT", by decide, project, rfl, nonempty⟩

theorem follows_names_iff_second_third :
    Making.FollowsNames (projectEnvironment none (some "second") (some ""))
        ((ofEnvironment (projectEnvironment none (some "second") (some ""))).createExporter
          ⟨1000⟩ (fun _ _ => (none, ())) ()) ∧
      Making.AsksServer
        ((ofEnvironment (projectEnvironment (some "") none (some "third"))).createExporter
          ⟨1000⟩ (fun _ _ => (none, ())) ()) := by
  have shown : ¬ HidesProject (projectEnvironment none (some "second") (some "")) := fun hides => by
    simpa [projectVariables, projectEnvironment] using hides.emptyFirst
  constructor
  · exact ((follows_names_iff (projectEnvironment none (some "second") (some "")) _ _ _).1
      (by decide)).1.mpr shown
  · exact ((follows_names_iff (projectEnvironment (some "") none (some "third")) _ _ _).1
      (by decide)).2 (hides_projectEnvironment (by decide))

/-- A project variable that is set to the empty text hides a project that another one names. -/
theorem empty_variable_hides_project :
    ¬ ∀ (environment : Environment) (time : Instant)
        (respond : Responder String (Option String) Unit) (state : Unit),
      environment "GOOGLE_CLOUD_MONITORING_ENDPOINT" ≠ some "" →
        Making.FollowsNames environment
          ((ofEnvironment environment).createExporter time respond state) := by
  intro follows
  have hides : HidesProject (projectEnvironment (some "") none (some "legacy")) :=
    hides_projectEnvironment (by decide)
  refine not_followsNames_of_hides ⟨1000⟩ (fun _ _ => (none, ())) () ?_ hides
    (follows _ _ _ _ ?_)
  all_goals decide

end Configuration

end CloudMonitoring
