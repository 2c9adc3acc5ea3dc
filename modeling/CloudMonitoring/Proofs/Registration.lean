import CloudMonitoring.Proofs.Calls

/-!
What a strategy remembers of the registrations it has made. One that registers each metric type once
remembers just the types that were accepted, so no type is accepted twice, and a refused one is asked
for again.
-/

namespace CloudMonitoring

section Exchanges

variable {Question Other : Type}

def acceptedQuestions (exchanges : List (Question × CallResult)) : List Question :=
  exchanges.filterMap fun exchange =>
    match exchange.2 with
    | .ok () => some exchange.1
    | .error _ => none

theorem mem_acceptedQuestions {question : Question} {exchanges : List (Question × CallResult)} :
    question ∈ acceptedQuestions exchanges ↔ (question, .ok ()) ∈ exchanges := by
  rw [acceptedQuestions, List.mem_filterMap]
  constructor
  · rintro ⟨⟨other, answer⟩, member, isAccepted⟩
    cases answer with
    | ok =>
        simp only [Option.some.injEq] at isAccepted
        rwa [← isAccepted]
    | error error => simp at isAccepted
  · intro member
    exact ⟨_, member, rfl⟩

@[simp] theorem acceptedQuestions_append (first second : List (Question × CallResult)) :
    acceptedQuestions (first ++ second) = acceptedQuestions first ++ acceptedQuestions second :=
  List.filterMap_append

theorem acceptedQuestions_rephrased (words : Question → Other)
    (exchanges : List (Question × CallResult)) :
    acceptedQuestions (exchanges.map fun exchange => (words exchange.1, exchange.2)) =
      (acceptedQuestions exchanges).map words := by
  simp only [acceptedQuestions, List.filterMap_map, List.map_filterMap, Function.comp_def]
  congr 1
  funext exchange
  cases exchange.2 with
  | ok => rfl
  | error error => rfl

theorem UntilRefused.questions_prefix {questions : List Question}
    {exchanges : List (Question × CallResult)} (asked : UntilRefused questions exchanges) :
    exchanges.map Prod.fst <+: questions := by
  induction asked with
  | done => exact List.prefix_refl []
  | @accepted question _ _ _ ih => exact (List.prefix_cons_inj question).mpr ih
  | @refused question rest error => exact ⟨rest, rfl⟩

theorem UntilRefused.accepted_of_outcome {questions : List Question}
    {exchanges : List (Question × CallResult)} (asked : UntilRefused questions exchanges)
    (succeeded : outcome exchanges = .ok ()) {question : Question} (member : question ∈ questions) :
    question ∈ acceptedQuestions exchanges := by
  have all := (outcome_eq_ok_iff exchanges).mp succeeded
  rw [← asked.questions_of_accepted all] at member
  obtain ⟨⟨same, answer⟩, listed, rfl⟩ := List.mem_map.mp member
  have isAccepted : answer = .ok () := all _ listed
  rw [mem_acceptedQuestions, ← isAccepted]
  exact listed

end Exchanges

namespace Strategy

variable {State : Type}

def rememberAll (strategy : Strategy) (descriptors : List Descriptor) : Strategy :=
  descriptors.foldl (fun strategy descriptor => strategy.remember descriptor) strategy

@[simp] theorem rememberAll_nil (strategy : Strategy) : strategy.rememberAll [] = strategy := rfl

theorem rememberAll_append (strategy : Strategy) (first second : List Descriptor) :
    strategy.rememberAll (first ++ second) = (strategy.rememberAll first).rememberAll second :=
  List.foldl_append

@[simp] theorem rememberAll_always (descriptors : List Descriptor) :
    always.rememberAll descriptors = always := by
  induction descriptors with
  | nil => rfl
  | cons descriptor rest ih => exact ih

@[simp] theorem rememberAll_once (known : List String) (descriptors : List Descriptor) :
    (once known).rememberAll descriptors =
      once (known ++ descriptors.map Descriptor.metricType) := by
  induction descriptors generalizing known with
  | nil => simp
  | cons descriptor rest ih =>
      have next := ih (known ++ [descriptor.metricType])
      rwa [List.append_assoc] at next

theorem register_result (strategy : Strategy) (descriptors : List Descriptor)
    (respond : Responder Descriptor CallResult State) (state : State) :
    (strategy.register descriptors respond state).result =
      (outcome (strategy.register descriptors respond state).asked,
        strategy.rememberAll
          (acceptedQuestions (strategy.register descriptors respond state).asked)) := by
  induction descriptors generalizing strategy state with
  | nil => rfl
  | cons descriptor rest ih =>
      rw [register]
      by_cases isWanted : strategy.wants descriptor
      · simp only [isWanted, if_true, Session.bind_result, Session.bind_asked, Session.log_eq,
          Session.ask_eq, List.nil_append, List.singleton_append]
        cases answer : (respond state descriptor).1 with
        | ok => exact ih (strategy.remember descriptor) _
        | error error => rfl
      · rw [if_neg isWanted]
        exact ih strategy state

theorem wanted_nil (strategy : Strategy) : strategy.wanted [] = [] := by
  cases strategy with
  | always => rfl
  | never => rfl
  | once known => rfl

section Wanted

variable {known : List String} {descriptors : List Descriptor} {descriptor : Descriptor}

theorem wanted_once_cons (known : List String) (descriptor : Descriptor)
    (rest : List Descriptor) :
    (once known).wanted (descriptor :: rest) =
      if descriptor.metricType ∈ known then (once known).wanted rest
      else descriptor :: (once (known ++ [descriptor.metricType])).wanted rest := by
  rw [wanted_cons]
  by_cases isKnown : descriptor.metricType ∈ known
  · simp [wants, isKnown]
  · simp [wants, remember, isKnown]

theorem not_known_of_mem_wanted (member : descriptor ∈ (once known).wanted descriptors) :
    descriptor.metricType ∉ known := by
  induction descriptors generalizing known with
  | nil => simp [wanted] at member
  | cons first rest ih =>
      rw [wanted_once_cons] at member
      split at member
      · exact ih member
      · rename_i isNew
        rcases List.mem_cons.mp member with rfl | later
        · exact isNew
        · intro isKnown
          exact ih later (List.mem_append_left _ isKnown)

theorem wanted_types_nodup (known : List String) (descriptors : List Descriptor) :
    (((once known).wanted descriptors).map Descriptor.metricType).Nodup := by
  induction descriptors generalizing known with
  | nil => exact List.nodup_nil
  | cons first rest ih =>
      rw [wanted_once_cons]
      split
      · exact ih known
      · refine List.nodup_cons.mpr ⟨?_, ih _⟩
        intro again
        obtain ⟨other, later, same⟩ := List.mem_map.mp again
        exact not_known_of_mem_wanted later (by simp [same])

theorem known_or_wanted (known : List String) (member : descriptor ∈ descriptors) :
    descriptor.metricType ∈ known ∨
      descriptor.metricType ∈ ((once known).wanted descriptors).map Descriptor.metricType := by
  induction descriptors generalizing known with
  | nil => simp at member
  | cons first rest ih =>
      rw [wanted_once_cons]
      rcases List.mem_cons.mp member with rfl | later
      · split
        · rename_i isKnown
          exact .inl isKnown
        · exact .inr (by simp)
      · split
        · exact ih known later
        · rcases ih (known ++ [first.metricType]) later with earlier | found
          · rcases List.mem_append.mp earlier with isKnown | isFirst
            · exact .inl isKnown
            · exact .inr (by simp [List.mem_singleton.mp isFirst])
          · exact .inr (List.mem_cons_of_mem _ found)

end Wanted

end Strategy

structure Registration (State : Type) where
  strategy : Strategy
  descriptors : List Descriptor
  transcript : Transcript Descriptor CallResult State (CallResult × Strategy)

namespace Registration

variable {State : Type}

def asked (round : Registration State) : List (Descriptor × CallResult) := round.transcript.asked

def result (round : Registration State) : CallResult := round.transcript.result.1

def next (round : Registration State) : Strategy := round.transcript.result.2

end Registration

def acceptedTypes (exchanges : List (Descriptor × CallResult)) : List String :=
  (acceptedQuestions exchanges).map Descriptor.metricType

namespace Strategy

variable {State : Type}

def rounds (strategy : Strategy) (respond : Responder Descriptor CallResult State) :
    State → List (List Descriptor) → List (Registration State)
  | _, [] => []
  | state, descriptors :: rest =>
      let transcript := strategy.register descriptors respond state
      ⟨strategy, descriptors, transcript⟩ ::
        transcript.result.2.rounds respond transcript.state rest

theorem map_descriptors_rounds (strategy : Strategy) (lists : List (List Descriptor))
    (respond : Responder Descriptor CallResult State) (state : State) :
    (strategy.rounds respond state lists).map Registration.descriptors = lists := by
  induction lists generalizing strategy state with
  | nil => rfl
  | cons descriptors rest ih => exact congrArg (descriptors :: ·) (ih _ _)

theorem rounds_split {strategy : Strategy} {lists : List (List Descriptor)}
    {respond : Responder Descriptor CallResult State} {state : State}
    {past future : List (Registration State)} {round : Registration State}
    (split : strategy.rounds respond state lists = past ++ round :: future) :
    round.strategy =
        strategy.rememberAll (acceptedQuestions (past.flatMap Registration.asked)) ∧
      ∃ current, round.transcript = round.strategy.register round.descriptors respond current := by
  induction past generalizing strategy state lists with
  | nil =>
      cases lists with
      | nil => simp [rounds] at split
      | cons descriptors rest =>
          simp only [rounds, List.nil_append, List.cons.injEq] at split
          obtain ⟨rfl, _⟩ := split
          exact ⟨rfl, state, rfl⟩
  | cons first past ih =>
      cases lists with
      | nil => simp [rounds] at split
      | cons descriptors rest =>
          simp only [rounds, List.cons_append, List.cons.injEq] at split
          obtain ⟨rfl, later⟩ := split
          obtain ⟨before, made⟩ := ih later
          refine ⟨?_, made⟩
          rw [before, register_result, List.flatMap_cons, acceptedQuestions_append,
            rememberAll_append]
          rfl

theorem register_once_asked (known : List String) (descriptors : List Descriptor)
    (respond : Responder Descriptor CallResult State) (state : State) :
    let asked := ((once known).register descriptors respond state).asked
    (∀ exchange ∈ asked, exchange.1.metricType ∉ known) ∧
      asked.Pairwise fun earlier later => later.1.metricType ≠ earlier.1.metricType := by
  intro asked
  have inOrder := (once known).register_asked descriptors respond state
  refine ⟨fun exchange member => not_known_of_mem_wanted (inOrder.mem_questions member), ?_⟩
  have distinct : ((asked.map Prod.fst).map Descriptor.metricType).Nodup :=
    (wanted_types_nodup known descriptors).sublist (inOrder.questions_prefix.sublist.map _)
  rw [List.map_map] at distinct
  exact (List.pairwise_map.mp distinct).imp fun different => Ne.symm different

theorem rounds_once_asked (known : List String) (lists : List (List Descriptor))
    (respond : Responder Descriptor CallResult State) (state : State) :
    let asked := ((once known).rounds respond state lists).flatMap Registration.asked
    (∀ exchange ∈ asked, exchange.1.metricType ∉ known) ∧
      asked.Pairwise fun earlier later =>
        earlier.2 = .ok () → later.1.metricType ≠ earlier.1.metricType := by
  induction lists generalizing known state with
  | nil => simp [rounds]
  | cons descriptors rest ih =>
      obtain ⟨isNew, distinct⟩ := register_once_asked known descriptors respond state
      have result := (once known).register_result descriptors respond state
      simp only [rounds, List.flatMap_cons, result, rememberAll_once]
      obtain ⟨laterNew, laterDistinct⟩ := ih
        (known ++ acceptedTypes ((once known).register descriptors respond state).asked)
        ((once known).register descriptors respond state).state
      refine ⟨?_, List.pairwise_append.mpr ⟨?_, laterDistinct, ?_⟩⟩
      · intro exchange member
        rcases List.mem_append.mp member with now | later
        · exact isNew exchange now
        · intro isKnown
          exact laterNew exchange later (List.mem_append_left _ isKnown)
      · exact distinct.imp_of_mem fun _ _ different _ => different
      · -- What was accepted in this round is known to all later ones.
        intro earlier now later afterwards isAccepted same
        refine laterNew later afterwards (List.mem_append_right _ ?_)
        rw [same]
        refine List.mem_map_of_mem (mem_acceptedQuestions.mpr ?_)
        rw [← isAccepted]
        exact now

theorem acceptedTypes_nodup {exchanges : List (Descriptor × CallResult)}
    (distinct : exchanges.Pairwise fun earlier later =>
      earlier.2 = .ok () → later.1.metricType ≠ earlier.1.metricType) :
    (acceptedTypes exchanges).Nodup := by
  induction exchanges with
  | nil => exact List.nodup_nil
  | cons first rest ih =>
      obtain ⟨differs, later⟩ := List.pairwise_cons.mp distinct
      obtain ⟨descriptor, answer⟩ := first
      cases answer with
      | error error => exact ih later
      | ok =>
          refine List.nodup_cons.mpr ⟨?_, ih later⟩
          intro again
          obtain ⟨other, listed, same⟩ := List.mem_map.mp again
          exact differs _ (mem_acceptedQuestions.mp listed) rfl same

/-- In every run of registrations that are each made once, a round asks for the first descriptor of
each type not remembered, in order and until one is refused; the refusal is its result. What is
remembered are the types accepted so far, none of which is ever asked for again. -/
theorem registers_each_type_once (lists : List (List Descriptor))
    (respond : Responder Descriptor CallResult State) (state : State) :
    let run := (once []).rounds respond state lists
    run.map Registration.descriptors = lists ∧
    (∀ past round future, run = past ++ round :: future →
      ∃ known remembered, round.strategy = once known ∧ round.next = once remembered ∧
        (∀ metricType, metricType ∈ known ↔
          metricType ∈ acceptedTypes (past.flatMap Registration.asked)) ∧
        (∀ metricType, metricType ∈ remembered ↔
          metricType ∈ acceptedTypes ((past ++ [round]).flatMap Registration.asked)) ∧
        UntilRefused ((once known).wanted round.descriptors) round.asked ∧
        round.result = outcome round.asked ∧
        (round.result = .ok () →
          ∀ descriptor ∈ round.descriptors, descriptor.metricType ∈ remembered)) ∧
    (run.flatMap Registration.asked).Pairwise (fun earlier later =>
      earlier.2 = .ok () → later.1.metricType ≠ earlier.1.metricType) ∧
    (acceptedTypes (run.flatMap Registration.asked)).Nodup := by
  intro run
  obtain ⟨_, distinct⟩ := rounds_once_asked [] lists respond state
  refine ⟨map_descriptors_rounds _ _ _ _, ?_, distinct, acceptedTypes_nodup distinct⟩
  intro past round future split
  obtain ⟨before, current, made⟩ := rounds_split split
  rw [rememberAll_once, List.nil_append] at before
  have result := round.strategy.register_result round.descriptors respond current
  have inOrder := round.strategy.register_asked round.descriptors respond current
  rw [← made, before, rememberAll_once] at result
  rw [← made, before] at inOrder
  refine ⟨_, _, before, congrArg Prod.snd result, fun _ => Iff.rfl, ?_, inOrder,
    congrArg Prod.fst result, ?_⟩
  · intro metricType
    simp only [acceptedTypes, List.flatMap_append, List.flatMap_singleton,
      acceptedQuestions_append, List.map_append]
    rfl
  · intro succeeded descriptor member
    have accepted := (congrArg Prod.fst result).symm.trans succeeded
    rcases known_or_wanted (acceptedTypes (past.flatMap Registration.asked)) member with
      isKnown | isWanted
    · exact List.mem_append_left _ isKnown
    · obtain ⟨other, listed, same⟩ := List.mem_map.mp isWanted
      rw [← same]
      exact List.mem_append_right _
        (List.mem_map_of_mem (inOrder.accepted_of_outcome accepted listed))

theorem registers_each_type_once_refused :
    let cpu : Descriptor := ⟨"cpu", "", "", "", .gauge, .double, []⟩
    let memory : Descriptor := ⟨"memory", "", "", "", .gauge, .int64, []⟩
    let respond : Responder Descriptor CallResult Nat := fun count _ =>
      (if count = 1 then .error (.rpc "refused") else .ok (), count + 1)
    let run := (once []).rounds respond 0 [[cpu, cpu, memory], [memory, cpu]]
    run.flatMap Registration.asked =
        [(cpu, .ok ()), (memory, .error (.rpc "refused")), (memory, .ok ())] ∧
      (acceptedTypes (run.flatMap Registration.asked)).Nodup ∧
      ∃ first second, run = [first, second] ∧ first.result = .error (.rpc "refused") ∧
        second.result = .ok () ∧
        ∃ known remembered, second.strategy = once known ∧ second.next = once remembered ∧
          (∀ metricType, metricType ∈ known ↔ metricType ∈ acceptedTypes first.asked) ∧
          ∀ descriptor ∈ second.descriptors, descriptor.metricType ∈ remembered := by
  intro cpu memory respond run
  obtain ⟨_, each, _, distinct⟩ :=
    registers_each_type_once [[cpu, cpu, memory], [memory, cpu]] respond 0
  refine ⟨rfl, distinct, _, _, rfl, rfl, rfl, ?_⟩
  obtain ⟨known, remembered, before, after, known_iff, _, _, _, complete⟩ :=
    each [_] _ [] rfl
  refine ⟨known, remembered, before, after, ?_, complete rfl⟩
  intro metricType
  rw [known_iff, List.flatMap_singleton]

end Strategy

end CloudMonitoring
