/-!
Runs that take their inputs one after another, each in the state that the one before left. Whatever the
steps do, what each of them carries on holds at every place of a run.
-/

namespace CloudMonitoring

/-- A way to run: what is made of one input, which state that leaves, and how a run goes on. -/
structure Steps (State Input Done : Type) where
  run : State → List Input → List Done
  make : State → Input → Done
  next : State → Input → State
  run_nil : ∀ state, run state [] = []
  run_cons : ∀ state input rest,
    run state (input :: rest) = make state input :: run (next state input) rest

namespace Steps

variable {State Input Done : Type} (steps : Steps State Input Done)

theorem map_run {view : Done → Input} (seen : ∀ state input, view (steps.make state input) = input)
    (state : State) (inputs : List Input) : (steps.run state inputs).map view = inputs := by
  induction inputs generalizing state with
  | nil => rw [run_nil, List.map_nil]
  | cons input rest ih => rw [run_cons, List.map_cons, seen, ih]

theorem reached_of_split {Reached : List Done → State → Prop} {state : State}
    (start : Reached [] state)
    (carried : ∀ past reached input, Reached past reached →
      Reached (past ++ [steps.make reached input]) (steps.next reached input))
    {inputs : List Input} {past future : List Done} {one : Done}
    (split : steps.run state inputs = past ++ one :: future) :
    ∃ reached input, Reached past reached ∧ one = steps.make reached input := by
  induction past generalizing state inputs Reached with
  | nil =>
      cases inputs with
      | nil => simp [run_nil] at split
      | cons input rest =>
          simp only [run_cons, List.nil_append, List.cons.injEq] at split
          exact ⟨state, input, start, split.1.symm⟩
  | cons first past ih =>
      cases inputs with
      | nil => simp [run_nil] at split
      | cons input rest =>
          simp only [run_cons, List.cons_append, List.cons.injEq] at split
          obtain ⟨rfl, later⟩ := split
          -- the run that is left starts where `Reached` already speaks of one step
          have afterOne := carried [] state input start
          exact ih afterOne (fun past => carried (_ :: past)) later

end Steps

end CloudMonitoring
