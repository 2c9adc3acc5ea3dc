import CloudMonitoring.Log.Event

/-!
Work that talks to a collaborator. The collaborator answers questions and may change its own state;
a session is the work seen from outside: its result, the questions asked with their answers, in
order, and the events logged. Nothing is assumed of the answers.
-/

namespace CloudMonitoring

structure Transcript (Question Answer State Result : Type) where
  result : Result
  state : State
  asked : List (Question × Answer)
  logs : List Log.Event

abbrev Responder (Question Answer State : Type) := State → Question → Answer × State

/-- Work that needs a collaborator and its state to be done. -/
def Session (Question Answer State Result : Type) :=
  Responder Question Answer State → State → Transcript Question Answer State Result

namespace Session

variable {Question Answer State First Second : Type}

def done (result : First) : Session Question Answer State First :=
  fun _ state => ⟨result, state, [], []⟩

def andThen (work : Session Question Answer State First)
    (next : First → Session Question Answer State Second) :
    Session Question Answer State Second := fun respond state =>
  let before := work respond state
  let after := next before.result respond before.state
  { result := after.result
    state := after.state
    asked := before.asked ++ after.asked
    logs := before.logs ++ after.logs }

instance : Monad (Session Question Answer State) where
  pure := done
  bind := andThen

def ask (question : Question) : Session Question Answer State Answer := fun respond state =>
  let (answer, next) := respond state question
  ⟨answer, next, [(question, answer)], []⟩

def log (level : Log.Level) (message : String) (fields : List (String × Log.Value)) :
    Session Question Answer State Unit :=
  fun _ state => ⟨(), state, [], [⟨level, message, fields⟩]⟩

def logAll (events : List Log.Event) : Session Question Answer State Unit :=
  fun _ state => ⟨(), state, [], events⟩

def rephrase {Other : Type} (words : Question → Other)
    (work : Session Question Answer State First) : Session Other Answer State First :=
  fun respond state =>
    let done := work (fun current question => respond current (words question)) state
    { done with asked := done.asked.map fun exchange => (words exchange.1, exchange.2) }

@[simp] theorem pure_eq (result : First) (respond : Responder Question Answer State)
    (state : State) :
    (pure result : Session Question Answer State First) respond state =
      ⟨result, state, [], []⟩ := rfl

@[simp] theorem bind_result (work : Session Question Answer State First)
    (next : First → Session Question Answer State Second)
    (respond : Responder Question Answer State) (state : State) :
    ((work >>= next) respond state).result =
      (next (work respond state).result respond (work respond state).state).result := rfl

@[simp] theorem bind_state (work : Session Question Answer State First)
    (next : First → Session Question Answer State Second)
    (respond : Responder Question Answer State) (state : State) :
    ((work >>= next) respond state).state =
      (next (work respond state).result respond (work respond state).state).state := rfl

@[simp] theorem bind_asked (work : Session Question Answer State First)
    (next : First → Session Question Answer State Second)
    (respond : Responder Question Answer State) (state : State) :
    ((work >>= next) respond state).asked = (work respond state).asked ++
      (next (work respond state).result respond (work respond state).state).asked := rfl

@[simp] theorem bind_logs (work : Session Question Answer State First)
    (next : First → Session Question Answer State Second)
    (respond : Responder Question Answer State) (state : State) :
    ((work >>= next) respond state).logs = (work respond state).logs ++
      (next (work respond state).result respond (work respond state).state).logs := rfl

@[simp] theorem ask_eq (question : Question) (respond : Responder Question Answer State)
    (state : State) :
    (ask question : Session Question Answer State Answer) respond state =
      ⟨(respond state question).1, (respond state question).2,
        [(question, (respond state question).1)], []⟩ := rfl

@[simp] theorem log_eq (level : Log.Level) (message : String) (fields : List (String × Log.Value))
    (respond : Responder Question Answer State) (state : State) :
    log level message fields respond state =
      ⟨(), state, [], [⟨level, message, fields⟩]⟩ := rfl

end Session

end CloudMonitoring
