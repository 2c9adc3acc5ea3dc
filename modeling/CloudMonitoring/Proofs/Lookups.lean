import CloudMonitoring.Proofs.MetadataResponse
import CloudMonitoring.Proofs.Steps

/-!
Look-ups through a client. The client asks the network for a path until it has got a value for it, and
from then on gives that value without asking; several look-ups share one path and so one value. What
happens on one path is all that counts for it.
-/

namespace CloudMonitoring

open Http (Request Response)

inductive Lookup
  | projectId
  | zone
  | region
  | regionFromZone
  | machineType
  | instanceId
  | instanceName
  | instanceHostname
  | clusterName
  | clusterLocation
  | plain (path : String)
deriving DecidableEq

namespace Lookup

variable {State : Type}

def session : Lookup → MetadataSession State (Option String)
  | projectId => Metadata.projectId
  | zone => Metadata.zone
  | region => Metadata.region
  | regionFromZone => Metadata.regionFromZone
  | machineType => Metadata.machineType
  | instanceId => Metadata.instanceId
  | instanceName => Metadata.instanceName
  | instanceHostname => Metadata.instanceHostname
  | clusterName => Metadata.clusterName
  | clusterLocation => Metadata.clusterLocation
  | plain path => Session.ask path

def path : Lookup → String
  | projectId => "project/project-id"
  | zone => "instance/zone"
  | region => "instance/region"
  | regionFromZone => "instance/zone"
  | machineType => "instance/machine-type"
  | instanceId => "instance/id"
  | instanceName => "instance/name"
  | instanceHostname => "instance/hostname"
  | clusterName => "instance/attributes/cluster-name"
  | clusterLocation => "instance/attributes/cluster-location"
  | plain path => path

def view : Lookup → Option String → Option String
  | zone, found => found.map lastSegment
  | region, found => found.map lastSegment
  | regionFromZone, found => (found.map lastSegment).bind regionOfZone?
  | machineType, found => found.map lastSegment
  | _, found => found

theorem session_eq (lookup : Lookup) (respond : Responder String (Option String) State)
    (state : State) :
    lookup.session respond state =
      let answer := respond state lookup.path
      ⟨lookup.view answer.1, answer.2, [(lookup.path, answer.1)], []⟩ := by
  cases lookup <;> rfl

end Lookup

def Http.listing {State : Type} (network : Responder Request (Option Response) State) :
    Responder Request (Option Response) (State × List (Request × Option Response)) :=
  fun (state, past) request =>
    let (response, next) := network state request
    (response, next, past ++ [(request, response)])

/-- A network that has a state of its own for each address. -/
def Http.apart {Own : Type} (own : Responder Request (Option Response) Own) :
    Responder Request (Option Response) (String → Own) :=
  fun states request =>
    let answer := own (states request.url) request
    (answer.1, fun url => if url = request.url then answer.2 else states url)

namespace MetadataClient

variable {State : Type}

def through (client : MetadataClient) (network : Responder Request (Option Response) State)
    (state : State) (lookup : Lookup) : Transcript String (Option String)
      (MetadataClient × State × List (Request × Option Response)) (Option String) :=
  lookup.session (source (Http.listing network)) (client, state, [])

end MetadataClient

structure LookedUp (State : Type) where
  lookup : Lookup
  transcript : Transcript String (Option String)
    (MetadataClient × State × List (Request × Option Response)) (Option String)

namespace LookedUp

variable {State : Type}

def result (one : LookedUp State) : Option String := one.transcript.result

def answers (one : LookedUp State) : List (String × Option String) := one.transcript.asked

def requests (one : LookedUp State) : List (Request × Option Response) := one.transcript.state.2.2

def seen (one : LookedUp State) : Option String × List (Request × Option Response) :=
  (one.result, one.requests)

end LookedUp

namespace MetadataClient

variable {State : Type}

def lookedUp (client : MetadataClient) (network : Responder Request (Option Response) State) :
    State → List Lookup → List (LookedUp State)
  | _, [] => []
  | state, lookup :: rest =>
      let transcript := client.through network state lookup
      ⟨lookup, transcript⟩ :: transcript.state.1.lookedUp network transcript.state.2.1 rest

def valueOf (path : String) (response : Option Response) : Option String :=
  response.bind fun response => (read path response).1

theorem valueOf_eq_some_iff (path : String) (response : Option Response) (value : String) :
    valueOf path response = some value ↔ ∃ found, response = some found ∧ found.Holds value := by
  simp [valueOf, Option.bind_eq_some_iff, read_fst_eq_some_iff]

def learnSome (client : MetadataClient) (path : String) : Option String → MetadataClient
  | some value => client.learn path value
  | none => client

@[simp] theorem baseUrl_learnSome (client : MetadataClient) (path : String) (found : Option String) :
    (client.learnSome path found).baseUrl = client.baseUrl := by
  cases found with
  | none => rfl
  | some value => rfl

theorem get?_learnSome (client : MetadataClient) (path other : String) (found : Option String) :
    Pairs.get? other (client.learnSome path found).known =
      if other = path then found.or (Pairs.get? other client.known)
      else Pairs.get? other client.known := by
  cases found with
  | none => simp [learnSome]
  | some value => simp [learnSome, learn, Pairs.get?_set]

variable {client : MetadataClient}

theorem fetch_eq (client : MetadataClient) (path : String)
    (network : Responder Request (Option Response) State) (state : State) :
    let answer := network state (client.request path)
    let transcript := client.fetch path network state
    transcript.result = valueOf path answer.1 ∧ transcript.state = answer.2 := by
  simp only [fetch, Session.bind_result, Session.bind_state, Session.ask_eq]
  cases (network state (client.request path)).1 with
  | none => exact ⟨rfl, rfl⟩
  | some response => exact ⟨rfl, rfl⟩

theorem source_known {path value : String} (known : Pairs.get? path client.known = some value)
    (network : Responder Request (Option Response) State) (state : State) :
    source network (client, state) path = (some value, client, state) := by
  simp [source, MetadataClient.lookup, known]

theorem source_unknown {path : String} (unknown : Pairs.get? path client.known = none)
    (network : Responder Request (Option Response) State) (state : State) :
    source network (client, state) path =
      let answer := network state (client.request path)
      let found := valueOf path answer.1
      (found, client.learnSome path found, answer.2) := by
  obtain ⟨result, next⟩ := client.fetch_eq path network state
  simp only [source, MetadataClient.lookup, unknown, Session.bind_result, Session.bind_state, result,
    next]
  cases valueOf path (network state (client.request path)).1 with
  | none => rfl
  | some value => rfl

theorem through_known {lookup : Lookup} {value : String}
    (known : Pairs.get? lookup.path client.known = some value)
    (network : Responder Request (Option Response) State) (state : State) :
    client.through network state lookup =
      ⟨lookup.view (some value), (client, state, []), [(lookup.path, some value)], []⟩ := by
  rw [through, Lookup.session_eq, source_known known]

theorem through_unknown {lookup : Lookup} (unknown : Pairs.get? lookup.path client.known = none)
    (network : Responder Request (Option Response) State) (state : State) :
    client.through network state lookup =
      let request := client.request lookup.path
      let answer := network state request
      let found := valueOf lookup.path answer.1
      ⟨lookup.view found, (client.learnSome lookup.path found, answer.2, [(request, answer.1)]),
        [(lookup.path, found)], []⟩ := by
  rw [through, Lookup.session_eq, source_unknown unknown]
  rfl

/-- What a client has become after look-ups: it knows what it knew and what was obtained since, all of
it from responses. -/
structure After (client later : MetadataClient) (past : List (LookedUp State)) : Prop where
  baseUrl : later.baseUrl = client.baseUrl
  known_iff : ∀ path value, Pairs.get? path later.known = some value ↔
    Pairs.get? path client.known = some value ∨
      (path, some value) ∈ past.flatMap LookedUp.answers
  held : ∀ path value, Pairs.get? path later.known = some value →
    Pairs.get? path client.known = some value ∨
      ∃ response, (client.request path, some response) ∈ past.flatMap LookedUp.requests ∧
        response.Holds value

theorem After.single (client : MetadataClient) (network : Responder Request (Option Response) State)
    (state : State) (lookup : Lookup) :
    let transcript := client.through network state lookup
    client.After transcript.state.1 [⟨lookup, transcript⟩] := by
  intro transcript
  cases known : Pairs.get? lookup.path client.known with
  | some value =>
      simp only [transcript, through_known known]
      refine ⟨rfl, ?_, fun _ _ found => .inl found⟩
      intro path other
      simp only [LookedUp.answers, List.flatMap_singleton, List.mem_singleton, Prod.mk.injEq,
        Option.some.injEq, iff_self_or]
      rintro ⟨rfl, rfl⟩
      exact known
  | none =>
      simp only [transcript, through_unknown known]
      refine ⟨baseUrl_learnSome _ _ _, ?_, ?_⟩
      · intro path value
        rw [get?_learnSome]
        by_cases same : path = lookup.path
        · subst same
          simp [LookedUp.answers, known, eq_comm]
        · simp [LookedUp.answers, same]
      · intro path value
        rw [get?_learnSome]
        by_cases same : path = lookup.path
        · subst same
          simp only [known, if_true, Option.or_none, valueOf_eq_some_iff]
          rintro ⟨response, answered, holds⟩
          exact .inr ⟨response, by simp [LookedUp.requests, answered], holds⟩
        · rw [if_neg same]
          exact .inl

theorem After.append {first second third : MetadataClient} {past more : List (LookedUp State)}
    (one : first.After second past) (two : second.After third more) :
    first.After third (past ++ more) := by
  refine ⟨two.baseUrl.trans one.baseUrl, ?_, ?_⟩
  · intro path value
    rw [two.known_iff, one.known_iff, List.flatMap_append, List.mem_append, or_assoc]
  · intro path value found
    simp only [List.flatMap_append, List.mem_append]
    have sameRequest : second.request path = first.request path := by
      simp [request, one.baseUrl]
    rcases two.held path value found with earlier | ⟨response, asked, holds⟩
    · rcases one.held path value earlier with before | ⟨response, asked, holds⟩
      · exact .inl before
      · exact .inr ⟨response, .inl asked, holds⟩
    · exact .inr ⟨response, .inr (sameRequest ▸ asked), holds⟩

def steps (network : Responder Request (Option Response) State) :
    Steps (MetadataClient × State) Lookup (LookedUp State) where
  run now lookups := now.1.lookedUp network now.2 lookups
  make now lookup := ⟨lookup, now.1.through network now.2 lookup⟩
  next now lookup :=
    let transcript := now.1.through network now.2 lookup
    (transcript.state.1, transcript.state.2.1)
  run_nil _ := rfl
  run_cons _ _ _ := rfl

theorem lookedUp_split {network : Responder Request (Option Response) State} {state : State}
    {lookups : List Lookup} {past future : List (LookedUp State)} {one : LookedUp State}
    (split : client.lookedUp network state lookups = past ++ one :: future) :
    ∃ later current, client.After later past ∧
      one.transcript = later.through network current one.lookup := by
  let Reached (past : List (LookedUp State)) (now : MetadataClient × State) : Prop :=
    client.After now.1 past
  have start : Reached [] (client, state) := ⟨rfl, by simp, fun _ _ => .inl⟩
  obtain ⟨⟨later, current⟩, lookup, after, rfl⟩ := (steps network).reached_of_split start
    (fun past now lookup before => before.append (After.single now.1 network now.2 lookup)) split
  exact ⟨later, current, after, rfl⟩

theorem map_lookup_lookedUp (client : MetadataClient)
    (network : Responder Request (Option Response) State) (state : State) (lookups : List Lookup) :
    (client.lookedUp network state lookups).map LookedUp.lookup = lookups :=
  (steps network).map_run (fun _ _ => rfl) (client, state) lookups

theorem lookedUp_filter {Own : Type} {own : Responder Request (Option Response) Own} {path : String}
    {one other : MetadataClient} {states statesToo : String → Own}
    (sameBase : other.baseUrl = one.baseUrl)
    (sameKnown : Pairs.get? path other.known = Pairs.get? path one.known)
    (sameState : statesToo (one.baseUrl ++ path) = states (one.baseUrl ++ path))
    (lookups : List Lookup) :
    ((one.lookedUp (Http.apart own) states lookups).filter (·.lookup.path = path)).map
        LookedUp.seen =
      (other.lookedUp (Http.apart own) statesToo (lookups.filter (·.path = path))).map
        LookedUp.seen := by
  induction lookups generalizing one other states statesToo with
  | nil => rfl
  | cons lookup rest ih =>
      -- both runs do a look-up of the path; one of another path is done by the first run alone
      by_cases asked : lookup.path = path
      · subst asked
        rw [List.filter_cons_of_pos (by simp), lookedUp, lookedUp, List.filter_cons_of_pos (by simp),
          List.map_cons, List.map_cons]
        have sameRequest : other.request lookup.path = one.request lookup.path := by
          simp [request, sameBase]
        cases known : Pairs.get? lookup.path one.known with
        | some value =>
            rw [through_known known, through_known (sameKnown.trans known)]
            exact congrArg _ (ih sameBase sameKnown sameState)
        | none =>
            rw [through_unknown known, through_unknown (sameKnown.trans known), sameRequest]
            have sameAnswer : own (statesToo (one.baseUrl ++ lookup.path)) (one.request lookup.path) =
                own (states (one.baseUrl ++ lookup.path)) (one.request lookup.path) := by rw [sameState]
            have sameUrl : (one.request lookup.path).url = one.baseUrl ++ lookup.path := rfl
            simp only [Http.apart, sameUrl, sameAnswer]
            refine congrArg _ (ih ?_ ?_ ?_)
            · simpa using sameBase
            · rw [get?_learnSome, get?_learnSome, sameKnown]
            · simp
      · rw [List.filter_cons_of_neg (by simpa using asked), lookedUp,
          List.filter_cons_of_neg (by simpa using asked)]
        cases known : Pairs.get? lookup.path one.known with
        | some value =>
            rw [through_known known]
            exact ih sameBase sameKnown sameState
        | none =>
            rw [through_unknown known]
            apply ih
            · simpa using sameBase
            · rw [get?_learnSome, if_neg (Ne.symm asked)]
              exact sameKnown
            · rw [baseUrl_learnSome, sameState]
              have otherUrl : one.baseUrl ++ path ≠ one.baseUrl ++ lookup.path := by
                simpa using Ne.symm asked
              simp [Http.apart, request, otherUrl]

/-- In every run of look-ups through a client, one asks for its path with one request if no value has
been obtained for the path, and else with none and gives that value. A value is the first line of a
response to such a request, and where the network keeps addresses apart, look-ups of other paths change
nothing. -/
theorem lookups_remember (baseUrl : String) (network : Responder Request (Option Response) State)
    (state : State) (lookups : List Lookup) :
    let run := (ofUrl baseUrl).lookedUp network state lookups
    run.map LookedUp.lookup = lookups ∧
    (∀ past one future, run = past ++ one :: future →
      let path := one.lookup.path
      let request : Request := ⟨.get, baseUrl ++ path, [("metadata-flavor", "Google")], ""⟩
      ∃ found, one.answers = [(path, found)] ∧ one.result = one.lookup.view found ∧
        (∀ value, (path, some value) ∈ past.flatMap LookedUp.answers →
          one.requests = [] ∧ found = some value) ∧
        ((∀ value, (path, some value) ∉ past.flatMap LookedUp.answers) →
          ∃ response, one.requests = [(request, response)] ∧
            ∀ value, found = some value ↔
              ∃ answer, response = some answer ∧ answer.Holds value) ∧
        ∀ value, found = some value → '\n' ∉ value.toList ∧ ∃ response : Response,
          response.Holds value ∧
            (request, some response) ∈ (past ++ [one]).flatMap LookedUp.requests) ∧
    ∀ (Own : Type) (own : Responder Request (Option Response) Own) (states : String → Own) path,
      (((ofUrl baseUrl).lookedUp (Http.apart own) states lookups).filter
          (·.lookup.path = path)).map LookedUp.seen =
        ((ofUrl baseUrl).lookedUp (Http.apart own) states (lookups.filter (·.path = path))).map
          LookedUp.seen := by
  intro run
  refine ⟨map_lookup_lookedUp _ _ _ _, ?_, fun Own own states path =>
    lookedUp_filter rfl rfl rfl lookups⟩
  intro past one future split path request
  obtain ⟨later, current, after, made⟩ := lookedUp_split split
  obtain ⟨lookup, transcript⟩ := one
  simp only at made
  subst made
  have sameRequest : later.request path = request := by
    rw [MetadataClient.request, after.baseUrl]
    rfl
  have known_iff : ∀ value, Pairs.get? path later.known = some value ↔
      (path, some value) ∈ past.flatMap LookedUp.answers := by
    intro value
    rw [after.known_iff]
    simp [ofUrl]
  -- what is known by then decides between the two kinds of look-up, and `known_iff` dates it
  cases known : Pairs.get? path later.known with
  | some value =>
      rw [through_known known]
      refine ⟨some value, rfl, rfl, ?_, ?_, ?_⟩
      · intro other obtained
        exact ⟨rfl, known.symm.trans ((known_iff other).mpr obtained)⟩
      · intro nothing
        exact absurd ((known_iff value).mp known) (nothing value)
      · rintro _ ⟨rfl⟩
        rcases after.held path value known with initially | ⟨response, asked, holds⟩
        · simp [ofUrl] at initially
        · rw [List.flatMap_append]
          exact ⟨holds.no_feed, response, holds, List.mem_append_left _ asked⟩
  | none =>
      rw [through_unknown known, sameRequest]
      refine ⟨_, rfl, rfl, ?_, ?_, ?_⟩
      · intro other obtained
        simp [(known_iff other).mpr obtained] at known
      · intro _
        exact ⟨_, rfl, valueOf_eq_some_iff path _⟩
      · intro value found
        obtain ⟨response, answered, holds⟩ := (valueOf_eq_some_iff path _ value).mp found
        exact ⟨holds.no_feed, response, holds, by simp [LookedUp.requests, answered]⟩

theorem lookups_remember_zone :
    let request : Request :=
      ⟨.get, standardUrl ++ "instance/zone", [("metadata-flavor", "Google")], ""⟩
    let answer (body : String) : Option Response :=
      some ⟨200, [("metadata-flavor", "Google".toUTF8.toList)], some body⟩
    let script : List (Option Response) :=
      [none, answer "projects/1/zones/us-central1-a\r\nrest", answer "projects/1/zones/us-east1-b"]
    let network : Responder Request (Option Response) (List (Option Response)) := fun script _ =>
      (script.head?.join, script.tail)
    let run := (ofUrl standardUrl).lookedUp network script [.zone, .zone, .regionFromZone]
    ∃ dropped answered remembered, run = [dropped, answered, remembered] ∧
      (∃ response, dropped.requests = [(request, response)]) ∧ dropped.result = none ∧
      (∃ response, answered.requests = [(request, response)]) ∧
      answered.result = some "us-central1-a" ∧
      remembered.requests = [] ∧ remembered.result = some "us-central1" := by
  intro request answer script network run
  obtain ⟨_, each, _⟩ := lookups_remember standardUrl network script [.zone, .zone, .regionFromZone]
  have results : run.map LookedUp.result = [none, some "us-central1-a", some "us-central1"] := by
    decide +kernel
  have answers : run.map LookedUp.answers =
      [[("instance/zone", none)], [("instance/zone", some "projects/1/zones/us-central1-a")],
        [("instance/zone", some "projects/1/zones/us-central1-a")]] := by
    decide +kernel
  simp only [run, lookedUp, List.map_cons, List.map_nil, List.cons.injEq, and_true]
    at results answers
  obtain ⟨_, _, _, _, asks, _⟩ := each [] _ _ rfl
  obtain ⟨_, _, _, _, asksAgain, _⟩ := each [_] _ _ rfl
  obtain ⟨_, _, _, keeps, _, _⟩ := each [_, _] _ _ rfl
  obtain ⟨response, asked, _⟩ := asks (by simp)
  obtain ⟨responseAgain, askedAgain, _⟩ := asksAgain (by simp [answers.1])
  obtain ⟨quiet, _⟩ := keeps "projects/1/zones/us-central1-a"
    (by simp [answers.1, answers.2.1, Lookup.path])
  exact ⟨_, _, _, rfl, ⟨response, asked⟩, results.1, ⟨responseAgain, askedAgain⟩, results.2.1,
    quiet, results.2.2⟩

end MetadataClient

end CloudMonitoring
