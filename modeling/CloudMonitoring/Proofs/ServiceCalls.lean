import CloudMonitoring.Http.MonitoringClient
import CloudMonitoring.Proofs.HeaderText
import CloudMonitoring.Proofs.Steps

/-!
Runs of calls through one client. What a call sends and what it returns follow from the call, its token,
the answer that it gets and whether there was a shutdown before; earlier failures leave no trace. A text
that could not be the value of a header keeps the call from being sent.
-/

namespace CloudMonitoring

open Http (Request Response HeaderText)

inductive Call.Posts : Call → String → String → Json → Prop
  | descriptor (project : String) (descriptor : Descriptor) :
      Posts (.createDescriptor project descriptor) project "metricDescriptors"
        (.ofDescriptor descriptor)
  | series (project : String) (series : List Series) :
      Posts (.write .plain project series) project "timeSeries"
        (.object [("timeSeries", .array (series.map Json.ofSeries))])
  | serviceSeries (project : String) (series : List Series) :
      Posts (.write .service project series) project "timeSeries:createService"
        (.object [("timeSeries", .array (series.map Json.ofSeries))])

theorem Call.shutdown_or_posts (call : Call) :
    call = .shutdown ∨ ∃ project method body, call.Posts project method body := by
  cases call with
  | shutdown => exact .inl rfl
  | createDescriptor project descriptor => exact .inr ⟨_, _, _, .descriptor project descriptor⟩
  | write mode project series =>
      cases mode with
      | plain => exact .inr ⟨_, _, _, .series project series⟩
      | service => exact .inr ⟨_, _, _, .serviceSeries project series⟩

/-- The headers of a request. With credentials they show who is calling, and who is charged for it
unless that is nobody. -/
inductive CallHeaders : Option String → TokenResult → List (String × String) → Prop
  | anonymous (token : TokenResult) :
      CallHeaders none token [("content-type", "application/json")]
  | uncharged (token : String) (legal : HeaderText token) :
      CallHeaders (some "") (.ok token)
        [("content-type", "application/json"), ("authorization", "Bearer " ++ token)]
  | charged (token projectId : String) (legal : HeaderText token)
      (projectLegal : HeaderText projectId) (named : projectId ≠ "") :
      CallHeaders (some projectId) (.ok token)
        [("content-type", "application/json"), ("authorization", "Bearer " ++ token),
          ("x-goog-user-project", projectId)]

theorem CallHeaders.headerText {quotaProject : Option String} {token : TokenResult}
    {headers : List (String × String)} (carried : CallHeaders quotaProject token headers) :
    ∀ header ∈ headers, HeaderText header.2 := by
  have content : HeaderText "application/json" := by decide
  have bearer : HeaderText "Bearer " := by decide
  cases carried with
  | anonymous => simpa using content
  | uncharged token legal => simpa using ⟨content, bearer.append legal⟩
  | charged token projectId legal projectLegal =>
      simpa using ⟨content, bearer.append legal, projectLegal⟩

theorem CallHeaders.legal {projectId token : String} {headers : List (String × String)}
    (carried : CallHeaders (some projectId) (.ok token) headers) :
    HeaderText token ∧ HeaderText projectId := by
  cases carried with
  | uncharged _ legal => exact ⟨legal, by decide⟩
  | charged _ _ legal projectLegal => exact ⟨legal, projectLegal⟩

namespace MonitoringClient

variable {State Other : Type} {client : MonitoringClient} {token : TokenResult}

theorem authorization_eq (token projectId : String) :
    authorization token projectId =
      if HeaderText token then
        if HeaderText projectId then
          .ok (("authorization", "Bearer " ++ token) ::
            if projectId = "" then [] else [("x-goog-user-project", projectId)])
        else .error (.auth ("Invalid project ID: " ++ invalidHeader))
      else .error (.auth ("Invalid token format: " ++ invalidHeader)) := by
  simp only [authorization, Http.isHeaderText_iff, ite_not]

theorem headers_of_credentials {headers : List (String × String)}
    (ready : client.credentials token = .ok headers) :
    CallHeaders client.quotaProject token (("content-type", "application/json") :: headers) := by
  cases quota : client.quotaProject with
  | none =>
      simp only [credentials, quota, Except.ok.injEq] at ready
      rw [← ready]
      exact .anonymous token
  | some projectId =>
      cases token with
      | error reason => simp [credentials, quota] at ready
      | ok token =>
          simp only [credentials, quota, authorization_eq] at ready
          by_cases legal : HeaderText token
          · by_cases projectLegal : HeaderText projectId
            · rw [if_pos legal, if_pos projectLegal, Except.ok.injEq] at ready
              rw [← ready]
              by_cases nobody : projectId = ""
              · subst nobody
                exact .uncharged token legal
              · rw [if_neg nobody]
                exact .charged token projectId legal projectLegal nobody
            · rw [if_pos legal, if_neg projectLegal] at ready
              contradiction
          · rw [if_neg legal] at ready
            contradiction

theorem credentials_of_headers {headers : List (String × String)}
    (carried : CallHeaders client.quotaProject token headers) :
    ∃ rest, headers = ("content-type", "application/json") :: rest ∧
      client.credentials token = .ok rest := by
  have empty : HeaderText "" := by decide
  generalize quota : client.quotaProject = quotaProject at carried
  cases carried with
  | anonymous => exact ⟨_, rfl, by simp [credentials, quota]⟩
  | uncharged token legal =>
      exact ⟨_, rfl, by simp [credentials, quota, authorization_eq, legal, empty]⟩
  | charged token projectId legal projectLegal named =>
      exact ⟨_, rfl, by simp [credentials, quota, authorization_eq, legal, projectLegal, named]⟩

theorem auth_of_credentials {error : ExportError}
    (refused : client.credentials token = .error error) : ∃ reason, error = .auth reason := by
  simp only [credentials, authorization_eq] at refused
  split at refused
  · contradiction
  · split at refused
    · split at refused
      · contradiction
      · exact ⟨_, (Except.error.inj refused).symm⟩
    · exact ⟨_, (Except.error.inj refused).symm⟩
  · exact ⟨_, (Except.error.inj refused).symm⟩

section Post

variable {url : String} {body : Json}

theorem post_closed (closed : client.isShutdown = true)
    (network : Responder Request (Option Response) State) (state : State) :
    client.post token url body network state = ⟨.error .shutdown, state, [], []⟩ := by
  simp [post, closed]

theorem post_refused (running : client.isShutdown = false) {error : ExportError}
    (refused : client.credentials token = .error error)
    (network : Responder Request (Option Response) State) (state : State) :
    client.post token url body network state = ⟨.error error, state, [], []⟩ := by
  simp [post, running, refused]

theorem post_sent (running : client.isShutdown = false) {headers : List (String × String)}
    (ready : client.credentials token = .ok headers) (url : String) (body : Json)
    (network : Responder Request (Option Response) State) (state : State) :
    let request : Request :=
      ⟨.post, url, ("content-type", "application/json") :: headers, body.render⟩
    let posted := client.post token url body network state
    posted.result = judge url (network state request).1 ∧
      posted.asked = [(request, (network state request).1)] := by
  intro request posted
  simp only [posted, post, running, ready, Bool.false_eq_true, if_false, Session.bind_result,
    Session.bind_asked, Session.ask_eq]
  cases (network state request).1 with
  | none => exact ⟨rfl, rfl⟩
  | some response =>
      cases judged : judge url (some response) with
      | ok => exact ⟨rfl, rfl⟩
      | error error => exact ⟨rfl, rfl⟩

end Post

theorem judge_eq_ok_iff (url : String) (reply : Option Response) :
    judge url reply = .ok () ↔
      ∃ response, reply = some response ∧ 200 ≤ response.status ∧ response.status ≤ 299 := by
  cases reply with
  | none => simp [judge]
  | some response =>
      have range : response.isSuccess ↔ 200 ≤ response.status ∧ response.status ≤ 299 := by
        simp only [Response.isSuccess, decide_eq_true_eq]
        omega
      by_cases success : response.isSuccess
      · simp [judge, success, ← range]
      · simp [judge, success, ← range]

theorem judge_cases (url : String) (reply : Option Response) :
    judge url reply = .ok () ∨ ∃ reason, judge url reply = .error (.rpc reason) := by
  cases reply with
  | none => exact .inr ⟨_, rfl⟩
  | some response =>
      simp only [judge]
      split
      · exact .inl rfl
      · exact .inr ⟨_, rfl⟩

section Call

variable {call : Call} {project method : String} {body : Json}

theorem call_shutdown (client : MonitoringClient) (token : TokenResult)
    (network : Responder Request (Option Response) State) (state : State) :
    let transcript := client.call token .shutdown network state
    transcript.result.1 = .ok () ∧ transcript.asked = [] := ⟨rfl, rfl⟩

theorem call_posts (posts : call.Posts project method body) (client : MonitoringClient)
    (token : TokenResult) (network : Responder Request (Option Response) State) (state : State) :
    let transcript := client.call token call network state
    let posted := client.post token (client.url project method) body network state
    transcript.result.1 = posted.result ∧ transcript.asked = posted.asked := by
  cases posts with
  | descriptor => exact ⟨rfl, List.append_nil _⟩
  | series => exact ⟨rfl, List.append_nil _⟩
  | serviceSeries => exact ⟨rfl, List.append_nil _⟩

theorem call_next (client : MonitoringClient) (token : TokenResult) (call : Call)
    (network : Responder Request (Option Response) State) (state : State) :
    (client.call token call network state).result.2 =
      { client with isShutdown := client.isShutdown || call = .shutdown } := by
  cases call with
  | shutdown => simp [MonitoringClient.call, target?]
  | createDescriptor project descriptor => simp [MonitoringClient.call, target?]
  | write mode project series => cases mode <;> simp [MonitoringClient.call, target?]

end Call

end MonitoringClient

structure Made (State : Type) where
  client : MonitoringClient
  call : Call
  token : TokenResult
  transcript : Transcript Request (Option Response) State (CallResult × MonitoringClient)

namespace Made

variable {State : Type}

def result (one : Made State) : CallResult := one.transcript.result.1

def requests (one : Made State) : List (Request × Option Response) := one.transcript.asked

end Made

namespace MonitoringClient

variable {State Other : Type} {client : MonitoringClient}

def opened (endpoint : String) : Option String → MonitoringClient
  | none => insecure endpoint
  | some projectId => authorized endpoint projectId

def made (client : MonitoringClient) (network : Responder Request (Option Response) State) :
    State → List (Call × TokenResult) → List (Made State)
  | _, [] => []
  | state, (call, token) :: rest =>
      let transcript := client.call token call network state
      ⟨client, call, token, transcript⟩ :: transcript.result.2.made network transcript.state rest

def steps (network : Responder Request (Option Response) State) :
    Steps (MonitoringClient × State) (Call × TokenResult) (Made State) where
  run now calls := now.1.made network now.2 calls
  make now asked := ⟨now.1, asked.1, asked.2, now.1.call asked.2 asked.1 network now.2⟩
  next now asked :=
    let transcript := now.1.call asked.2 asked.1 network now.2
    (transcript.result.2, transcript.state)
  run_nil _ := rfl
  run_cons _ _ _ := rfl

theorem map_made (network : Responder Request (Option Response) State) (state : State)
    (calls : List (Call × TokenResult)) :
    (client.made network state calls).map (fun one => (one.call, one.token)) = calls :=
  (steps network).map_run (fun _ _ => rfl) (client, state) calls

theorem made_split {network : Responder Request (Option Response) State} {state : State}
    {calls : List (Call × TokenResult)} {past future : List (Made State)} {one : Made State}
    (split : client.made network state calls = past ++ one :: future) :
    one.client = { client with
        isShutdown := client.isShutdown || .shutdown ∈ past.map Made.call } ∧
      ∃ current, one.transcript = one.client.call one.token one.call network current := by
  let Reached (past : List (Made State)) (now : MonitoringClient × State) : Prop :=
    now.1 = { client with isShutdown := client.isShutdown || .shutdown ∈ past.map Made.call }
  have start : Reached [] (client, state) := by simp [Reached]
  have carried (past : List (Made State)) (now : MonitoringClient × State)
      (asked : Call × TokenResult) (before : Reached past now) :
      Reached (past ++ [(steps network).make now asked]) ((steps network).next now asked) := by
    simp only [Reached, steps] at before ⊢
    rw [call_next, before]
    simp [Bool.or_assoc, eq_comm]
  obtain ⟨⟨reached, current⟩, asked, before, rfl⟩ :=
    (steps network).reached_of_split start carried split
  exact ⟨before, current, rfl⟩

theorem call_agrees (client : MonitoringClient) (token : TokenResult) (call : Call)
    (network : Responder Request (Option Response) State) (state : State)
    (other : Responder Request (Option Response) Other) (otherState : Other) :
    let one := client.call token call network state
    let two := client.call token call other otherState
    one.asked.map Prod.fst = two.asked.map Prod.fst ∧
      (one.asked = two.asked → one.result.1 = two.result.1) := by
  intro one two
  rcases call.shutdown_or_posts with rfl | ⟨project, method, body, posts⟩
  · exact ⟨rfl, fun _ => rfl⟩
  · obtain ⟨oneResult, oneAsked⟩ := call_posts posts client token network state
    obtain ⟨twoResult, twoAsked⟩ := call_posts posts client token other otherState
    simp only [one, two, oneResult, oneAsked, twoResult, twoAsked]
    cases running : client.isShutdown with
    | true => simp [post_closed running]
    | false =>
        cases ready : client.credentials token with
        | error error => simp [post_refused running ready]
        | ok headers =>
            let url := client.url project method
            obtain ⟨judged, asked⟩ := post_sent running ready url body network state
            obtain ⟨judgedToo, askedToo⟩ := post_sent running ready url body other otherState
            rw [judged, asked, judgedToo, askedToo]
            refine ⟨rfl, ?_⟩
            intro same
            simp only [List.cons.injEq, Prod.mk.injEq, true_and, and_true] at same
            rw [same]

theorem made_agrees (network : Responder Request (Option Response) State) (state : State)
    (other : Responder Request (Option Response) Other) (otherState : Other)
    (calls : List (Call × TokenResult)) (position : Nat) {one : Made State} {two : Made Other}
    (isOne : (client.made network state calls)[position]? = some one)
    (isTwo : (client.made other otherState calls)[position]? = some two) :
    one.requests.map Prod.fst = two.requests.map Prod.fst ∧
      (one.requests = two.requests → one.result = two.result) := by
  induction calls generalizing client state otherState position with
  | nil => simp [made] at isOne
  | cons head rest ih =>
      obtain ⟨call, token⟩ := head
      cases position with
      | zero =>
          simp only [made, List.getElem?_cons_zero, Option.some.injEq] at isOne isTwo
          subst isOne isTwo
          exact call_agrees client token call network state other otherState
      | succ position =>
          simp only [made, List.getElem?_cons_succ, call_next] at isOne isTwo
          exact ih _ _ position isOne isTwo

theorem exists_trimmed (endpoint : String) :
    ∃ count, endpoint = trimmed endpoint ++ String.ofList (List.replicate count '/') := by
  obtain ⟨count, whole⟩ := Text.exists_trimEnd '/' endpoint.toList
  refine ⟨count, ?_⟩
  rw [trimmed, ← String.ofList_append, ← whole, String.ofList_toList]

theorem getLast?_trimmed_ne (endpoint : String) :
    (trimmed endpoint).toList.getLast? ≠ some '/' := by
  rw [trimmed, String.toList_ofList]
  exact Text.getLast?_trimEnd_ne '/' endpoint.toList

theorem opened_eq (endpoint : String) (quotaProject : Option String) :
    opened endpoint quotaProject = ⟨trimmed endpoint, quotaProject, false⟩ := by
  cases quotaProject with
  | none => rfl
  | some projectId => rfl

end MonitoringClient

structure Made.Posted {State : Type} (one : Made State) (quotaProject : Option String) (url : String)
    (body : Json) : Prop where
  sent : ∀ headers, CallHeaders quotaProject one.token headers →
    ∃ reply, one.requests = [(⟨.post, url, headers, body.render⟩, reply)] ∧
      (one.result = .ok () ↔
        ∃ response, reply = some response ∧ 200 ≤ response.status ∧ response.status ≤ 299) ∧
      (one.result = .ok () ∨ ∃ reason, one.result = .error (.rpc reason))
  withheld : (∀ headers, ¬ CallHeaders quotaProject one.token headers) →
    one.requests = [] ∧ ∃ reason, one.result = .error (.auth reason)
  illegal : ∀ projectId token, quotaProject = some projectId → one.token = .ok token →
    ¬ HeaderText token ∨ ¬ HeaderText projectId →
    one.requests = [] ∧ ∃ reason, one.result = .error (.auth reason)

namespace MonitoringClient

variable {State Other : Type}

theorem posted_of_running {one : Made State} (running : one.client.isShutdown = false)
    {network : Responder Request (Option Response) State} {current : State}
    (made : one.transcript = one.client.call one.token one.call network current)
    {project method : String} {body : Json} (posts : one.call.Posts project method body) :
    one.Posted one.client.quotaProject (one.client.url project method) body := by
  obtain ⟨result, asked⟩ := call_posts posts one.client one.token network current
  rw [← made] at result asked
  have withheld (none : ∀ headers, ¬ CallHeaders one.client.quotaProject one.token headers) :
      one.requests = [] ∧ ∃ reason, one.result = .error (.auth reason) := by
    cases ready : one.client.credentials one.token with
    | ok headers => exact absurd (headers_of_credentials ready) (none _)
    | error error =>
        obtain ⟨reason, rfl⟩ := auth_of_credentials ready
        rw [post_refused running ready] at result asked
        exact ⟨asked, reason, result⟩
  refine ⟨?_, withheld, ?_⟩
  · intro headers carried
    obtain ⟨rest, rfl, ready⟩ := credentials_of_headers carried
    obtain ⟨judged, sent⟩ := post_sent running ready (one.client.url project method) body network
      current
    rw [judged] at result
    rw [sent] at asked
    refine ⟨_, asked, ?_, ?_⟩
    · rw [Made.result, result]
      exact judge_eq_ok_iff _ _
    · rw [Made.result, result]
      exact judge_cases _ _
  · intro projectId token charged given unlawful
    apply withheld
    intro headers carried
    rw [charged, given] at carried
    obtain ⟨legal, projectLegal⟩ := carried.legal
    rcases unlawful with tokenIllegal | projectIllegal
    · exact tokenIllegal legal
    · exact projectIllegal projectLegal

theorem refused_of_closed {one : Made State} (closed : one.client.isShutdown = true)
    {network : Responder Request (Option Response) State} {current : State}
    (made : one.transcript = one.client.call one.token one.call network current)
    {project method : String} {body : Json} (posts : one.call.Posts project method body) :
    one.requests = [] ∧ one.result = .error .shutdown := by
  obtain ⟨result, asked⟩ := call_posts posts one.client one.token network current
  rw [← made, post_closed closed] at result asked
  exact ⟨asked, result⟩

theorem headerText_of_made {one : Made State}
    {network : Responder Request (Option Response) State} {current : State}
    (made : one.transcript = one.client.call one.token one.call network current) :
    ∀ exchange ∈ one.requests, ∀ header ∈ exchange.1.headers, HeaderText header.2 := by
  rcases one.call.shutdown_or_posts with closes | ⟨project, method, body, posts⟩
  · rw [Made.requests, made, closes, (call_shutdown _ _ _ _).2]
    simp
  · cases running : one.client.isShutdown with
    | true => simp [(refused_of_closed running made posts).1]
    | false =>
        have posted := posted_of_running running made posts
        by_cases carries : ∃ headers, CallHeaders one.client.quotaProject one.token headers
        · obtain ⟨headers, carried⟩ := carries
          obtain ⟨reply, sent, _⟩ := posted.sent headers carried
          rw [sent]
          intro exchange member
          rw [List.mem_singleton.mp member]
          exact carried.headerText
        · simp [(posted.withheld (not_exists.mp carries)).1]

/-- In every run of calls through a client, each call before the first shutdown posts once to its method
under the endpoint without the slashes at its end, and succeeds just when the answer is a success; one
that cannot have headers is not sent. After a shutdown nothing is sent and only a shutdown succeeds. No
header contains a line break. The same calls send the same requests whatever became of earlier ones. -/
theorem calls_until_shutdown (endpoint : String) (quotaProject : Option String)
    (network : Responder Request (Option Response) State) (state : State)
    (calls : List (Call × TokenResult)) :
    let client := opened endpoint quotaProject
    let run := client.made network state calls
    let base := trimmed endpoint
    (∃ count, endpoint = base ++ String.ofList (List.replicate count '/')) ∧
    base.toList.getLast? ≠ some '/' ∧
    run.map (fun one => (one.call, one.token)) = calls ∧
    (∀ past one future, run = past ++ one :: future →
      (one.call = .shutdown → one.requests = [] ∧ one.result = .ok ()) ∧
      (∀ exchange ∈ one.requests, ∀ header ∈ exchange.1.headers,
        '\n' ∉ header.2.toList ∧ '\r' ∉ header.2.toList) ∧
      ∀ project method body, one.call.Posts project method body →
        if .shutdown ∈ past.map Made.call then one.requests = [] ∧ one.result = .error .shutdown
        else one.Posted quotaProject (base ++ "/v3/" ++ project ++ "/" ++ method) body) ∧
    ∀ (Other : Type) (other : Responder Request (Option Response) Other) (otherState : Other)
      (position : Nat) (one : Made State) (two : Made Other), run[position]? = some one →
      (client.made other otherState calls)[position]? = some two →
      one.requests.map Prod.fst = two.requests.map Prod.fst ∧
        (one.requests = two.requests → one.result = two.result) := by
  intro client run base
  refine ⟨exists_trimmed endpoint, getLast?_trimmed_ne endpoint, map_made network state calls, ?_,
    fun Other other otherState position one two =>
      made_agrees network state other otherState calls position⟩
  intro past one future split
  obtain ⟨reached, current, happened⟩ := made_split split
  have sameClient : one.client =
      ⟨base, quotaProject, decide (.shutdown ∈ past.map Made.call)⟩ := by
    rw [reached]
    simp only [client, base, opened_eq, Bool.false_or]
  refine ⟨?_, ?_, ?_⟩
  · intro closes
    rw [closes] at happened
    rw [Made.requests, Made.result, happened]
    exact ⟨rfl, rfl⟩
  · intro exchange member header carried
    exact (headerText_of_made happened exchange member header carried).no_break
  · intro project method body posts
    by_cases closed : .shutdown ∈ past.map Made.call
    · rw [if_pos closed]
      exact refused_of_closed (by simp [sameClient, closed]) happened posts
    · rw [if_neg closed]
      have posted := posted_of_running (by simp [sameClient, closed]) happened posts
      rw [sameClient] at posted
      exact posted

theorem calls_until_shutdown_failing :
    let network : Responder Request (Option Response) (List (Option Response)) := fun script _ =>
      (script.head?.join, script.tail)
    let write (mode : WriteMode) : Call := .write mode "projects/my-project" []
    let calls : List (Call × TokenResult) :=
      [(write .plain, .ok "token"), (write .plain, .ok "to\nken"), (write .service, .ok "token"),
        (.shutdown, .ok "token"), (write .plain, .ok "token")]
    let run := (opened "http://localhost:8080//" (some "my-project")).made network
      [none, some ⟨204, [], none⟩] calls
    let headers := [("content-type", "application/json"), ("authorization", "Bearer token"),
      ("x-goog-user-project", "my-project")]
    let nothing : Json := .object [("timeSeries", .array [])]
    ∃ dropped unlawful accepted closing late, run = [dropped, unlawful, accepted, closing, late] ∧
      (dropped.requests = [(⟨.post, "http://localhost:8080/v3/projects/my-project/timeSeries",
          headers, nothing.render⟩, none)] ∧
        ∃ reason, dropped.result = .error (.rpc reason)) ∧
      (unlawful.requests = [] ∧ ∃ reason, unlawful.result = .error (.auth reason)) ∧
      (accepted.requests =
          [(⟨.post, "http://localhost:8080/v3/projects/my-project/timeSeries:createService", headers,
            nothing.render⟩, some ⟨204, [], none⟩)] ∧
        accepted.result = .ok ()) ∧
      (closing.requests = [] ∧ closing.result = .ok ()) ∧
      late.requests = [] ∧ late.result = .error .shutdown := by
  intro network write calls run headers nothing
  obtain ⟨_, _, _, each, _⟩ := calls_until_shutdown "http://localhost:8080//" (some "my-project")
    network [none, some ⟨204, [], none⟩] calls
  have carried : CallHeaders (some "my-project") (.ok "token") headers :=
    .charged "token" "my-project" (by decide) (by decide) (by decide)
  have replies : run.map (fun one => one.requests.map Prod.snd) =
      [[none], [], [some ⟨204, [], none⟩], [], []] := by decide +kernel
  simp only [run, made, calls, List.map_cons, List.map_nil, List.cons.injEq, and_true] at replies
  have first := (each [] _ _ rfl).2.2 _ _ _ (.series "projects/my-project" [])
  have second := (each [_] _ _ rfl).2.2 _ _ _ (.series "projects/my-project" [])
  have third := (each [_, _] _ _ rfl).2.2 _ _ _ (.serviceSeries "projects/my-project" [])
  have closing := (each [_, _, _] _ _ rfl).1 rfl
  have late := (each [_, _, _, _] _ _ rfl).2.2 _ _ _ (.series "projects/my-project" [])
  rw [if_neg (by simp)] at first
  rw [if_neg (by simp)] at second
  rw [if_neg (by simp)] at third
  rw [if_pos (by simp)] at late
  obtain ⟨reply, dropped, succeeds, outcome⟩ := first.sent headers carried
  obtain ⟨replyToo, accepted, succeedsToo, _⟩ := third.sent headers carried
  have unlawful := second.illegal "my-project" "to\nken" rfl rfl (.inl (by decide))
  have noReply : reply = none := by simpa [dropped] using replies.1
  have success : replyToo = some ⟨204, [], none⟩ := by simpa [accepted] using replies.2.2.1
  subst noReply success
  have failed := outcome.resolve_left fun done => by simpa using succeeds.mp done
  exact ⟨_, _, _, _, _, rfl, ⟨dropped, failed⟩, unlawful,
    ⟨accepted, succeedsToo.mpr ⟨_, rfl, by decide, by decide⟩⟩, closing, late⟩

/-- A client that is shut down does not refuse to be shut down again. -/
theorem shutdown_again_succeeds :
    ¬ ∀ (calls : List (Call × TokenResult)) past one future,
      (insecure "http://localhost:8080").made Http.unreachable () calls = past ++ one :: future →
      .shutdown ∈ past.map Made.call → one.requests = [] ∧ one.result = .error .shutdown := by
  intro refused
  have again := refused [(.shutdown, .ok ""), (.shutdown, .ok "")] [_] _ [] rfl (by simp)
  have succeeded := (call_shutdown { insecure "http://localhost:8080" with isShutdown := true }
    (.ok "") Http.unreachable ()).1
  exact absurd (succeeded.symm.trans again.2) (by simp)

end MonitoringClient

end CloudMonitoring
