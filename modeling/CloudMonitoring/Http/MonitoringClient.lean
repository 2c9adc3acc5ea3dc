import CloudMonitoring.Export.Call
import CloudMonitoring.Http.Message
import CloudMonitoring.Text.Pieces

/-!
The monitoring service behind the network. Every call is one request, with credentials in its
headers when the client has them, and after a shutdown there are no more requests.
-/

namespace CloudMonitoring

abbrev TokenResult := Except String String

structure MonitoringClient where
  endpoint : String
  quotaProject : Option String
  isShutdown : Bool
deriving DecidableEq, Repr

namespace MonitoringClient

open Http (Request Response NetworkSession)

variable {State : Type}

def trimmed (endpoint : String) : String := String.ofList (Text.trimEnd '/' endpoint.toList)

def insecure (endpoint : String) : MonitoringClient := ⟨trimmed endpoint, none, false⟩

def authorized (endpoint projectId : String) : MonitoringClient :=
  ⟨trimmed endpoint, some projectId, false⟩

def invalidHeader : String := "failed to parse header value"

def authorization (token projectId : String) : Except ExportError (List (String × String)) :=
  if ¬ Http.isHeaderText token then .error (.auth ("Invalid token format: " ++ invalidHeader))
  else if ¬ Http.isHeaderText projectId then
    .error (.auth ("Invalid project ID: " ++ invalidHeader))
  else
    let charged := if projectId = "" then [] else [("x-goog-user-project", projectId)]
    .ok (("authorization", "Bearer " ++ token) :: charged)

def credentials (client : MonitoringClient) (token : TokenResult) :
    Except ExportError (List (String × String)) :=
  match client.quotaProject, token with
  | none, _ => .ok []
  | some projectId, .ok token => authorization token projectId
  | some _, .error reason => .error (.auth ("Failed to get token: " ++ reason))

def url (client : MonitoringClient) (project method : String) : String :=
  client.endpoint ++ "/v3/" ++ project ++ "/" ++ method

def seriesBody (series : List Series) : Json :=
  .object [("timeSeries", .array (series.map Json.ofSeries))]

def target? (client : MonitoringClient) : Call → Option (String × Json)
  | .createDescriptor project descriptor =>
      some (client.url project "metricDescriptors", .ofDescriptor descriptor)
  | .write .plain project series => some (client.url project "timeSeries", seriesBody series)
  | .write .service project series =>
      some (client.url project "timeSeries:createService", seriesBody series)
  | .shutdown => none

def judge (url : String) : Option Response → CallResult
  | none => .error (.rpc (Http.sendFailure url))
  | some response =>
      if response.isSuccess then .ok ()
      else .error (.rpc (url ++ " returned " ++ Http.statusText response.status ++ ": " ++
        response.body.getD ""))

def post (client : MonitoringClient) (token : TokenResult) (url : String) (body : Json) :
    NetworkSession State CallResult :=
  if client.isShutdown then return .error .shutdown
  else match client.credentials token with
    | .error error => return .error error
    | .ok headers => do
        let reply ← Session.ask
          ⟨.post, url, ("content-type", "application/json") :: headers, body.render⟩
        match reply, judge url reply with
        | some response, .ok () =>
            Session.log .debug "Cloud Monitoring call succeeded"
              [("url", .shown url), ("status", .shown (Http.statusText response.status))]
            return .ok ()
        | _, result => return result

def call (client : MonitoringClient) (token : TokenResult) (call : Call) :
    NetworkSession State (CallResult × MonitoringClient) :=
  match client.target? call with
  | some (url, body) => do
      let result ← client.post token url body
      return (result, client)
  | none => do
      Session.log .debug "Cloud Monitoring client shut down" []
      return (.ok (), { client with isShutdown := true })

def service (network : Responder Request (Option Response) State)
    (provider : State → TokenResult × State) :
    Responder Call CallResult (MonitoringClient × State) := fun (client, state) question =>
  let (token, state) :=
    if client.isShutdown ∨ client.quotaProject = none then (.error "no credentials", state)
    else provider state
  let called := client.call token question network state
  (called.result.1, called.result.2, called.state)

end MonitoringClient

end CloudMonitoring
