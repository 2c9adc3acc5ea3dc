import CloudMonitoring.Http.Message
import CloudMonitoring.Pairs
import CloudMonitoring.Platform.Metadata

/-!
A metadata server behind the network. The first value found for a path is kept for as long as the
client lives, an empty one included; a look-up that found nothing is tried again the next time.
-/

namespace CloudMonitoring

structure MetadataClient where
  baseUrl : String
  known : List (String × String)
deriving DecidableEq

namespace MetadataClient

open Http (Request Response NetworkSession)

variable {State : Type}

def standardUrl : String := "http://metadata.google.internal/computeMetadata/v1/"

def flavorHeader : String := "metadata-flavor"

def flavor : String := "Google"

def ofUrl (baseUrl : String) : MetadataClient := ⟨baseUrl, []⟩

def request (client : MetadataClient) (path : String) : Request :=
  ⟨.get, client.baseUrl ++ path, [(flavorHeader, flavor)], ""⟩

def read (path : String) (response : Response) : Option String × List Log.Event :=
  if response.status ≠ 200 then
    (none, [⟨.debug, "metadata lookup rejected",
      [("path", .text path), ("status", .shown (Http.statusText response.status))]⟩])
  else if response.header? flavorHeader ≠ some flavor.toUTF8.toList then
    (none, [⟨.debug, "metadata response missing flavor header", [("path", .text path)]⟩])
  else (response.body.map fun body => String.ofList (Text.firstLine body.toList), [])

def fetch (client : MetadataClient) (path : String) : NetworkSession State (Option String) := do
  let request := client.request path
  match ← Session.ask request with
  | none =>
      Session.log .debug "metadata server unreachable"
        [("path", .text path), ("error", .shown (Http.sendFailure request.url))]
      return none
  | some response =>
      let (value, events) := read path response
      Session.logAll events
      return value

def learn (client : MetadataClient) (path value : String) : MetadataClient :=
  { client with known := Pairs.set path value client.known }

def lookup (client : MetadataClient) (path : String) :
    NetworkSession State (Option String × MetadataClient) :=
  match Pairs.get? path client.known with
  | some value => return (some value, client)
  | none => do
      match ← client.fetch path with
      | some value => return (some value, client.learn path value)
      | none => return (none, client)

def source (network : Responder Request (Option Response) State) :
    Responder String (Option String) (MetadataClient × State) := fun (client, state) path =>
  let looked := client.lookup path network state
  (looked.result.1, looked.result.2, looked.state)

end MetadataClient

end CloudMonitoring
