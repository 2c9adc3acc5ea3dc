import CloudMonitoring.Http.Url
import CloudMonitoring.Session

/-!
Requests and responses as the clients see them. The network is a collaborator that answers a request
with a response or not at all.
-/

namespace CloudMonitoring

namespace Http

inductive Method
  | get
  | post
deriving DecidableEq, Repr

structure Request where
  method : Method
  url : String
  headers : List (String × String)
  body : String
deriving DecidableEq, Repr

/-- Header names are in lower case and their values are bytes. The body is missing when it broke off
before its end. -/
structure Response where
  status : Nat
  headers : List (String × List UInt8)
  body : Option String
deriving DecidableEq, Repr

def Response.header? (response : Response) (name : String) : Option (List UInt8) :=
  (response.headers.find? (·.1 = name)).map (·.2)

def Response.isSuccess (response : Response) : Bool :=
  200 ≤ response.status ∧ response.status < 300

abbrev NetworkSession (State Result : Type) := Session Request (Option Response) State Result

def unreachable : Responder Request (Option Response) Unit := fun _ _ => (none, ())

def sendFailure (url : String) : String :=
  match Url.ofText? url with
  | none => "builder error"
  | some address =>
      (if address.host.isRequestable then "error sending request" else "builder error") ++
        " for url (" ++ address.toText ++ ")"

def isHeaderText (value : String) : Bool :=
  value.toList.all fun c => c = '\t' ∨ (32 ≤ c.toNat ∧ c.toNat ≠ 127)

def reasons : List (Nat × String) :=
  [(100, "Continue"),
    (101, "Switching Protocols"),
    (102, "Processing"),
    (103, "Early Hints"),
    (200, "OK"),
    (201, "Created"),
    (202, "Accepted"),
    (203, "Non Authoritative Information"),
    (204, "No Content"),
    (205, "Reset Content"),
    (206, "Partial Content"),
    (207, "Multi-Status"),
    (208, "Already Reported"),
    (226, "IM Used"),
    (300, "Multiple Choices"),
    (301, "Moved Permanently"),
    (302, "Found"),
    (303, "See Other"),
    (304, "Not Modified"),
    (305, "Use Proxy"),
    (307, "Temporary Redirect"),
    (308, "Permanent Redirect"),
    (400, "Bad Request"),
    (401, "Unauthorized"),
    (402, "Payment Required"),
    (403, "Forbidden"),
    (404, "Not Found"),
    (405, "Method Not Allowed"),
    (406, "Not Acceptable"),
    (407, "Proxy Authentication Required"),
    (408, "Request Timeout"),
    (409, "Conflict"),
    (410, "Gone"),
    (411, "Length Required"),
    (412, "Precondition Failed"),
    (413, "Payload Too Large"),
    (414, "URI Too Long"),
    (415, "Unsupported Media Type"),
    (416, "Range Not Satisfiable"),
    (417, "Expectation Failed"),
    (418, "I'm a teapot"),
    (421, "Misdirected Request"),
    (422, "Unprocessable Entity"),
    (423, "Locked"),
    (424, "Failed Dependency"),
    (425, "Too Early"),
    (426, "Upgrade Required"),
    (428, "Precondition Required"),
    (429, "Too Many Requests"),
    (431, "Request Header Fields Too Large"),
    (451, "Unavailable For Legal Reasons"),
    (500, "Internal Server Error"),
    (501, "Not Implemented"),
    (502, "Bad Gateway"),
    (503, "Service Unavailable"),
    (504, "Gateway Timeout"),
    (505, "HTTP Version Not Supported"),
    (506, "Variant Also Negotiates"),
    (507, "Insufficient Storage"),
    (508, "Loop Detected"),
    (510, "Not Extended"),
    (511, "Network Authentication Required")]

def statusText (status : Nat) : String :=
  let reason := match reasons.find? (·.1 = status) with
    | some (_, reason) => reason
    | none => "<unknown status code>"
  toString status ++ " " ++ reason

end Http

end CloudMonitoring
