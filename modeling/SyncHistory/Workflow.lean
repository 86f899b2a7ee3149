import SyncHistory.Connector
import SyncHistory.Json.Reader

/-!
# Asking about workflows over HTTP

The service that runs workflows answers one request about a connection, and `Workflow.state` is what its
response means: a document with the state of the workflow, or that there is no workflow. Everything else
is an outage.
-/

namespace SyncHistory

/-- A response to a request. -/
structure HttpResponse where
  status : Nat
  body : String
deriving DecidableEq

namespace HttpResponse

/-- The standard phrases of status codes. -/
def phrases : List (Nat × String) :=
  [(100, "Continue"), (101, "Switching Protocols"), (102, "Processing"), (200, "OK"),
    (201, "Created"), (202, "Accepted"), (203, "Non Authoritative Information"),
    (204, "No Content"), (205, "Reset Content"), (206, "Partial Content"), (207, "Multi-Status"),
    (208, "Already Reported"), (226, "IM Used"), (300, "Multiple Choices"),
    (301, "Moved Permanently"), (302, "Found"), (303, "See Other"), (304, "Not Modified"),
    (305, "Use Proxy"), (307, "Temporary Redirect"), (308, "Permanent Redirect"),
    (400, "Bad Request"), (401, "Unauthorized"), (402, "Payment Required"), (403, "Forbidden"),
    (404, "Not Found"), (405, "Method Not Allowed"), (406, "Not Acceptable"),
    (407, "Proxy Authentication Required"), (408, "Request Timeout"), (409, "Conflict"),
    (410, "Gone"), (411, "Length Required"), (412, "Precondition Failed"),
    (413, "Payload Too Large"), (414, "URI Too Long"), (415, "Unsupported Media Type"),
    (416, "Range Not Satisfiable"), (417, "Expectation Failed"), (418, "I'm a teapot"),
    (421, "Misdirected Request"), (422, "Unprocessable Entity"), (423, "Locked"),
    (424, "Failed Dependency"), (426, "Upgrade Required"), (428, "Precondition Required"),
    (429, "Too Many Requests"), (431, "Request Header Fields Too Large"),
    (451, "Unavailable For Legal Reasons"), (500, "Internal Server Error"),
    (501, "Not Implemented"), (502, "Bad Gateway"), (503, "Service Unavailable"),
    (504, "Gateway Timeout"), (505, "HTTP Version Not Supported"),
    (506, "Variant Also Negotiates"), (507, "Insufficient Storage"), (508, "Loop Detected"),
    (510, "Not Extended"), (511, "Network Authentication Required")]

/-- The status code with its phrase. -/
def statusText (r : HttpResponse) : String :=
  Digits.natText r.status ++ " " ++ (phrases.lookup r.status).getD "<unknown status code>"

/-- Has the request succeeded? -/
def isSuccess (r : HttpResponse) : Bool := 200 ≤ r.status && r.status < 300

end HttpResponse

namespace Workflow

/-- The address to ask about the workflow of a connection. -/
def stateUrl (baseUrl : String) (connection : Uuid) : String :=
  Text.trimEndOf '/' baseUrl ++ "/workflows/" ++ connection.text ++ "/state"

/-- What a response says about a workflow. -/
def ofResponse (r : HttpResponse) : Except LookupError (Option WorkflowState) :=
  if r.status = 404 then .ok none
  else if r.isSuccess then
    match (Json.read? r.body).bind WorkflowState.ofJson? with
    | some state => .ok (some state)
    | none => .error (.unavailable "error decoding response body: it is no state of a workflow")
  else .error (.unavailable
    ("Workflow state request failed with status " ++ r.statusText ++ ": " ++ r.body))

/-- What is known about a workflow after a request, which may have failed for some reason. -/
def state : Except String HttpResponse → Except LookupError (Option WorkflowState)
  | .ok response => ofResponse response
  | .error reason => .error (.unavailable
      ("Failed to get workflow state from orchestration service: " ++ reason))

end Workflow

end SyncHistory
