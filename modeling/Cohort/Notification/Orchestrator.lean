import Cohort.Uuid

/-!
# Triggering workflows

An orchestrator runs workflows. One that is reached over HTTP (`Orchestrator.http`) is sent one request a workflow; the
address is made from a base address and the workflow. An answer in the two hundreds is success, any other is a refusal
with its status line and body, and no answer at all is an error of its own.
-/

namespace Cohort

/-- Why a workflow was not triggered. -/
inductive OrchestrationError where
  /-- The orchestrator refused, with its status and words. -/
  | rejected (workflow : Uuid) (words : String)
  /-- The request to an address got no answer. -/
  | unanswered (url : String)

/-- The wording of an error. -/
def OrchestrationError.message : OrchestrationError → String
  | .rejected workflow words => "workflow " ++ workflow.text ++ " rejected trigger: " ++ words
  | .unanswered url => "internal: POST " ++ url

/-- What triggers workflows. -/
abbrev Orchestrator (σ : Type) := Uuid → StateM σ (Except OrchestrationError Unit)

/-- An answer to a request. -/
structure Response where
  /-- The status code. -/
  status : Nat
  /-- The body. -/
  body : String

namespace Response

/-- The phrases of the status codes. -/
def phrases : List (Nat × String) :=
  [(100, "Continue"), (101, "Switching Protocols"), (102, "Processing"), (103, "Early Hints"),
    (200, "OK"), (201, "Created"), (202, "Accepted"), (203, "Non Authoritative Information"), (204, "No Content"),
    (205, "Reset Content"), (206, "Partial Content"), (207, "Multi-Status"), (208, "Already Reported"),
    (226, "IM Used"),
    (300, "Multiple Choices"), (301, "Moved Permanently"), (302, "Found"), (303, "See Other"), (304, "Not Modified"),
    (305, "Use Proxy"), (307, "Temporary Redirect"), (308, "Permanent Redirect"),
    (400, "Bad Request"), (401, "Unauthorized"), (402, "Payment Required"), (403, "Forbidden"), (404, "Not Found"),
    (405, "Method Not Allowed"), (406, "Not Acceptable"), (407, "Proxy Authentication Required"),
    (408, "Request Timeout"), (409, "Conflict"), (410, "Gone"), (411, "Length Required"),
    (412, "Precondition Failed"), (413, "Payload Too Large"), (414, "URI Too Long"), (415, "Unsupported Media Type"),
    (416, "Range Not Satisfiable"), (417, "Expectation Failed"), (418, "I'm a teapot"), (421, "Misdirected Request"),
    (422, "Unprocessable Entity"), (423, "Locked"), (424, "Failed Dependency"), (425, "Too Early"),
    (426, "Upgrade Required"), (428, "Precondition Required"), (429, "Too Many Requests"),
    (431, "Request Header Fields Too Large"), (451, "Unavailable For Legal Reasons"),
    (500, "Internal Server Error"), (501, "Not Implemented"), (502, "Bad Gateway"), (503, "Service Unavailable"),
    (504, "Gateway Timeout"), (505, "HTTP Version Not Supported"), (506, "Variant Also Negotiates"),
    (507, "Insufficient Storage"), (508, "Loop Detected"), (510, "Not Extended"),
    (511, "Network Authentication Required")]

/-- The status code with its phrase. -/
def statusLine (r : Response) : String :=
  Numeral.natText r.status ++ " " ++ (phrases.lookup r.status).getD "<unknown status code>"

/-- An answer in the two hundreds. -/
def isSuccess (r : Response) : Bool := 200 ≤ r.status && r.status < 300

end Response

namespace Orchestrator

/-- The address at which a workflow is triggered. -/
def triggerUrl (base : String) (workflow : Uuid) : String :=
  String.ofList (base.toList.reverse.dropWhile fun c => c == '/').reverse ++ "/api/v1/workflows/" ++ workflow.text ++
    "/trigger"

/-- What the answer to a request means for a workflow. -/
def outcome (workflow : Uuid) (url : String) : Option Response → Except OrchestrationError Unit
  | none => .error (.unanswered url)
  | some r => if r.isSuccess then .ok () else .error (.rejected workflow (r.statusLine ++ ": " ++ r.body))

/-- The orchestrator at a base address, given how a request to an address is answered, if it is. -/
def http {σ : Type} (base : String) (post : String → StateM σ (Option Response)) : Orchestrator σ := fun workflow => do
  let url := triggerUrl base workflow
  return outcome workflow url (← post url)

end Orchestrator
end Cohort
