import LogOperator.Document
import LogOperator.Json.Reader
import LogOperator.Text.Quoted

/-!
# LogOperator.Api.Response

Responses of the API of a cluster.  A response with a status from 400 to 599 refuses the request;
its body says why, and where the body cannot be read the status line does.
-/

namespace LogOperator.Api

/-- A response: the status and the text of the body. -/
structure Response where
  status : Nat
  body : String
deriving Inhabited

/-! ## Status lines -/

/-- The registered statuses of a refusal and their phrases. -/
def phrases : List (Nat × String) :=
  [(400, "Bad Request"), (401, "Unauthorized"), (402, "Payment Required"), (403, "Forbidden"),
   (404, "Not Found"), (405, "Method Not Allowed"), (406, "Not Acceptable"),
   (407, "Proxy Authentication Required"), (408, "Request Timeout"), (409, "Conflict"),
   (410, "Gone"), (411, "Length Required"), (412, "Precondition Failed"),
   (413, "Payload Too Large"), (414, "URI Too Long"), (415, "Unsupported Media Type"),
   (416, "Range Not Satisfiable"), (417, "Expectation Failed"), (418, "I'm a teapot"),
   (421, "Misdirected Request"), (422, "Unprocessable Entity"), (423, "Locked"),
   (424, "Failed Dependency"), (425, "Too Early"), (426, "Upgrade Required"),
   (428, "Precondition Required"), (429, "Too Many Requests"),
   (431, "Request Header Fields Too Large"), (451, "Unavailable For Legal Reasons"),
   (500, "Internal Server Error"), (501, "Not Implemented"), (502, "Bad Gateway"),
   (503, "Service Unavailable"), (504, "Gateway Timeout"), (505, "HTTP Version Not Supported"),
   (506, "Variant Also Negotiates"), (507, "Insufficient Storage"), (508, "Loop Detected"),
   (510, "Not Extended"), (511, "Network Authentication Required")]

def statusLine (status : Nat) : String :=
  Nat.repr status ++ " " ++ (phrases.lookup status).getD "<unknown status code>"

/-! ## Refusals -/

/-- Why the API refused a request. -/
structure Refusal where
  status : String
  message : String
  reason : String
  code : UInt16
deriving DecidableEq, Inhabited

open Document

variable {α : Type} [Document α]

def code? (v : α) : Option UInt16 :=
  (natTo? 65535 v).map Nat.toUInt16

namespace Refusal

def read? (v : α) : Option Refusal := do
  let ms ← record? ["status", "message", "reason", "code"] v
  return {
    status := ← required text? "status" ms
    message := ← defaulted text? "" "message" ms
    reason := ← defaulted text? "" "reason" ms
    code := ← required code? "code" ms }

/-- The refusal that stands for a body that says nothing readable. -/
def unreadable (r : Response) : Refusal :=
  ⟨statusLine r.status, Text.quoted r.body, "Failed to parse error data", r.status.toUInt16⟩

def describe (r : Refusal) : String :=
  r.message ++ ": " ++ r.reason ++ " (ErrorResponse \x7b status: " ++ Text.quoted r.status
    ++ ", message: " ++ Text.quoted r.message ++ ", reason: " ++ Text.quoted r.reason
    ++ ", code: " ++ Nat.repr r.code.toNat ++ " \x7d)"

end Refusal

def Response.isRefusal (r : Response) : Bool :=
  400 ≤ r.status && r.status < 600

/-- What a refusing response says. -/
def Response.refusal (r : Response) : Refusal :=
  ((Json.parse? r.body).bind Refusal.read?).getD (.unreadable r)

/-! ## Acknowledgements -/

/-- What an acknowledgement says about the outcome. -/
def outcome? (v : α) : Option String :=
  (choice? v).filter (["Success", "Failure"].contains ·)

/-- The document is a cause in an acknowledgement. -/
def isCause (v : α) : Bool :=
  ((record? ["reason", "message", "field"] v).bind fun ms => do
    let _ ← defaulted text? "" "reason" ms
    let _ ← defaulted text? "" "message" ms
    defaulted text? "" "field" ms).isSome

/-- The document holds the details of an acknowledgement. -/
def isDetails (v : α) : Bool :=
  ((record? ["name", "group", "kind", "uid", "causes", "retryAfterSeconds"] v).bind fun ms => do
    let _ ← defaulted text? "" "name" ms
    let _ ← defaulted text? "" "group" ms
    let _ ← defaulted text? "" "kind" ms
    let _ ← defaulted text? "" "uid" ms
    let causes ← defaulted items? [] "causes" ms
    let _ ← defaulted (natTo? 4294967295) 0 "retryAfterSeconds" ms
    guard (causes.all isCause)).isSome

/-- The document acknowledges a request without showing an object. -/
def isAcknowledgement (v : α) : Bool :=
  ((record? ["status", "code", "message", "reason", "details"] v).bind fun ms => do
    let _ ← defaulted (nullable? outcome?) none "status" ms
    let _ ← defaulted code? 0 "code" ms
    let _ ← defaulted text? "" "message" ms
    let _ ← defaulted text? "" "reason" ms
    let details ← defaulted (nullable? some) none "details" ms
    guard (details.all isDetails)).isSome

end LogOperator.Api
