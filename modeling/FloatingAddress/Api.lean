import FloatingAddress.Json.Reader
import FloatingAddress.Json.Printer
import FloatingAddress.Text.Quoted

/-!
# Requests to a cluster API and their answers

A request has a method, a path, query parameters and perhaps a body; an answer has a status and a
text. From status 400 on the answer reports a failure: normally an object that gives a status, a
code, a message and a reason, and otherwise whatever a server in between had to say.
-/

namespace FloatingAddress

namespace Api

structure Request where
  method : String
  /-- Scheme and authority of the server, unless it is the cluster that the operator runs in. -/
  origin : Option String := none
  path : String
  query : List String := []
  body : Option Json := none

structure Response where
  status : Nat := 200
  text : String

end Api

/-- Why a request to a cluster API brought no result. -/
inductive ApiError
  /-- The server refused. -/
  | refused (code : Nat) (reason message : String)
  /-- The answer does not have the expected form. -/
  | unreadable
  /-- There is no request for a nameless object. -/
  | nameless
  /-- A name holds a character that cannot stand in a path. -/
  | badPath
  /-- The way to the API is not known. -/
  | noAccess
deriving DecidableEq, Repr

namespace ApiError

def message : ApiError → String
  | .refused _ reason message => s!"ApiError: {message}: {reason}"
  | .unreadable => "Error deserializing response"
  | .nameless =>
    "Failed to build request: failed to validate request: A non-empty name is required"
  | .badPath => "Failed to build request: failed to build request: invalid uri character"
  | .noAccess => "No access to the API"

/-- Whether the failure says that the object does not exist. -/
def isAbsence : ApiError → Bool
  | .refused _ reason _ => reason = "NotFound"
  | _ => false

/-- The failure that an object describes: its status is a text and its code a number of 16
bits; message and reason are texts and may be left out. -/
def ofStatus? (json : Json) : Option ApiError := do
  let fields ← json.obj?
  let text (name : String) : Option String :=
    match fields.lookup name with
    | none => some ""
    | some value => value.str?
  let _ ← (fields.lookup "status").bind Json.str?
  let code ← ((fields.lookup "code").bind Json.nat?).filter (· < UInt16.size)
  some (.refused code (← text "reason") (← text "message"))

end ApiError

namespace Api

/-- The failure that an answer from status 400 on reports. -/
def Response.failure (response : Response) : ApiError :=
  ((Json.ofText? response.text).bind ApiError.ofStatus?).getD
    (.refused response.status "Failed to parse error data" (Text.quote response.text))

/-- The value that an answer carries, read with `read?`. -/
def Response.value (response : Response) (read? : Json → Option α) : Except ApiError α :=
  if 400 ≤ response.status then .error response.failure
  else match (Json.ofText? response.text).bind read? with
    | none => .error .unreadable
    | some a => .ok a

end Api

end FloatingAddress
