import FloatingAddress.Api.Target
import FloatingAddress.Dialogue
import FloatingAddress.Manifest.Listing

/-!
# Talking to a cluster API

An exchange is a dialogue whose questions are requests. A request may find no way to the server;
otherwise it is answered. What is fetched is read from the answer, and an answer of the wrong form
is a failure like any other.
-/

namespace FloatingAddress.Api

/-- A computation that sends requests. -/
abbrev Exchange := Dialogue Request fun _ => Except ApiError Response

/-- An exchange that may fail. -/
abbrev Fetch := ExceptT ApiError Exchange

/-- Send a request, and read the answer with `read?`. -/
def send (request : Except ApiError Request) (read? : Json → Option α) : Fetch α := do
  let request ← liftExcept request
  let response ← ExceptT.mk (Dialogue.call request)
  liftExcept (response.value read?)
where
  liftExcept {β : Type} (r : Except ApiError β) : Fetch β := ExceptT.mk (pure r)

/-- Fetch one object of a list; an object that does not exist is no failure. -/
def get? (path name : String) (read? : Json → Option α) : Fetch (Option α) :=
  tryCatch (some <$> send (objectRequest "GET" path name none) read?) fun error =>
    if error.isAbsence then pure none else throw error

def list (path : String) (item? : Json → Option α) : Fetch (List α) :=
  send (listRequest path "") (Manifest.listing? item?)

def listOne (path : String) (item? : Json → Option α) : Fetch (List α) :=
  send (listRequest path "limit=1") (Manifest.listing? item?)

/-- Create an object; the server answers with what it has stored. -/
def create (path : String) (body : Json) (read? : Json → Option α) : Fetch Unit :=
  discard (send (Request.ofTarget "POST" s!"{path}?" (some body)) read?)

def replace (path name : String) (body : Json) (read? : Json → Option α) : Fetch Unit :=
  discard (send (objectRequest "PUT" path name (some body)) read?)

/-- Change some fields of an object of a list. -/
def patch (path name : String) (change : Json) (read? : Json → Option α) : Fetch Unit :=
  discard (send (objectRequest "PATCH" path name (some change)) read?)

/-- Send all requests of an exchange to another server, whose paths begin with `stem`. -/
def redirect (origin stem : String) : Exchange α → Exchange α
  | .done result => .done result
  | .ask request next =>
    .ask { request with origin := some origin, path := stem ++ request.path } fun answer =>
      redirect origin stem (next answer)

end FloatingAddress.Api
