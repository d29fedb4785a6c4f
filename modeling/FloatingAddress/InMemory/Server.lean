import FloatingAddress.Api.Exchange

/-!
# A cluster API in memory

It gives a prepared answer for every method and path, records all requests, and says of everything
else that it does not exist. Requests to other servers get nowhere.
-/

namespace FloatingAddress.InMemory

/-- A cluster API with prepared answers. -/
structure Server where
  /-- Scheme and authority of the server. -/
  origin : String
  /-- The answers, by method and path. -/
  replies : List ((String × String) × Api.Response) := []
  requests : Array Api.Request := #[]

namespace Server

/-- The answer about something that does not exist. -/
def notFound (path : String) : Api.Response where
  status := 404
  text := (Json.ofFields [
    ("kind", .str "Status"), ("status", .str "Failure"), ("code", .int 404),
    ("reason", .str "NotFound"), ("message", .str s!"{path} not found")]).text

def answer (request : Api.Request) : StateM Server (Except ApiError Api.Response) := do
  let server ← get
  if request.origin.any (· ≠ server.origin) then return .error .noAccess
  set { server with requests := server.requests.push request }
  return .ok ((server.replies.lookup (request.method, request.path)).getD (notFound request.path))

end Server

end FloatingAddress.InMemory
