import FloatingAddress.Metrics.Exposition

/-!
# Metrics over HTTP

There is one resource, `/metrics`, which can be read and nothing else.
-/

namespace FloatingAddress.Metrics

structure Page where
  status : Nat
  contentType : Option String := none
  lines : List String := []
deriving DecidableEq, Repr

/-- Answer a request. What follows a question mark in the target does not matter. -/
def respond (m : Metrics) (method target : String) : Page :=
  let path := target.toList.takeWhile (· ≠ '?')
  if path ≠ "/metrics".toList then { status := 404 }
  else
    let contentType := "text/plain; version=0.0.4"
    match method with
    | "GET" => { status := 200, contentType, lines := m.render }
    | "HEAD" => { status := 200, contentType }
    | _ => { status := 405 }

end FloatingAddress.Metrics
