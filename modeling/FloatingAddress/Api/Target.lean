import FloatingAddress.Api
import FloatingAddress.Text.Uri

/-!
# Addressing requests

A resource is one kind of objects that a cluster API serves: its group, its version and the
plural under which its objects are listed. The path of an object ends in its name. Names are not
encoded in any way, so a name with a blank in it cannot be addressed, and one with a question
mark in it ends the path.
-/

namespace FloatingAddress.Api

/-- One kind of objects of a cluster API. -/
structure Resource where
  /-- The group, or none for the kinds that every cluster has. -/
  group : Option String := none
  version : String
  plural : String

namespace Resource

/-- Where the paths of a group and version begin. -/
def stem (r : Resource) : String :=
  match r.group with
  | none => s!"/api/{r.version}"
  | some group => s!"/apis/{group}/{r.version}"

/-- Where all objects of a kind are listed. -/
def path (r : Resource) : String := s!"{r.stem}/{r.plural}"

/-- Where the objects of a kind are listed that are in one namespace. -/
def pathIn (r : Resource) (ns : String) : String := s!"{r.stem}/namespaces/{ns}/{r.plural}"

def configMaps : Resource := { version := "v1", plural := "configmaps" }

def secrets : Resource := { version := "v1", plural := "secrets" }

def pods : Resource := { version := "v1", plural := "pods" }

end Resource

/-- A request whose path and query are written in one text. -/
def Request.ofTarget (method target : String) (body : Option Json) : Except ApiError Request :=
  match Text.Uri.target? target.toList with
  | none => .error .badPath
  | some (path, query) =>
    let parts := ((Text.pieces '&' query).map String.ofList).filter (· ≠ "")
    .ok { method, path := String.ofList path, query := parts, body }

def listRequest (path query : String) : Except ApiError Request :=
  Request.ofTarget "GET" s!"{path}?{query}" none

def objectRequest (method path name : String) (body : Option Json) : Except ApiError Request :=
  if name = "" then .error .nameless else Request.ofTarget method s!"{path}/{name}?" body

end FloatingAddress.Api
