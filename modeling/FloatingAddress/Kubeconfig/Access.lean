import FloatingAddress.Kubeconfig
import FloatingAddress.Text.Uri
import FloatingAddress.Yaml.Node

/-!
# Reading access documents

An access document lists clusters, users and contexts, each with a name, and says which context is
the current one. The context names a cluster, whose server is where requests go, and perhaps a
user. A text may hold several documents, which are then taken together: what comes first counts.

Every field that the format defines is checked, whether it is needed or not. Fields that the
format does not define are passed over, and a field that is null counts as absent.
-/

namespace FloatingAddress.Kubeconfig

open Yaml (Node)

/-- A text. Numbers and truth values are no texts. -/
def text? : Node → Option String
  | .scalar (.text s) => some s
  | .tagged _ node => text? node
  | _ => none

def bool? : Node → Option Bool
  | .scalar (.bool b) => some b
  | .tagged _ node => bool? node
  | _ => none

def items? : Node → Option (List Node)
  | .sequence items => some items
  | .tagged _ node => items? node
  | _ => none

/-- The name of a field. A number names no field of the format. -/
def fieldName? : Node → Option (Option String)
  | .scalar (.text s) => some (some s)
  | .scalar (.int _) => some none
  | _ => none

def fields? : Node → Option (List (String × Node))
  | .mapping entries => do
    let named ← entries.mapM fun (key, value) => (fieldName? key).map fun name => (name, value)
    some (named.filterMap fun (name, value) => name.map (·, value))
  | .tagged _ node => fields? node
  | _ => none

/-- Read an optional field. The outer `none` is a value of the wrong form. -/
def field? (fields : List (String × Node)) (name : String) (read? : Node → Option α) :
    Option (Option α) :=
  match fields.lookup name with
  | none | some (.scalar .null) => some none
  | some value => (read? value).map some

/-- Read a field that may not be absent. -/
def required? (fields : List (String × Node)) (name : String) (read? : Node → Option α) : Option α :=
  (fields.lookup name).bind read?

/-- Read an optional list, empty if it is absent. -/
def listField? (fields : List (String × Node)) (name : String) (item? : Node → Option α) :
    Option (List α) :=
  (field? fields name fun node => (items? node).bind (·.mapM item?)).map (·.getD [])

/-- Whether optional fields have the expected form. -/
def areTexts (fields : List (String × Node)) (names : List String) : Bool :=
  names.all fun name => (field? fields name text?).isSome

/-- Whether an optional field has the expected form. -/
def isBool (fields : List (String × Node)) (name : String) : Bool := (field? fields name bool?).isSome

/-- An extension, which only has to have a name and a content. -/
def extension? (node : Node) : Option Unit := do
  let fields ← fields? node
  let _ ← required? fields "name" text?
  required? fields "extension" fun _ => some ()

/-- Whether the extensions have the expected form. -/
def hasExtensions (fields : List (String × Node)) : Bool :=
  (listField? fields "extensions" extension?).isSome

/-- The server of a cluster. -/
def cluster? (node : Node) : Option (Option String) := do
  let fields ← fields? node
  let texts := ["certificate-authority", "certificate-authority-data", "proxy-url",
    "tls-server-name"]
  if !areTexts fields texts || !isBool fields "insecure-skip-tls-verify" ||
    !isBool fields "disable-compression" || !hasExtensions fields then none
  field? fields "server" text?

/-- A user, whose content is only checked. -/
def user? (node : Node) : Option Unit := do
  let fields ← fields? node
  let texts := ["username", "password", "token", "tokenFile", "client-certificate",
    "client-certificate-data", "client-key", "client-key-data", "as"]
  if !areTexts fields texts then none
  let _ ← listField? fields "as-groups" text?
  let _ ← field? fields "auth-provider" fields?
  let _ ← field? fields "exec" fields?
  some ()

/-- A pair of names: of a cluster, and perhaps of a user. -/
structure Context where
  cluster : String
  user : Option String

/-- The names in a context. -/
def context? (node : Node) : Option Context := do
  let fields ← fields? node
  if !areTexts fields ["namespace"] || !hasExtensions fields then none
  some { cluster := ← required? fields "cluster" text?, user := ← field? fields "user" text? }

/-- An entry of a list: a name and a content, which may be missing. -/
def listedAs? (name : String) (read? : Node → Option α) (node : Node) :
    Option (String × Option α) := do
  let fields ← fields? node
  some (← required? fields "name" text?, ← field? fields name read?)

structure Document where
  kind : Option String := none
  version : Option String := none
  clusters : List (String × Option (Option String)) := []
  users : List (String × Option Unit) := []
  contexts : List (String × Option Context) := []
  current : Option String := none

namespace Document

/-- Whether the preferences have the expected form. -/
def arePreferences (node : Node) : Option Unit := do
  let fields ← fields? node
  if isBool fields "colors" && hasExtensions fields then some () else none

def ofNode? (node : Node) : Option Document := do
  let fields ← fields? node
  let _ ← field? fields "preferences" arePreferences
  if !hasExtensions fields then none
  return {
    kind := ← field? fields "kind" text?
    version := ← field? fields "apiVersion" text?
    clusters := ← listField? fields "clusters" (listedAs? "cluster" cluster?)
    users := ← listField? fields "users" (listedAs? "user" user?)
    contexts := ← listField? fields "contexts" (listedAs? "context" context?)
    current := ← field? fields "current-context" text? }

/-- Whether two documents say the same of something, as far as both say anything. -/
def agree (a b : Option String) : Bool := a.isNone || b.isNone || a = b

/-- Take two documents of one kind together. -/
def append? (a b : Document) : Option Document :=
  if agree a.kind b.kind && agree a.version b.version then some {
    kind := a.kind <|> b.kind
    version := a.version <|> b.version
    clusters := a.clusters ++ b.clusters
    users := a.users ++ b.users
    contexts := a.contexts ++ b.contexts
    current := a.current <|> b.current }
  else none

/-- The content of the entry with a name. Without a content the entry is as good as none. -/
def content? (name : String) (entries : List (String × Option α)) : Option α :=
  (entries.lookup name).join

/-- The server of the current context. If the context names a user, the document has to know it. -/
def server? (d : Document) : Option String := do
  let context ← content? (← d.current) d.contexts
  let server ← content? context.cluster d.clusters
  if let some user := context.user then
    let _ ← content? user d.users
  server

end Document

/-- What the documents of a text say together. -/
def document? (yaml : String) : Option Document := do
  let documents ← (← Yaml.documents? yaml).mapM Document.ofNode?
  documents.foldlM Document.append? {}

/-- The server to which an access document leads. -/
def server? (yaml : String) : Option Text.Uri := do
  Text.Uri.ofText? (← (← document? yaml).server?)

end FloatingAddress.Kubeconfig
