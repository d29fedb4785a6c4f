import FloatingAddress.Manifest.Floating
import FloatingAddress.Text.Case

/-!
# Definitions of the two kinds

Before objects of a kind can be created, the kind has to be defined in the cluster. A definition
tells the names of the kind, whether its objects belong to namespaces, and which form they have:
here a specification with one optional text.
-/

namespace FloatingAddress.Manifest

/-- What the definition of a kind has to tell. -/
structure Definition where
  kind : String
  plural : String
  shortName : String
  /-- Whether objects of the kind belong to namespaces. -/
  isNamespaced : Bool
  /-- The name of the setting in the specification. -/
  setting : String
  /-- What the setting means. -/
  meaning : String
deriving DecidableEq, Repr

namespace Definition

def range : Definition where
  kind := Range.kind
  plural := "floatingipranges"
  shortName := "fiprange"
  isNamespaced := false
  setting := "iprange"
  meaning := "IPv4 CIDR the range hands addresses out of (e.g. `10.0.0.0/24`)"

def floating : Definition where
  kind := Floating.kind
  plural := "floatingips"
  shortName := "fip"
  isNamespaced := true
  setting := "ipaddress"
  meaning := "Assigned IPv4 address; empty until allocated"

def ofKind? (kind : String) : Option Definition := [range, floating].find? (·.kind = kind)

def names (d : Definition) : Json :=
  .ofFields [
    ("categories", .arr []), ("kind", .str d.kind), ("plural", .str d.plural),
    ("shortNames", .arr [.str d.shortName]), ("singular", .str (Text.lowerAscii d.kind))]

def specification (d : Definition) : Json :=
  let setting := Json.ofFields
    [("description", .str d.meaning), ("nullable", .bool true), ("type", .str "string")]
  .ofFields [("properties", .ofFields [(d.setting, setting)]), ("type", .str "object")]

/-- The form of the objects. -/
def form (d : Definition) : Json :=
  .ofFields [
    ("description", .str s!"Auto-generated derived type for {d.kind}Spec via `CustomResource`"),
    ("properties", .ofFields [("spec", d.specification)]),
    ("required", .arr [.str "spec"]), ("title", .str d.kind), ("type", .str "object")]

/-- The only version of the kind. -/
def versionJson (d : Definition) : Json :=
  .ofFields [
    ("additionalPrinterColumns", .arr []), ("name", .str version),
    ("schema", .ofFields [("openAPIV3Schema", d.form)]),
    ("served", .bool true), ("storage", .bool true), ("subresources", .ofFields [])]

def toJson (d : Definition) : Json :=
  .ofFields [
    ("apiVersion", .str "apiextensions.k8s.io/v1"), ("kind", .str "CustomResourceDefinition"),
    ("metadata", .ofFields [("name", .str s!"{d.plural}.{group}")]),
    ("spec", .ofFields [
      ("group", .str group), ("names", d.names),
      ("scope", .str (if d.isNamespaced then "Namespaced" else "Cluster")),
      ("versions", .arr [d.versionJson])])]

end Definition

end FloatingAddress.Manifest
