import FloatingAddress.Chart.Request
import FloatingAddress.Failure

/-!
# A chart installer in memory

It keeps the releases of every guest cluster and records every installation, failed ones included.
-/

namespace FloatingAddress.InMemory

/-- A release of a guest cluster. -/
structure Release where
  cluster : String
  ns : String
  name : String
deriving DecidableEq, Repr

/-- The releases of all guest clusters. -/
structure Installer where
  releases : List Release := []
  /-- Cluster and name of the releases whose installation fails. -/
  failing : List (String × String) := []
  installs : Array (String × Chart.Request) := #[]

namespace Installer

def add (i : Installer) (release : Release) : Installer :=
  { i with releases := release :: i.releases.filter (· ≠ release) }

/-- Make the installation of a release fail. -/
def fail (i : Installer) (cluster release : String) : Installer :=
  { i with failing := (cluster, release) :: i.failing }

def hasRelease (i : Installer) (release : Release) : Bool := release ∈ i.releases

def install (i : Installer) (cluster : String) (chart : Chart.Request) :
    Except GuestError Unit × Installer :=
  let i := { i with installs := i.installs.push (cluster, chart) }
  if (cluster, chart.release) ∈ i.failing then
    (.error (.installer s!"injected failure installing {chart.release}"), i)
  else (.ok (), i.add { cluster, ns := chart.ns, name := chart.release })

end Installer

end FloatingAddress.InMemory
