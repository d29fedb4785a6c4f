import FloatingAddress.Discovery
import FloatingAddress.InMemory.Guests
import FloatingAddress.InMemory.Installer
import FloatingAddress.InMemory.Registry
import FloatingAddress.InMemory.Source
import FloatingAddress.Sweep

/-!
# Everything around the operator, in memory

The registry, the guest clusters, the installer and the source of the objects together answer
whatever the operator asks. Single calls can be made to fail on their way, before they reach
anything.
-/

namespace FloatingAddress.InMemory

structure Surroundings where
  registry : Registry := {}
  guests : Guests := {}
  installer : Installer := {}
  source : Source := {}
  /-- The calls that fail on their way, with what they are about. -/
  faults : List (String × String) := []

namespace Surroundings

/-- Let a call about something fail on its way, or no longer. Tells whether that is a change. -/
def setFault (s : Surroundings) (call subject : String) (on : Bool) : Bool × Surroundings :=
  let there := s.faults.contains (call, subject)
  let faults :=
    if on then (if there then s.faults else (call, subject) :: s.faults)
    else s.faults.filter (· ≠ (call, subject))
  (there != on, { s with faults })

/-- Make a call about something, unless it fails on its way. -/
def calling (s : Surroundings) (call subject : String)
    (go : Surroundings → Except GuestError α × Surroundings) : Except GuestError α × Surroundings :=
  if s.faults.contains (call, subject) then (.error (.missingData s!"fault {call} {subject}"), s) else go s

/-- Make a call that changes nothing. -/
def asking (s : Surroundings) (call subject : String) (answer : Except GuestError α) :
    Except GuestError α × Surroundings :=
  s.calling call subject fun s => (answer, s)

/-- Write an address back to its object. -/
def persist (key : RecordKey) (address : Ipv4) (s : Surroundings) :
    Except OperatorError Unit × Surroundings :=
  let (answer, source) := s.source.persist key address
  (answer, { s with source })

def providerName (s : Surroundings) (cluster : GuestCluster) :
    Except GuestError (Option String) × Surroundings :=
  s.asking "provider_cluster_name" cluster.name (.ok s.registry.providers[cluster.name]?)

def networkName (s : Surroundings) (cluster : GuestCluster) :
    Except GuestError (Option String) × Surroundings :=
  s.asking "provider_network_name" cluster.name (.ok s.registry.networks[cluster.name]?)

/-- Go on with the guest clusters. -/
def withGuests (s : Surroundings) (r : Except GuestError α × Guests) :
    Except GuestError α × Surroundings :=
  (r.1, { s with guests := r.2 })

def getConfigMap (s : Surroundings) (place : MapPlace) :
    Except GuestError (Option Manifest.ConfigMap) × Surroundings :=
  s.calling "get_config_map" place.cluster fun s => s.withGuests (s.guests.get place)

def releaseExists (s : Surroundings) (release : Release) : Except GuestError Bool × Surroundings :=
  s.asking "release_exists" release.name (.ok (s.installer.hasRelease release))

def install (s : Surroundings) (cluster : String) (chart : Chart.Request) :
    Except GuestError Unit × Surroundings :=
  let (answer, installer) := s.installer.install cluster chart
  (answer, { s with installer })

/-- A failure on the way to the guests, as a failure of the operator. -/
def asOperator (r : Except GuestError α × Surroundings) : Except OperatorError α × Surroundings :=
  (r.1.mapError .guest, r.2)

def isServed (s : Surroundings) (ns : String) : Except OperatorError Bool × Surroundings :=
  asOperator (s.asking "namespace_has_floating_ips" ns (.ok (s.source.isServed ns)))

def create (s : Surroundings) (m : Manifest.Floating) : Except OperatorError Unit × Surroundings :=
  asOperator (s.calling "create_floating_ip" m.metadata.anyName fun s =>
    (.ok (), { s with source := s.source.addFloating m }))

end Surroundings

end FloatingAddress.InMemory
