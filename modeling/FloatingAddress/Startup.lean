import FloatingAddress.Api.Source
import FloatingAddress.Kubeconfig.Access
import FloatingAddress.Operator
import FloatingAddress.Settings

/-!
# Starting the operator

First the options are read; without a config map the defaults are in force. Then all objects are
listed and accepted, and addresses that were chosen on this occasion are written back. Only then
the timers start. A failure to read the options or to list the objects ends the start; a single
object that is not accepted does not.
-/

namespace FloatingAddress.Startup

open Api (Exchange Resource)

/-- A part of the start: it changes the operator, sends requests and may fail. -/
abbrev Start := ExceptT OperatorError (StateT Operator Exchange)

def access (a : Source.Access α) : Start α := ExceptT.mk (StateT.lift a.run)

def report (notice : Notice) : Start Unit := modify (·.report notice)

/-- Carry out the dialogue of a handler; addresses are written to the cluster API. -/
def reconcile (d : Reconcile.Step α) : Start α :=
  ExceptT.lift (Operator.perform (fun key address => (Source.persist key address).run) d)

def readOptions (settings : Settings) : Start Options := do
  let path := Resource.configMaps.pathIn settings.ns
  match ← access (Source.fetch (Api.get? path settings.configMap Manifest.ConfigMap.ofJson?)) with
  | none =>
    report (.optionsMissing settings.ns settings.configMap)
    return Options.defaults
  | some m =>
    (Options.complaintsOf m).forM report
    return Options.ofConfigMap m

/-- Put the first options into effect. -/
def adopt (options : Options) : Start Unit := do
  modify fun op => { op with options, filter := options.logFilter }
  let notice := Notice.levelSet (.ofOption options.logLevel)
  if options.logFilter.shows notice.level then report notice

def start (settings : Settings) (work : Schedule.Work) : Start Reconcile.SeedReport := do
  let options ← readOptions settings
  adopt options
  let ranges ← access Source.listRanges
  let floatings ← access Source.listFloatings
  let seeded ← reconcile (Reconcile.seed ranges floatings)
  modify fun op =>
    { op with timetable := (op.timetable.reschedule work options.sweepInterval).2.2 }
  return seeded

/-- Start the operator on the cluster to which an access document leads. -/
def startAt (yaml : String) (settings : Settings) (work : Schedule.Work) (op : Operator) :
    Exchange (Except OperatorError Reconcile.SeedReport × Operator) :=
  match Kubeconfig.server? yaml with
  | none => return (.error (.api .noAccess), op)
  | some uri => Api.redirect uri.origin uri.stem ((start settings work).run.run op)

end FloatingAddress.Startup
