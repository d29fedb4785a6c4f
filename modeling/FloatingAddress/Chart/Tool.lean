import FloatingAddress.Chart.Request
import FloatingAddress.Dialogue
import FloatingAddress.Failure
import FloatingAddress.Kubeconfig
import FloatingAddress.Text.Split
import FloatingAddress.Text.Utf8

/-!
# Installing charts with the command-line tool

Charts are installed by a program that is run with arguments. Access documents and values are
passed to it as temporary files. The state that the program keeps about repositories lies in files
of its own, apart from those of any person who uses the program on the same machine.
-/

namespace FloatingAddress.Chart

inductive Argument
  | word (s : String)
  /-- The path of a temporary file with a content. -/
  | file (content : String)
deriving DecidableEq, Repr

structure Command where
  program : String
  arguments : List Argument
deriving DecidableEq, Repr

/-- How a command ended. -/
structure Exit where
  code : Nat
  stderr : List UInt8 := []

/-- Why a command was not run. -/
inductive StartFailure
  | noProgram
  | notExecutable
  /-- A NUL character cannot be passed in an argument. -/
  | nulCharacter
deriving DecidableEq, Repr

def StartFailure.message : StartFailure → String
  | noProgram => "No such file or directory (os error 2)"
  | notExecutable => "Permission denied (os error 13)"
  | nulCharacter => "nul byte found in provided data"

/-- A computation that runs commands. -/
abbrev Session := Dialogue Command fun _ => Except StartFailure Exit

/-- A computation that runs commands and may fail. -/
abbrev Installation := ExceptT GuestError Session

/-- The program and the files in which it keeps its state. -/
structure Tool where
  program : String := "helm"
  repositoryConfig : String := "/tmp/.helmrepo-kube-vip"
  repositoryCache : String := "/tmp/.helmcache-kube-vip"

/-- What the tool says about a release that is not there. -/
def absenceText : String := "release: not found"

namespace Tool

/-- A command of the tool for a guest cluster. -/
def command (tool : Tool) (k : Kubeconfig) (arguments : List Argument) : Command where
  program := tool.program
  arguments := [
    .word "--kubeconfig", .file k.yaml, .word "--repository-config", .word tool.repositoryConfig,
    .word "--repository-cache", .word tool.repositoryCache] ++ arguments

/-- Whether an argument can be passed to a program. -/
def isPassable : Argument → Bool
  | .word s => !s.toList.contains '\x00'
  | .file _ => true

/-- The failure of a command that ended with an exit code other than zero. -/
def failure (what : String) (exit : Exit) : GuestError :=
  let words := Text.trim (Text.Utf8.decodeLossy exit.stderr)
  .installer s!"helm {what} failed (exit status: {exit.code}): {words}"

/-- Run a command, called `what` in messages. -/
def run (what : String) (c : Command) : Installation Unit := do
  if !c.arguments.all isPassable then throw (.io StartFailure.nulCharacter.message)
  match ← ExceptT.lift (Dialogue.call c : Session _) with
  | .error error => throw (.io error.message)
  | .ok exit => if exit.code = 0 then return else throw (failure what exit)

def releaseExists (tool : Tool) (k : Kubeconfig) (ns release : String) : Installation Bool := do
  let words := ["status", release, "--namespace", ns]
  tryCatch (do run "status" (tool.command k (words.map .word)); return true) fun error =>
    match error with
    | .installer what => if Text.contains what absenceText then return false else throw error
    | _ => throw error

/-- The command that makes the repository of a chart known. -/
def repositoryCommand (tool : Tool) (k : Kubeconfig) (chart : Request) : Command :=
  let words := ["repo", "add", "--force-update", chart.repoName, chart.repoUrl]
  tool.command k (words.map .word)

/-- The command that installs a chart, or upgrades its release. -/
def upgradeCommand (tool : Tool) (k : Kubeconfig) (chart : Request) : Command :=
  let words := ["upgrade", "--install", chart.release, chart.chart, "--namespace", chart.ns,
    "--create-namespace", "--values"]
  let version := (chart.version.toList.flatMap fun v => ["--version", v]).map Argument.word
  tool.command k (words.map .word ++ .file chart.values :: version)

/-- Install a chart, or upgrade its release. -/
def install (tool : Tool) (k : Kubeconfig) (chart : Request) : Installation Unit := do
  run "repo add" (tool.repositoryCommand k chart)
  run "upgrade --install" (tool.upgradeCommand k chart)

end Tool

end FloatingAddress.Chart
