import FloatingAddress.Chart.Tool

/-!
# A command line in memory

One program is there, and it ends as it was told to; every run is recorded. Apart from it there
are only directories.
-/

namespace FloatingAddress.InMemory

/-- A command line with one program. -/
structure Shell where
  program : String := ({} : Chart.Tool).program
  directories : List String :=
    ["/", ".", "..", "/bin", "/dev", "/etc", "/home", "/proc", "/root", "/tmp", "/usr", "/var"]
  /-- How the next runs will end; after them, every run is a success. -/
  exits : List Chart.Exit := []
  commands : Array Chart.Command := #[]

def Shell.run (c : Chart.Command) : StateM Shell (Except Chart.StartFailure Chart.Exit) := do
  let shell ← get
  if c.program = shell.program then
    set { shell with exits := shell.exits.drop 1, commands := shell.commands.push c }
    return .ok (shell.exits.headD { code := 0 })
  return .error (if c.program ∈ shell.directories then .notExecutable else .noProgram)

end FloatingAddress.InMemory
