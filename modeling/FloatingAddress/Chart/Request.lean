/-!
# Charts to be installed

A component is a chart with the place and the name of its release; a request adds the repository
from which the chart is fetched.
-/

namespace FloatingAddress.Chart

/-- One chart that guest clusters run. -/
structure Component where
  ns : String
  release : String
  chart : String
  /-- The version, or the latest one. -/
  version : Option String := none
  /-- The values document. -/
  values : String
deriving DecidableEq, Repr

/-- What the installer has to know to install a chart. -/
structure Request where
  release : String
  chart : String
  ns : String
  repoName : String
  repoUrl : String
  version : Option String := none
  values : String
deriving DecidableEq, Repr

end FloatingAddress.Chart
