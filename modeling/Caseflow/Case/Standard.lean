import Caseflow.Case.Engine
import Caseflow.Regex.Search
import Caseflow.Schema.Standard.WellFormed

/-!
# The standard engine

The engine that cases are run with unless other means are given: it knows the common keywords of
schemas, and its searches for regular expressions take time linear in the text.
-/
namespace Caseflow.Case.Engine

def standard (s : Scenario) : Engine :=
  .ofScenario (Schema.validate Schema.Standard.compile) Regex.linear s

end Caseflow.Case.Engine
