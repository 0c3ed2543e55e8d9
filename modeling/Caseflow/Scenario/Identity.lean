import Caseflow.Scenario.Codec
import Caseflow.Json.Text
import Caseflow.Uuid

/-!
# Names of scenarios

A scenario has an identifier made from its own content: a name-based one, in a namespace made from
the address of its format.
-/
namespace Caseflow.Scenario

def formatNamespace (uri : String) : Uuid := Uuid.ofName Uuid.urlNamespace (Digest.utf8 uri)

def id (s : Scenario) : Uuid :=
  Uuid.ofName (formatNamespace s.format) (Digest.utf8 s.encode.canonicalText)

end Caseflow.Scenario
