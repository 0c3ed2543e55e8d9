import Caseflow.Main
import Caseflow.Case.Message
import Caseflow.Schema.Validator
import Caseflow.Proofs.Case.Chain
import Caseflow.Proofs.Case.Rebuild
import Caseflow.Proofs.Case.Authority
import Caseflow.Proofs.Case.Commitment
import Caseflow.Proofs.Case.Conformance
import Caseflow.Proofs.Case.Grounded
import Caseflow.Proofs.Case.Retaken
import Caseflow.Proofs.Case.Migration
import Caseflow.Proofs.Case.CatchUp
import Caseflow.Proofs.Case.Takeover
import Caseflow.Proofs.Case.StandIn
import Caseflow.Proofs.Case.Identity
import Caseflow.Proofs.Case.ForcedExpiry
import Caseflow.Proofs.Case.Limit
import Caseflow.Proofs.Case.Stored
import Caseflow.Proofs.Case.Profile
import Caseflow.Proofs.Case.Message
import Caseflow.Proofs.Scenario.SpelledOut
import Caseflow.Proofs.Scenario.Stable
import Caseflow.Proofs.Scenario.ShortKeys
import Caseflow.Proofs.Json.Canonical
import Caseflow.Proofs.Query.Precedence
import Caseflow.Proofs.Schema.Kept
import Caseflow.Proofs.Schema.Loading
import Caseflow.Proofs.Schema.Walk
import Caseflow.Proofs.Case.Offered
import Caseflow.Proofs.Query.Slice
import Caseflow.Proofs.Scenario.Period
import Caseflow.Proofs.Template.Alike
import Caseflow.Proofs.Template.Inlined
import Caseflow.Proofs.Template.Spelled
import Caseflow.Proofs.Query.Ranking
import Caseflow.Proofs.Query.Failure
import Caseflow.Proofs.Schema.Free
