import BlockRules.Rule.Validation
import BlockRules.Wording.Pseudocode

set_option autoImplicit false

namespace BlockRules

structure Preview where
  naturalLanguage : String
  pseudocode : String
  validation : Validation
  inputNames : List String

namespace Graph

def preview (g : Graph) : Preview := ⟨g.summary, g.pseudocode, g.validate, g.inputNames⟩

end Graph

end BlockRules
