import LtiLaunch.Json.Parser
import LtiLaunch.Json5.Token

/-!
# Reading JSON5
-/

namespace LtiLaunch.Json5

def parse? (s : String) : Option Json := lex? s.toList >>= Json.ofTokens? true

end LtiLaunch.Json5
