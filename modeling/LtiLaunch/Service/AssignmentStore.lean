import LtiLaunch.Assignment.Document

/-!
# The assignment store

Documents on record for assignments, held in memory.
-/

namespace LtiLaunch

structure AssignmentSeed where
  platformGuid : String
  resourceLinkId : String
  documentUrl : String
  deriving DecidableEq, Repr

abbrev AssignmentStore := SortedMap AssignmentKey String

/-- The store of the seeds; of two seeds for one assignment the later counts. -/
def AssignmentStore.ofSeeds (seeds : List AssignmentSeed) : AssignmentStore :=
  .ofList (seeds.map fun s => (⟨s.platformGuid, s.resourceLinkId⟩, s.documentUrl))

end LtiLaunch
