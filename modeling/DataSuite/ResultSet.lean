import DataSuite.Plan

/-!
# Results

A step of a test case yields rows or a plan, or it leaves its place empty.  A plan can be
seen as rows as well.
-/

namespace DataSuite

/-- What a step has yielded. -/
inductive ResultSet where
  | rows (rows : List Row)
  | plan (plan : Plan)
  | empty

namespace ResultSet

/-- The rows of a result. -/
def toRows : ResultSet → List Row
  | rows found => found
  | plan steps => steps.map PlanStep.toRow
  | empty => []

/-- Whether a result has no rows. -/
def isEmpty : ResultSet → Bool
  | rows found => found.isEmpty
  | plan steps => steps.isEmpty
  | empty => true

end ResultSet
end DataSuite
