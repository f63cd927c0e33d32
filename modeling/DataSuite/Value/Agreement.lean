import DataSuite.Value.Basic

/-!
# Agreement of values

Two values agree when they are equal up to the way numbers are written and the
order of the members of their objects.
-/

namespace DataSuite
namespace Value

mutual

/-- Whether two values agree. -/
def agree : Value → Value → Bool
  | .null, .null => true
  | .boolean left, .boolean right => left == right
  | .number left, .number right => left.agree right
  | .text left, .text right => left == right
  | .list left, .list right => agreeItems left right
  | .object left, .object right => left.length == right.length && agreeMembers left right
  | _, _ => false

/-- Whether two lists agree place by place. -/
def agreeItems : List Value → List Value → Bool
  | [], [] => true
  | left :: leftRest, right :: rightRest => agree left right && agreeItems leftRest rightRest
  | _, _ => false

/-- Whether each member on the left agrees with the member of the same name on the right. -/
def agreeMembers : List (String × Value) → List (String × Value) → Bool
  | [], _ => true
  | (name, value) :: rest, others =>
      (match Members.get? others name with
      | some other => agree value other
      | none => false) && agreeMembers rest others

end

end Value
end DataSuite
