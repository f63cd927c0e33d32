import DataSuite.Expectation
import DataSuite.Suite.Title

/-!
# Suites

A suite installs something, runs test cases one after the other and may clean up.  Each
case arranges, acts and then holds the results against expectations.  A malformed case
keeps its fault and does not refuse the suite; malformed installations and cleanups do.
-/

namespace DataSuite

/-- The steps of a test case. -/
structure Steps where
  /-- What prepares the case. -/
  arrange : List Directive
  /-- What yields the results. -/
  act : List Directive
  /-- What is expected of the results, in their order. -/
  expect : List Expectation

/-- A test case. -/
structure TestCase where
  title : Title
  /-- The steps, or why there are none. -/
  steps : Except Fault Steps

/-- A suite. -/
structure Suite where
  name : String
  /-- What is executed before all cases. -/
  installations : List Directive
  /-- What is executed after all cases. -/
  cleanups : List Directive
  tests : List TestCase

/-- The values that a member stands for: the items of a list, nothing for null, and else the
value alone. -/
def valuesOf : Option Value → List Value
  | none => []
  | some .null => []
  | some (.list items) => items
  | some value => [value]

/-- The directives that a member describes. -/
def directivesOf (base : Option String) (value : Option Value) : Except Fault (List Directive) :=
  (valuesOf value).mapM fun value => (Directive.ofValue base value).mapError .execution

/-- The expectations that a member describes. -/
def expectationsOf (base : Option String) (value : Option Value) :
    Except Fault (List Expectation) :=
  (valuesOf value).mapM fun value => (Expectation.ofValue base value).mapError .testCase

/-- The parts of a test case before they are understood. -/
structure CaseParts where
  title : Title
  arrange : Option Value
  act : Option Value
  expect : Option Value

namespace CaseParts

/-- The title that a value describes; without a value it is empty. -/
def titleOf : Option Value → Except CaseFault Title
  | none => .ok (.text "")
  | some value =>
      match Title.ofValue? value with
      | some title => .ok title
      | none => .error .title

/-- The parts of a case whose parts have names. -/
def ofMembers (members : Members) : Except CaseFault CaseParts :=
  (titleOf (members.get? "title")).map fun title =>
    ⟨title, members.get? "arrange", members.get? "act", members.get? "assert"⟩

/-- The parts of a case whose parts stand in a list: title, preparation, action, expectations.
A list without a title already lacks its second part. -/
def ofItems (items : List Value) : Except CaseFault CaseParts := do
  let title ← titleOf items.head?
  match items with
  | [_, arrange, act, expect] => return ⟨title, some arrange, some act, some expect⟩
  | _ :: _ :: _ :: _ :: _ => .error (.tooLong items.length)
  | _ => .error (.tooShort (max 1 items.length))

/-- The parts of the case that a value describes. -/
def ofValue : Value → Except CaseFault CaseParts
  | .object members => ofMembers members
  | .list items => ofItems items
  | value => .error (.notCase value)

end CaseParts

/-- The steps that the parts of a case describe.  Something has to be executed. -/
def Steps.ofParts (base : Option String) (parts : CaseParts) : Except Fault Steps := do
  if (valuesOf parts.act).isEmpty then throw (.testCase .noAct)
  let arrange ← directivesOf base parts.arrange
  let act ← directivesOf base parts.act
  let expect ← expectationsOf base parts.expect
  return ⟨arrange, act, expect⟩

/-- The test case that a value describes, given its place. -/
def TestCase.ofValue (base : Option String) (index : Nat) (value : Value) : TestCase :=
  match CaseParts.ofValue value with
  | .error fault => ⟨.numbered index, .error (.testCase fault)⟩
  | .ok parts => ⟨parts.title.orNumbered index, Steps.ofParts base parts⟩

/-- The parts of a suite before they are understood. -/
structure SuiteParts where
  installations : Option Value
  cleanups : Option Value
  tests : List Value

namespace SuiteParts

/-- The parts of a suite whose parts have names. -/
def ofMembers (members : Members) : Except SuiteFault SuiteParts :=
  let parts := SuiteParts.mk (members.get? "installations") (members.get? "cleanups")
  match members.get? "tests" with
  | none => .ok (parts [])
  | some (.list tests) => .ok (parts tests)
  | some value => .error (.testsNotList value)

/-- The parts of the suite that a value describes: a list of cases or named parts. -/
def ofValue : Value → Except SuiteFault SuiteParts
  | .list tests => .ok ⟨none, none, tests⟩
  | .null => .ok ⟨none, none, []⟩
  | .object members => ofMembers members
  | value => .error (.notSuite value)

end SuiteParts

/-- The test cases that values describe. -/
def TestCase.ofValues (base : Option String) (values : List Value) : List TestCase :=
  values.mapIdx (TestCase.ofValue base)

/-- The suite that a value describes.  Its paths are resolved against a base. -/
def Suite.ofValue (name : String) (base : Option String) (value : Value) :
    Except Fault Suite := do
  let parts ← (SuiteParts.ofValue value).mapError .suite
  let installations ← directivesOf base parts.installations
  let cleanups ← directivesOf base parts.cleanups
  return ⟨name, installations, cleanups, TestCase.ofValues base parts.tests⟩

end DataSuite
