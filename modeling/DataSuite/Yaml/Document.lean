import DataSuite.Yaml.Node

/-!
# Documents written in YAML

The node of a document is read as a value.  Plain scalars are read by the core schema;
the keys of a mapping are texts as they are written.  A reference stands for the node of
its anchor, within a limit that keeps documents from growing without bound.
-/

namespace DataSuite
namespace Yaml

/-- Whether the digits of a number are written with a superfluous zero in front. -/
def hasLeadingZero (text : List Char) : Bool :=
  let digits := (Decimal.sign text).2
  1 < digits.length && digits.head? == some '0' && digits.all Char.isDigit

/-- The number that digits of a base denote. -/
def ofBase? (base : Nat) (digits : List Char) : Option Nat :=
  if digits.isEmpty then none
  else
    digits.foldlM
      (fun value digit =>
        (Json.hexValue? digit).bind fun next =>
          if next < base then some (value * base + next) else none)
      0

/-- The digits behind the sign of a base, and the base. -/
def basedDigits? : List Char → Option (Nat × List Char)
  | '0' :: 'x' :: digits => some (16, digits)
  | '0' :: 'o' :: digits => some (8, digits)
  | '0' :: 'b' :: digits => some (2, digits)
  | _ => none

/-- The size of an unsigned integer. -/
def size? (text digits : List Char) : Option Nat :=
  match basedDigits? digits with
  | some (base, digits) => ofBase? base digits
  | none => if hasLeadingZero text then none else ofBase? 10 digits

/-- The integer that a plain scalar denotes, if it is one of 128 bits. -/
def integer? (text : List Char) : Option Int :=
  match text with
  | '-' :: digits => do
      let size ← size? text digits
      if size ≤ Nat.pow 2 127 then some (-size) else none
  | '+' :: digits => bounded (size? text digits)
  | digits => bounded (size? text digits)
where
  /-- A size of at most 128 bits. -/
  bounded (size : Option Nat) : Option Int := do
    let size ← size
    if size < Nat.pow 2 128 then some size else none

/-- What a plain scalar that denotes a double is read as: a number, or null where it is
infinite or undefined. -/
def double? (text : List Char) : Option Value :=
  let unsigned :=
    match text with
    | '+' :: rest => rest
    | rest => rest
  let words := [".inf", ".Inf", ".INF"].map String.toList
  let undefinedWords := [".nan", ".NaN", ".NAN"].map String.toList
  if unsigned.length < text.length && (Decimal.sign unsigned).2.length < unsigned.length then none
  else if words.contains unsigned || words.contains (text.drop 1) && text.head? == some '-' ||
      undefinedWords.contains text then some .null
  else
    match Decimal.double? unsigned with
    | none => none
    | some number =>
        if finite : number.isFinite = true then some (.number (.double number finite)) else none

/-- Whether a plain scalar denotes null. -/
def isNull (text : String) : Bool :=
  text == "~" || text == "null" || text == "Null" || text == "NULL"

/-- The truth value that a plain scalar denotes. -/
def boolean? (text : String) : Option Bool :=
  if text == "true" || text == "True" || text == "TRUE" then some true
  else if text == "false" || text == "False" || text == "FALSE" then some false
  else none

/-- The value of an integer, which has to fit 64 bits. -/
def integerValue? (number : Int) : Option Value :=
  let fits := -(Nat.pow 2 63 : Int) ≤ number && number < Nat.pow 2 64
  if fits then some (.number (.integer number)) else none

/-- The value of a plain scalar by the core schema. -/
def plainValue? (text : String) : Option Value :=
  let characters := text.toList
  if text.isEmpty || isNull text then some .null
  else
    match boolean? text with
    | some value => some (.boolean value)
    | none =>
        match integer? characters with
        | some number => integerValue? number
        | none =>
            if hasLeadingZero characters then some (.text text)
            else some ((double? characters).getD (.text text))

/-- Whether a tag is private to an application. -/
def isCustom (tag : Option String) : Bool :=
  tag.any fun tag => tag.toList.head? == some '!'

/-- The value of a scalar.  A tag of the core schema demands its kind, another standard tag
makes a text, and a custom tag is refused. -/
def scalarValue? (tag : Option String) (text : String) (plain : Bool) : Option Value :=
  match tag with
  | none => if plain then plainValue? text else some (.text text)
  | some name =>
      if isCustom tag then none
      else if name == "tag:yaml.org,2002:bool" then (boolean? text).map .boolean
      else if name == "tag:yaml.org,2002:int" then (integer? text.toList).bind integerValue?
      else if name == "tag:yaml.org,2002:float" then double? text.toList
      else if name == "tag:yaml.org,2002:null" then if isNull text then some .null else none
      else some (.text text)

/-- The numbers of the anchors met so far.  An anchor is numbered by the count of the names
that have been met before. -/
abbrev Anchors :=
  List (String × Nat)

/-- Take note of an anchor, whose name may have been met before. -/
def Anchors.note (anchors : Anchors) (properties : Properties String) :
    Properties Nat × Anchors :=
  match properties.anchor with
  | none => (⟨none, properties.tag⟩, anchors)
  | some name =>
      let number := anchors.length
      let others := anchors.filter fun entry => entry.1 != name
      (⟨some number, properties.tag⟩, others ++ [(name, number)])

mutual

/-- A node with numbered anchors and references, which fails where a name is referred to that
has not been met. -/
def numbered? (anchors : Anchors) : Node String → Option (Node Nat × Anchors)
  | .alias name => (anchors.lookup name).map fun number => (.alias number, anchors)
  | .scalar properties text plain =>
      let (properties, anchors) := anchors.note properties
      some (.scalar properties text plain, anchors)
  | .sequence properties items => do
      let (properties, anchors) := anchors.note properties
      let (items, anchors) ← numberedItems? anchors items
      return (.sequence properties items, anchors)
  | .mapping properties pairs => do
      let (properties, anchors) := anchors.note properties
      let (pairs, anchors) ← numberedPairs? anchors pairs
      return (.mapping properties pairs, anchors)

/-- The entries of a sequence with numbered anchors. -/
def numberedItems? (anchors : Anchors) :
    List (Node String) → Option (List (Node Nat) × Anchors)
  | [] => some ([], anchors)
  | item :: rest => do
      let (item, anchors) ← numbered? anchors item
      let (rest, anchors) ← numberedItems? anchors rest
      return (item :: rest, anchors)

/-- The pairs of a mapping with numbered anchors. -/
def numberedPairs? (anchors : Anchors) :
    List (Node String × Node String) → Option (List (Node Nat × Node Nat) × Anchors)
  | [] => some ([], anchors)
  | (key, value) :: rest => do
      let (key, anchors) ← numbered? anchors key
      let (value, anchors) ← numbered? anchors value
      let (rest, anchors) ← numberedPairs? anchors rest
      return ((key, value) :: rest, anchors)

end

/-- A node under the number of its anchor. -/
def underNumber (properties : Properties Nat) (node : Node Nat) : List (Nat × Node Nat) :=
  properties.anchor.toList.map fun number => (number, node)

mutual

/-- The nodes that have anchors, in the order in which they begin. -/
def anchored : Node Nat → List (Nat × Node Nat)
  | .alias _ => []
  | .scalar properties text plain => underNumber properties (.scalar properties text plain)
  | .sequence properties items =>
      underNumber properties (.sequence properties items) ++ anchoredItems items
  | .mapping properties pairs =>
      underNumber properties (.mapping properties pairs) ++ anchoredPairs pairs

/-- The nodes that have anchors in the entries of a sequence. -/
def anchoredItems : List (Node Nat) → List (Nat × Node Nat)
  | [] => []
  | item :: rest => anchored item ++ anchoredItems rest

/-- The nodes that have anchors in the pairs of a mapping. -/
def anchoredPairs : List (Node Nat × Node Nat) → List (Nat × Node Nat)
  | [] => []
  | (key, value) :: rest => anchored key ++ anchored value ++ anchoredPairs rest

end

mutual

/-- How many steps it takes to walk through a node: one for a scalar or a reference, and two
for the ends of a sequence or a mapping. -/
def steps : Node Nat → Nat
  | .alias _ => 1
  | .scalar _ _ _ => 1
  | .sequence _ items => stepsItems items + 2
  | .mapping _ pairs => stepsPairs pairs + 2

/-- The steps through the entries of a sequence. -/
def stepsItems : List (Node Nat) → Nat
  | [] => 0
  | item :: rest => steps item + stepsItems rest

/-- The steps through the pairs of a mapping. -/
def stepsPairs : List (Node Nat × Node Nat) → Nat
  | [] => 0
  | (key, value) :: rest => steps key + steps value + stepsPairs rest

end

/-- What references stand for, and how many may be followed. -/
structure References where
  /-- The nodes with the numbers of their anchors, the last one first. -/
  nodes : List (Nat × Node Nat)
  /-- The greatest number of references to follow. -/
  limit : Nat

/-- The node of a reference, if it may be followed after the given number of others. -/
def References.node? (references : References) (followed number : Nat) : Option (Node Nat) :=
  if followed < references.limit then references.nodes.lookup number else none

/-- The text of a key and the number of references followed so far. -/
def key? (references : References) (followed : Nat) (node : Node Nat) : Option (String × Nat) :=
  match node with
  | .scalar _ text _ => some (text, followed)
  | .alias number =>
      match references.node? followed number with
      | some (.scalar _ text _) => some (text, followed + 1)
      | _ => none
  | _ => none

mutual

/-- The value of a node, in which sequences and mappings are nested to a depth at most, and
the number of references followed so far. -/
def value? (references : References) : Nat → Nat → Nat → Node Nat → Option (Value × Nat)
  | 0, _, _, _ => none
  | fuel + 1, depth, followed, node =>
      match node with
      | .alias number => do
          let target ← references.node? followed number
          value? references fuel depth (followed + 1) target
      | .scalar properties text plain =>
          (scalarValue? properties.tag text plain).map fun value => (value, followed)
      | .sequence properties items =>
          if isCustom properties.tag || depth = 0 then none
          else do
            let (items, followed) ← items? references fuel (depth - 1) followed items
            return (.list items, followed)
      | .mapping properties pairs =>
          if isCustom properties.tag || depth = 0 then none
          else do
            let (pairs, followed) ← pairs? references fuel (depth - 1) followed pairs
            return (.object (Members.ofPairs pairs), followed)

/-- The values of the entries of a sequence. -/
def items? (references : References) :
    Nat → Nat → Nat → List (Node Nat) → Option (List Value × Nat)
  | 0, _, _, _ => none
  | _ + 1, _, followed, [] => some ([], followed)
  | fuel + 1, depth, followed, item :: rest => do
      let (item, followed) ← value? references fuel depth followed item
      let (rest, followed) ← items? references fuel depth followed rest
      return (item :: rest, followed)

/-- The members that the pairs of a mapping denote. -/
def pairs? (references : References) :
    Nat → Nat → Nat → List (Node Nat × Node Nat) → Option (List (String × Value) × Nat)
  | 0, _, _, _ => none
  | _ + 1, _, followed, [] => some ([], followed)
  | fuel + 1, depth, followed, (key, value) :: rest => do
      let (key, followed) ← key? references followed key
      let (value, followed) ← value? references fuel depth followed value
      let (rest, followed) ← pairs? references fuel depth followed rest
      return ((key, value) :: rest, followed)

end

/-- The greatest depth to which sequences and mappings may be nested. -/
def greatestDepth : Nat :=
  128

/-- The value of the node of a document.  A hundred references may be followed for each step
through it. -/
def nodeValue? (node : Node String) : Option Value := do
  let (node, _) ← numbered? [] node
  let references : References := ⟨(anchored node).reverse, 100 * steps node⟩
  let fuel := (greatestDepth + 2) * (steps node + 3)
  let (value, _) ← value? references fuel greatestDepth 0 node
  return value

/-- The value of a document in YAML. -/
def read? (text : String) : Option Value := do
  match ← node? (← tokens? text) with
  | none => return .null
  | some node => nodeValue? node

end Yaml
end DataSuite
