import DataSuite.Yaml.Token

/-!
# Nodes of a YAML document

The tokens of a stream are put together to the node of its only document.  A node is a
reference, a scalar, a sequence or a mapping; where a node is left out an empty plain
scalar stands in its place.
-/

namespace DataSuite
namespace Yaml

/-- What may be written in front of a node. -/
structure Properties (Name : Type) where
  /-- The name under which the node can be referred to. -/
  anchor : Option Name
  /-- The tag with its handle expanded. -/
  tag : Option String
deriving DecidableEq

/-- A part of a document, in which anchors have names of some type. -/
inductive Node (Name : Type) where
  /-- A reference to another node. -/
  | alias (name : Name)
  /-- A scalar, plain or not. -/
  | scalar (properties : Properties Name) (text : String) (plain : Bool)
  /-- Nodes in order. -/
  | sequence (properties : Properties Name) (items : List (Node Name))
  /-- Pairs of a key and a value in order. -/
  | mapping (properties : Properties Name) (pairs : List (Node Name × Node Name))

namespace Node

/-- No properties. -/
def bare : Properties String :=
  ⟨none, none⟩

/-- What stands in the place of a node that is left out. -/
def omitted : Node String :=
  .scalar bare "" true

/-- The abbreviations of tags that a document begins with. -/
abbrev Abbreviations :=
  List (String × String)

/-- A tag with its handle expanded. -/
def expanded? (abbreviations : Abbreviations) (handle suffix : String) : Option String :=
  if handle.isEmpty then some suffix
  else (abbreviations.lookup handle).map (· ++ suffix)

/-- The properties in front of a node, and what stands behind them. -/
def properties? (abbreviations : Abbreviations) :
    List Token → Option (Properties String × List Token)
  | .anchor name :: .tag handle suffix :: rest =>
      (expanded? abbreviations handle suffix).map fun tag => (⟨some name, some tag⟩, rest)
  | .tag handle suffix :: .anchor name :: rest =>
      (expanded? abbreviations handle suffix).map fun tag => (⟨some name, some tag⟩, rest)
  | .anchor name :: rest => some (⟨some name, none⟩, rest)
  | .tag handle suffix :: rest =>
      (expanded? abbreviations handle suffix).map fun tag => (⟨none, some tag⟩, rest)
  | rest => some (bare, rest)

/-- The lone exclamation mark leaves the tag of a scalar open. -/
def scalarProperties (properties : Properties String) : Properties String :=
  if properties.tag == some "!" then { properties with tag := none } else properties

/-- Whether a token ends the place of a node in a block mapping. -/
def endsMappingNode : List Token → Bool
  | .key :: _ => true
  | .value :: _ => true
  | .blockEnd :: _ => true
  | _ => false

/-- Whether a token ends the place of an entry of a block sequence. -/
def endsEntry : List Token → Bool
  | .blockEntry :: _ => true
  | .blockEnd :: _ => true
  | _ => false

/-- Whether a token ends the place of an entry of a sequence that is not indented. -/
def endsLooseEntry (tokens : List Token) : Bool :=
  endsEntry tokens || endsMappingNode tokens

/-- Whether a token ends the place of a node between brackets with a closing one. -/
def endsFlowNode (closing : Token) : List Token → Bool
  | .flowEntry :: _ => true
  | token :: _ => token == closing
  | [] => false

mutual

/-- The node ahead, which may be a block or not, and a sequence that is not indented or
not; and what stands behind it. -/
def ofTokens? (abbreviations : Abbreviations) :
    Nat → Bool → Bool → List Token → Option (Node String × List Token)
  | 0, _, _, _ => none
  | _ + 1, _, _, .alias name :: rest => some (.alias name, rest)
  | fuel + 1, block, loose, tokens => do
      let (properties, rest) ← properties? abbreviations tokens
      match rest with
      | .scalar text plain :: rest =>
          return (.scalar (scalarProperties properties) text plain, rest)
      | .flowSequence :: rest => do
          let (items, rest) ← flowItems? abbreviations fuel true rest
          return (.sequence properties items, rest)
      | .flowMapping :: rest => do
          let (pairs, rest) ← flowPairs? abbreviations fuel true rest
          return (.mapping properties pairs, rest)
      | .blockEntry :: _ =>
          if loose then do
            let (items, rest) ← looseItems? abbreviations fuel rest
            return (.sequence properties items, rest)
          else if properties == bare then none
          else return (.scalar properties "" true, rest)
      | .blockSequence :: inner =>
          if block then do
            let (items, rest) ← blockItems? abbreviations fuel inner
            return (.sequence properties items, rest)
          else if properties == bare then none
          else return (.scalar properties "" true, rest)
      | .blockMapping :: inner =>
          if block then do
            let (pairs, rest) ← blockPairs? abbreviations fuel inner
            return (.mapping properties pairs, rest)
          else if properties == bare then none
          else return (.scalar properties "" true, rest)
      | rest =>
          if properties == bare then none
          else return (.scalar properties "" true, rest)

/-- The entries of an indented sequence. -/
def blockItems? (abbreviations : Abbreviations) :
    Nat → List Token → Option (List (Node String) × List Token)
  | 0, _ => none
  | fuel + 1, tokens =>
      match tokens with
      | .blockEnd :: rest => some ([], rest)
      | .blockEntry :: rest => do
          let (item, rest) ←
            if endsEntry rest then some (omitted, rest)
            else ofTokens? abbreviations fuel true false rest
          let (items, rest) ← blockItems? abbreviations fuel rest
          return (item :: items, rest)
      | _ => none

/-- The entries of a sequence that is not indented. -/
def looseItems? (abbreviations : Abbreviations) :
    Nat → List Token → Option (List (Node String) × List Token)
  | 0, _ => none
  | fuel + 1, tokens =>
      match tokens with
      | .blockEntry :: rest => do
          let (item, rest) ←
            if endsLooseEntry rest then some (omitted, rest)
            else ofTokens? abbreviations fuel true false rest
          let (items, rest) ← looseItems? abbreviations fuel rest
          return (item :: items, rest)
      | rest => some ([], rest)

/-- The pairs of a mapping in block style. -/
def blockPairs? (abbreviations : Abbreviations) :
    Nat → List Token → Option (List (Node String × Node String) × List Token)
  | 0, _ => none
  | fuel + 1, tokens =>
      match tokens with
      | .blockEnd :: rest => some ([], rest)
      | .key :: rest => do
          let (key, rest) ←
            if endsMappingNode rest then some (omitted, rest)
            else ofTokens? abbreviations fuel true true rest
          let (value, rest) ← blockValue? abbreviations fuel rest
          let (pairs, rest) ← blockPairs? abbreviations fuel rest
          return ((key, value) :: pairs, rest)
      | _ => none

/-- The value of a pair in block style, which may be left out. -/
def blockValue? (abbreviations : Abbreviations) :
    Nat → List Token → Option (Node String × List Token)
  | 0, _ => none
  | fuel + 1, tokens =>
      match tokens with
      | .value :: rest =>
          if endsMappingNode rest then some (omitted, rest)
          else ofTokens? abbreviations fuel true true rest
      | rest => some (omitted, rest)

/-- The entries of a sequence between brackets; all but the first one have a comma in front
of them. -/
def flowItems? (abbreviations : Abbreviations) :
    Nat → Bool → List Token → Option (List (Node String) × List Token)
  | 0, _, _ => none
  | fuel + 1, first, tokens =>
      match tokens with
      | .flowSequenceEnd :: rest => some ([], rest)
      | tokens => do
          let tokens ←
            if first then some tokens
            else
              match tokens with
              | .flowEntry :: rest => some rest
              | _ => none
          match tokens with
          | .flowSequenceEnd :: rest => return ([], rest)
          | .key :: rest => do
              let (key, rest) ←
                if endsFlowNode .flowSequenceEnd rest || rest.head? == some .value then
                  some (omitted, rest.drop 1)
                else ofTokens? abbreviations fuel false false rest
              let (value, rest) ← flowValue? abbreviations fuel .flowSequenceEnd rest
              let (items, rest) ← flowItems? abbreviations fuel false rest
              return (.mapping bare [(key, value)] :: items, rest)
          | tokens => do
              let (item, rest) ← ofTokens? abbreviations fuel false false tokens
              let (items, rest) ← flowItems? abbreviations fuel false rest
              return (item :: items, rest)

/-- The pairs of a mapping between braces; all but the first one have a comma in front of
them. -/
def flowPairs? (abbreviations : Abbreviations) :
    Nat → Bool → List Token → Option (List (Node String × Node String) × List Token)
  | 0, _, _ => none
  | fuel + 1, first, tokens =>
      match tokens with
      | .flowMappingEnd :: rest => some ([], rest)
      | tokens => do
          let tokens ←
            if first then some tokens
            else
              match tokens with
              | .flowEntry :: rest => some rest
              | _ => none
          match tokens with
          | .flowMappingEnd :: rest => return ([], rest)
          | .key :: rest => do
              let (key, rest) ←
                if endsFlowNode .flowMappingEnd rest || rest.head? == some .value then
                  some (omitted, rest)
                else ofTokens? abbreviations fuel false false rest
              let (value, rest) ← flowValue? abbreviations fuel .flowMappingEnd rest
              let (pairs, rest) ← flowPairs? abbreviations fuel false rest
              return ((key, value) :: pairs, rest)
          | tokens => do
              let (key, rest) ← ofTokens? abbreviations fuel false false tokens
              let (pairs, rest) ← flowPairs? abbreviations fuel false rest
              return ((key, omitted) :: pairs, rest)

/-- The value of a pair between brackets, which may be left out. -/
def flowValue? (abbreviations : Abbreviations) :
    Nat → Token → List Token → Option (Node String × List Token)
  | 0, _, _ => none
  | fuel + 1, closing, tokens =>
      match tokens with
      | .value :: rest =>
          if endsFlowNode closing rest then some (omitted, rest)
          else ofTokens? abbreviations fuel false false rest
      | rest => some (omitted, rest)

end

end Node

/-- The abbreviations that every document has. -/
def standardAbbreviations : Node.Abbreviations :=
  [("!", "!"), ("!!", "tag:yaml.org,2002:")]

/-- The abbreviations that the directives in front of a document declare.  The version may
be declared once, and each handle once. -/
def directives? (versioned : Bool) (declared : Node.Abbreviations) :
    List Token → Option (Node.Abbreviations × List Token)
  | .version major minor :: rest =>
      if versioned || major != 1 || (minor != 1 && minor != 2) then none
      else directives? true declared rest
  | .abbreviation handle tag :: rest =>
      if (declared.lookup handle).isSome then none
      else directives? versioned (declared ++ [(handle, tag)]) rest
  | rest => some (declared ++ standardAbbreviations, rest)

/-- The node behind the mark in front of a document. -/
def content? (abbreviations : Node.Abbreviations) (tokens : List Token) :
    Option (Node String × List Token) :=
  match tokens with
  | [] => some (Node.omitted, [])
  | .version _ _ :: _ => some (Node.omitted, tokens)
  | .abbreviation _ _ :: _ => some (Node.omitted, tokens)
  | .documentStart :: _ => some (Node.omitted, tokens)
  | .documentEnd :: _ => some (Node.omitted, tokens)
  | _ => Node.ofTokens? abbreviations (2 * tokens.length + 2) true false tokens

/-- The node of a document that begins without a mark, or behind directives and a mark. -/
def firstNode? (tokens : List Token) : Option (Node String × List Token) :=
  let marked : Option (Node String × List Token) := do
    let (abbreviations, rest) ← directives? false [] tokens
    match rest with
    | .documentStart :: rest => content? abbreviations rest
    | _ => none
  match tokens with
  | .version _ _ :: _ => marked
  | .abbreviation _ _ :: _ => marked
  | .documentStart :: _ => marked
  | _ => Node.ofTokens? standardAbbreviations (2 * tokens.length + 2) true false tokens

/-- The node of a stream of one document, or nothing for a stream of none. -/
def node? (tokens : List Token) : Option (Option (Node String)) :=
  if tokens.isEmpty then some none
  else do
    let (node, rest) ← firstNode? tokens
    if rest.all (· == .documentEnd) then return some node else none

end Yaml
end DataSuite
