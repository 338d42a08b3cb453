import Reroute.Yaml.Token

/-!
The node that a YAML text holds.  A node is a scalar, a sequence or a mapping, whose entries
keep their order, repeated keys included.  An alias stands for the node that was given its
name before, and what is left out is an empty scalar, written as a null.
-/
namespace Reroute.Yaml

/-- A scalar: its text, whether it was written plain, and its tag. -/
structure Scalar where
  text : Text
  plain : Bool
  tag : Option (Text × Text)
deriving Repr, DecidableEq

/-- What stands for a node that is left out. -/
def Scalar.empty : Scalar := ⟨['~'], true, none⟩

/-- A node. -/
inductive Node where
  | scalar (value : Scalar)
  | sequence (items : List Node)
  | mapping (entries : List (Node × Node))

namespace Node

/-- The node of an entry that is left out. -/
def omitted : Node := .scalar Scalar.empty

/-- The state of the reading: the tokens that are left, and the nodes that have names. -/
structure Reading where
  tokens : List Token
  anchors : List (Text × Node)

/-- A reading that may fail. -/
abbrev Reader := StateT Reading Option

/-- The next token. -/
def peek : Reader (Option Token) := do
  pure (← get).tokens.head?

/-- Step over the next token. -/
def advance : Reader Unit :=
  modify fun reading => { reading with tokens := reading.tokens.tail }

/-- Step over the next token if it is a given one. -/
def accept (token : Token) : Reader Bool := do
  if (← peek) = some token then
    advance
    pure true
  else pure false

/-- Whether the next token is one of a list. -/
def isNext (tokens : List Token) : Reader Bool := do
  pure (((← peek).map tokens.contains).getD false)

/-- The properties of a node: the name it is given, and its tag. -/
structure Properties where
  anchor : Option Text
  tag : Option (Text × Text)

/-- Read one property into those that were read. -/
def readProperty (properties : Properties) : Reader Properties := do
  match ← peek, properties with
  | some (.anchor name), ⟨none, tag⟩ =>
      advance
      pure ⟨some name, tag⟩
  | some (.tag handle suffix), ⟨anchor, none⟩ =>
      advance
      pure ⟨anchor, some (handle, suffix)⟩
  | _, properties => pure properties

/-- Read the properties of a node: at most one of each kind. -/
def readProperties : Reader Properties := do
  readProperty (← readProperty ⟨none, none⟩)

/-- Give a node a name, if there is one. -/
def nameNode (anchor : Option Text) (node : Node) : Reader Node := do
  match anchor with
  | some name => modify fun reading =>
      { reading with anchors := (name, node) :: reading.anchors }
  | none => pure ()
  pure node

/-- The node of a name. -/
def ofAlias (name : Text) : Reader Node := do
  match (← get).anchors.lookup name with
  | some node => pure node
  | none => failure

mutual

/-- Read a node.  Block collections are read only in a block, and entries without a
collection token in front of them only where `bare` says so.  Every node or entry uses up a
token, which is what the fuel counts. -/
def read (block bare : Bool) : Nat → Reader Node
  | 0 => failure
  | fuel + 1 => do
      match ← peek with
      | some (.alias name) =>
          advance
          ofAlias name
      | _ =>
          let properties ← readProperties
          let node ← readContent block bare properties.tag fuel
          match node with
          | some node => nameNode properties.anchor node
          | none =>
              if properties.tag.isSome || properties.anchor.isSome then
                nameNode properties.anchor (.scalar ⟨[], true, properties.tag⟩)
              else failure

/-- Read a node behind its properties, if there is one. -/
def readContent (block bare : Bool) (tag : Option (Text × Text)) :
    Nat → Reader (Option Node)
  | 0 => failure
  | fuel + 1 => do
      match ← peek with
      | some (.scalar plain text) =>
          advance
          pure (some (.scalar ⟨text, plain, tag⟩))
      | some .openSequence =>
          advance
          pure (some (.sequence (← readFlowItems true fuel)))
      | some .openMapping =>
          advance
          pure (some (.mapping (← readFlowEntries true fuel)))
      | some .blockSequence =>
          if block then
            advance
            pure (some (.sequence (← readItems fuel)))
          else pure none
      | some .blockMapping =>
          if block then
            advance
            pure (some (.mapping (← readEntries fuel)))
          else pure none
      | some .entry =>
          if bare then pure (some (.sequence (← readBareItems fuel))) else pure none
      | _ => pure none

/-- Read a node, or what is left out before one of some tokens. -/
def readOr (stops : List Token) (block bare : Bool) : Nat → Reader Node
  | 0 => failure
  | fuel + 1 => do
      if ← isNext stops then pure omitted else read block bare fuel

/-- Read the value of an entry: it is left out where there is no colon. -/
def readValue (stops : List Token) (block bare : Bool) : Nat → Reader Node
  | 0 => failure
  | fuel + 1 => do
      if ← accept .value then readOr stops block bare fuel else pure omitted

/-- Read the entries of a block mapping. -/
def readEntries : Nat → Reader (List (Node × Node))
  | 0 => failure
  | fuel + 1 => do
      if ← accept .blockEnd then pure []
      else
        let stops := [.key, .value, .blockEnd]
        let key ← do
          if ← accept .key then readOr stops true true fuel
          else if ← isNext [.value] then pure omitted
          else failure
        let value ← readValue stops true true fuel
        pure ((key, value) :: (← readEntries fuel))

/-- Read the items of a block sequence. -/
def readItems : Nat → Reader (List Node)
  | 0 => failure
  | fuel + 1 => do
      if ← accept .blockEnd then pure []
      else if ← accept .entry then
        let item ← readOr [.entry, .blockEnd] true false fuel
        pure (item :: (← readItems fuel))
      else failure

/-- Read the items of a block sequence that has no column of its own. -/
def readBareItems : Nat → Reader (List Node)
  | 0 => failure
  | fuel + 1 => do
      if ← accept .entry then
        let item ← readOr [.entry, .key, .value, .blockEnd] true false fuel
        pure (item :: (← readBareItems fuel))
      else pure []

/-- Read the entries of a flow mapping.  A comma stands between two entries and may stand
behind the last. -/
def readFlowEntries (first : Bool) : Nat → Reader (List (Node × Node))
  | 0 => failure
  | fuel + 1 => do
      if ← accept .closeMapping then pure []
      else if first || (← accept .comma) then
        if ← accept .closeMapping then pure []
        else
          let stops := [.comma, .closeMapping]
          let entry ← do
            if ← accept .key then
              let key ← readOr (.value :: stops) false false fuel
              pure (key, ← readValue stops false false fuel)
            else if ← isNext [.value] then
              pure (omitted, ← readValue stops false false fuel)
            else pure (← read false false fuel, omitted)
          pure (entry :: (← readFlowEntries false fuel))
      else failure

/-- Read the items of a flow sequence.  An item with a colon is a mapping of one entry. -/
def readFlowItems (first : Bool) : Nat → Reader (List Node)
  | 0 => failure
  | fuel + 1 => do
      if ← accept .closeSequence then pure []
      else if first || (← accept .comma) then
        if ← accept .closeSequence then pure []
        else
          let stops := [.comma, .closeSequence]
          let item ← do
            if ← accept .key then
              let key ← readOr (.value :: stops) false false fuel
              let value ← readValue stops false false fuel
              pure (.mapping [(key, value)])
            else read false false fuel
          pure (item :: (← readFlowItems false fuel))
      else failure

end

/-- Skip tokens of a kind. -/
def skipAll (token : Token) : Nat → Reader Unit
  | 0 => pure ()
  | fuel + 1 => do
      if ← accept token then skipAll token fuel

/-- Read the node of the only document.  Directives need the mark of a document behind them,
and nothing but the mark of its end may follow the node. -/
def readDocument (fuel : Nat) : Reader Node := do
  let directives ← isNext [.directive]
  skipAll .directive fuel
  let marked ← accept .documentStart
  if (directives && !marked) || (← peek).isNone && !marked then failure
  else
    let stops := [.directive, .documentStart, .documentEnd]
    let node ←
      if marked && ((← isNext stops) || (← peek).isNone) then pure omitted
      else read true false fuel
    skipAll .documentEnd fuel
    if (← peek).isNone then pure node else failure

/-- The node of a text that holds one document. -/
def parse? (s : Text) : Option Node := do
  let tokens ← tokens? s
  let (node, _) ← (readDocument (4 * tokens.length + 4)).run ⟨tokens, []⟩
  pure node

end Node

end Reroute.Yaml
