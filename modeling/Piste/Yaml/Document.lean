import Piste.Table
import Piste.Yaml.Tokens

/-!
# Documents

The node tree of a stream that holds one document. An alias stands for a node by the number of its
anchor, so that a node may hold an alias of itself.
-/

namespace Piste.Yaml

/-- What may stand before a node: the number of its anchor, and its tag. -/
structure Properties where
  anchor : Option Nat
  tag : Option Tag
  deriving Repr

/-- A node of a document. -/
inductive Node where
  | scalar (properties : Properties) (style : Style) (text : String)
  | sequence (properties : Properties) (items : List Node)
  | mapping (properties : Properties) (entries : List (Node × Node))
  | aliasOf (anchor : Nat)
  deriving Repr

namespace Node

/-- A node that is left out. -/
def missing : Node := scalar ⟨none, none⟩ .plain ""

mutual

/-- Number of parts: scalars and aliases count once, collections once for each end. -/
def size : Node → Nat
  | scalar _ _ _ => 1
  | aliasOf _ => 1
  | sequence _ items => 2 + sizeOfItems items
  | mapping _ entries => 2 + sizeOfEntries entries

/-- Number of parts of nodes. -/
def sizeOfItems : List Node → Nat
  | [] => 0
  | node :: rest => node.size + sizeOfItems rest

/-- Number of parts of keys and values. -/
def sizeOfEntries : List (Node × Node) → Nat
  | [] => 0
  | (key, value) :: rest => key.size + value.size + sizeOfEntries rest

end

/-- The entry for a node in the list of anchors. -/
def listed (properties : Properties) (node : Node) : List (Nat × Node) :=
  match properties.anchor with
  | some anchor => [(anchor, node)]
  | none => []

mutual

/-- The nodes that have an anchor, with its number, in the order in which they start. -/
def anchors : Node → List (Nat × Node)
  | scalar properties style text => listed properties (scalar properties style text)
  | aliasOf _ => []
  | sequence properties items =>
    listed properties (sequence properties items) ++ anchorsOfItems items
  | mapping properties entries =>
    listed properties (mapping properties entries) ++ anchorsOfEntries entries

/-- The nodes among items and below that have an anchor. -/
def anchorsOfItems : List Node → List (Nat × Node)
  | [] => []
  | node :: rest => node.anchors ++ anchorsOfItems rest

/-- The nodes among keys and values and below that have an anchor. -/
def anchorsOfEntries : List (Node × Node) → List (Nat × Node)
  | [] => []
  | (key, value) :: rest => key.anchors ++ value.anchors ++ anchorsOfEntries rest

end

end Node

/-- A document: its root, unless the stream is empty, and the nodes that aliases stand for. -/
structure Document where
  root : Option Node
  targets : Table Nat Node

namespace Document

/-- The document with the given root. Of two anchors with one number the later one counts. -/
def ofRoot (root : Node) : Document where
  root := some root
  targets := Table.ofList root.anchors

/-- The document of a stream without content. -/
def empty : Document where
  root := none
  targets := ∅

/-- Number of parts. -/
def size (document : Document) : Nat :=
  (document.root.map Node.size).getD 1

end Document

namespace Grammar

/-- What has been read of a document: the tokens to come, the tag handles, and the anchors
by name. -/
structure State where
  tokens : List Token
  handles : Table String Tag
  anchors : Table String Nat

/-- Readers of tokens. -/
abbrev Reader := StateT State Option

/-- The next token. -/
def peek : Reader Token := do
  return (← get).tokens.head?.getD .streamEnd

/-- Drops the next token. -/
def advance : Reader Unit :=
  modify fun s => { s with tokens := s.tokens.drop 1 }

/-- Drops the next token if it is the given one. -/
def accept (token : Token) : Reader Bool := do
  if (← peek) = token then
    advance
    return true
  else return false

/-- Drops the next token, which has to be the given one. -/
def expect (token : Token) : Reader Unit := do
  if !(← accept token) then failure

/-- The tag written with a handle. -/
def expandTag (handle : String) (suffix : Tag) : Reader Tag := do
  if handle = "" then return suffix
  else match (← get).handles.get? handle with
    | some leading => return leading ++ suffix
    | none => failure

/-- Numbers an anchor. The number is that of the names given so far, even if the name is given
again. -/
def numberAnchor (name : String) : Reader Nat := do
  let s ← get
  let number := s.anchors.size
  set { s with anchors := s.anchors.insert name number }
  return number

/-- Reads an anchor, if there is one. -/
def anchor? : Reader (Option String) := do
  match ← peek with
  | .anchor name =>
    advance
    return some name
  | _ => return none

/-- Reads a tag, if there is one. -/
def tag? : Reader (Option (String × Tag)) := do
  match ← peek with
  | .tag handle suffix =>
    advance
    return some (handle, suffix)
  | _ => return none

/-- Reads an anchor and a tag in either order. -/
def properties : Reader Properties := do
  let before ← anchor?
  let tag ← tag?
  let name ← if before.isNone && tag.isSome then anchor? else pure before
  let tag ← tag.mapM fun (handle, suffix) => expandTag handle suffix
  let anchor ← name.mapM numberAnchor
  return { anchor, tag }

/-- Where a node stands: in a flow collection, in a block collection, or as key or value of a block
mapping, where a block sequence need not be indented. -/
inductive Context where
  | flow
  | block
  | blockEntry
  deriving DecidableEq

mutual

/-- Reads a node. -/
def node (context : Context) : Nat → Reader Node
  | 0 => failure
  | fuel + 1 => do
    match ← peek with
    | .aliasOf name =>
      advance
      match (← get).anchors.get? name with
      | some anchor => return .aliasOf anchor
      | none => failure
    | _ =>
      let given ← properties
      match ← peek with
      | .scalar style text =>
        advance
        return .scalar given style text
      | .flowSequence =>
        advance
        return .sequence given (← flowItems true fuel)
      | .flowMapping =>
        advance
        return .mapping given (← flowEntries true fuel)
      | token =>
        if token = .entry && context = .blockEntry then
          return .sequence given (← looseItems fuel)
        else if token = .blockSequence && context ≠ .flow then do
          advance
          return .sequence given (← blockItems fuel)
        else if token = .blockMapping && context ≠ .flow then do
          advance
          return .mapping given (← blockEntries fuel)
        else if given.anchor.isSome || given.tag.isSome then return .scalar given .plain ""
        else failure

/-- Reads a node, unless one of the given tokens shows that it is left out. -/
def optional (context : Context) (ends : List Token) : Nat → Reader Node
  | 0 => failure
  | fuel + 1 => do
    if (← peek) ∈ ends then return .missing else node context fuel

/-- Reads the items of a block sequence up to its end. -/
def blockItems : Nat → Reader (List Node)
  | 0 => failure
  | fuel + 1 => do
    if ← accept .entry then
      let item ← optional .block [.entry, .blockEnd] fuel
      return item :: (← blockItems fuel)
    else
      expect .blockEnd
      return []

/-- Reads the items of a block sequence that is not indented. -/
def looseItems : Nat → Reader (List Node)
  | 0 => failure
  | fuel + 1 => do
    if ← accept .entry then
      let item ← optional .block [.entry, .key, .value, .blockEnd] fuel
      return item :: (← looseItems fuel)
    else return []

/-- Reads the entries of a block mapping up to its end. -/
def blockEntries : Nat → Reader (List (Node × Node))
  | 0 => failure
  | fuel + 1 => do
    if ← accept .key then
      let key ← optional .blockEntry [.key, .value, .blockEnd] fuel
      let value ← if ← accept .value then optional .blockEntry [.key, .value, .blockEnd] fuel
        else pure .missing
      return (key, value) :: (← blockEntries fuel)
    else
      expect .blockEnd
      return []

/-- Reads a value in a flow collection, which may be left out. -/
def flowValue (ends : List Token) : Nat → Reader Node
  | 0 => failure
  | fuel + 1 => do
    if ← accept .value then optional .flow ends fuel else return .missing

/-- Reads the one entry of a mapping among the items of a flow sequence. A key that is left out
takes the next token with it. -/
def singleEntry : Nat → Reader (Node × Node)
  | 0 => failure
  | fuel + 1 => do
    let key ←
      if (← peek) ∈ [Token.value, .comma, .flowSequenceEnd] then do
        advance
        pure .missing
      else node .flow fuel
    return (key, ← flowValue [.comma, .flowSequenceEnd] fuel)

/-- Reads the items of a flow sequence up to its end. -/
def flowItems (first : Bool) : Nat → Reader (List Node)
  | 0 => failure
  | fuel + 1 => do
    if ← accept .flowSequenceEnd then return []
    else
      if !first then expect .comma
      if ← accept .key then
        let entry ← singleEntry fuel
        return .mapping ⟨none, none⟩ [entry] :: (← flowItems false fuel)
      else if ← accept .flowSequenceEnd then return []
      else
        let item ← node .flow fuel
        return item :: (← flowItems false fuel)

/-- Reads the entries of a flow mapping up to its end. -/
def flowEntries (first : Bool) : Nat → Reader (List (Node × Node))
  | 0 => failure
  | fuel + 1 => do
    if ← accept .flowMappingEnd then return []
    else
      if !first then expect .comma
      if ← accept .key then
        let key ← optional .flow [.value, .comma, .flowMappingEnd] fuel
        let value ← flowValue [.comma, .flowMappingEnd] fuel
        return (key, value) :: (← flowEntries false fuel)
      else if ← accept .flowMappingEnd then return []
      else
        let key ← node .flow fuel
        return (key, .missing) :: (← flowEntries false fuel)

end

/-- The handles that need no directive. -/
def standardHandles : Table String Tag :=
  Table.ofList [("!", Tag.bare), ("!!", Text.Utf8.encode "tag:yaml.org,2002:")]

/-- Reads directives: at most one version, which has to be 1.1 or 1.2, and at most one prefix for
each handle. -/
def directives (versioned : Bool) (given : Table String Tag) :
    List Token → Option (Table String Tag × List Token)
  | .version major minor :: rest =>
    if versioned || major ≠ 1 || (minor ≠ 1 && minor ≠ 2) then none
    else directives true given rest
  | .tagHandle handle leading :: rest =>
    if given.contains handle then none
    else directives versioned (given.insert handle leading) rest
  | rest => some (given, rest)

/-- The standard handles, except those that are given. -/
def withStandard (given : Table String Tag) : Table String Tag :=
  Table.ofList (standardHandles.entries ++ given.entries)

/-- Reads the content of the only document. Only document ends may follow. -/
def content (isMissing : Bool) (handles : Table String Tag) (tokens : List Token) :
    Option Document := do
  let (root, s) ←
    if isMissing then some (Node.missing, { tokens, handles, anchors := ∅ })
    else (node .block (4 * tokens.length + 4)).run { tokens, handles, anchors := ∅ }
  if s.tokens.dropWhile (· = .documentEnd) = [.streamEnd] then some (.ofRoot root) else none

/-- Whether a token stands between documents. -/
def endsContent : Token → Bool
  | .version _ _ | .tagHandle _ _ | .documentStart | .documentEnd | .streamEnd => true
  | _ => false

/-- Reads a stream of at most one document. -/
def document? (tokens : List Token) : Option Document :=
  match tokens with
  | [.streamEnd] => some .empty
  | .version _ _ :: _ | .tagHandle _ _ :: _ | .documentStart :: _ => do
    let (given, rest) ← directives false ∅ tokens
    match rest with
    | .documentStart :: rest =>
      content (rest.head?.any endsContent) (withStandard given) rest
    | _ => none
  | _ => content false standardHandles tokens

end Grammar

/-- The document of a text that holds at most one. -/
def Document.ofString? (text : String) : Option Document := do
  Grammar.document? (← tokens? text)

end Piste.Yaml
