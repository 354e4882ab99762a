import Piste.Yaml.Value

/-!
# Reading documents

Readers of texts, numbers and collections from the nodes of a document. An error says where in the
document it arose. Aliases are followed, up to a number in proportion to the size of the document,
and values may be nested up to a limit.
-/

namespace Piste.Yaml

/-- A step from a collection to a part of it. A key that is no scalar has no name. -/
inductive Step where
  | field (name : String)
  | item (index : Nat)
  | unnamed
  deriving DecidableEq, Repr

/-- A place in a document: the steps from the root, the last first. -/
abbrev Place := List Step

namespace Place

/-- The place in words. The root has none. -/
def text : Place → String
  | [] => ""
  | step :: outer =>
    let before := text outer
    let dotted := if outer.isEmpty then "" else before ++ "."
    match step with
    | .field name => dotted ++ name
    | .item index => before ++ s!"[{index}]"
    | .unnamed => dotted ++ "?"

end Place

/-- What is wrong with a node. -/
inductive Fault where
  /-- The node is of another kind than expected. -/
  | wrongKind (found expected : String)
  /-- The text of a scalar is not what its tag says. -/
  | wrongText (text expected : String)
  | wrongLength (length : Nat) (expected : String)
  | unknownField (name : String) (known : List String)
  | duplicateField (name : String)
  | missingField (name : String)
  /-- The node has a tag of its own where a value without tags is expected. -/
  | localTag
  /-- An entry is no connection in any of its forms. -/
  | noConnection
  /-- The third text of a connection is not the one that marks a resistor. -/
  | unknownMarker (marker source target expected : String)
  deriving DecidableEq, Repr

/-- Names between backticks, as alternatives. -/
def alternatives : List String → String
  | [a] => s!"`{a}`"
  | [a, b] => s!"`{a}` or `{b}`"
  | names => "one of " ++ ", ".intercalate (names.map fun name => s!"`{name}`")

/-- What is wrong, in one line. -/
def Fault.message : Fault → String
  | wrongKind found expected => s!"invalid type: {found}, expected {expected}"
  | wrongText text expected => s!"invalid value: string {Text.quoted text}, expected {expected}"
  | wrongLength length expected => s!"invalid length {length}, expected {expected}"
  | unknownField name known => s!"unknown field `{name}`, expected {alternatives known}"
  | duplicateField name => s!"duplicate field `{name}`"
  | missingField name => s!"missing field `{name}`"
  | localTag => "untagged and internally tagged enums do not support enum input"
  | noConnection => "data did not match any variant of untagged enum RawConnection"
  | unknownMarker marker source target expected =>
    s!"unknown connection marker '{marker}' between '{source}' and '{target}', " ++
      s!"expected '{expected}'"

/-- Why a text cannot be read. Parsers differ in how they put it, and in whether they add a line and
a column; an error in the words of a parser is `malformed`, whatever they are. -/
inductive ReadError where
  /-- The text is not a stream of one YAML document, in the words of a parser. -/
  | malformed (words : String)
  | wrong (place : Place) (fault : Fault)
  /-- Values are nested too deep. -/
  | tooDeep
  /-- Aliases are followed too often. -/
  | tooManyAliases
  deriving DecidableEq, Repr

/-- The cause in one line. -/
def ReadError.message : ReadError → String
  | malformed words => words
  | wrong [] fault => fault.message
  | wrong place fault => place.text ++ ": " ++ fault.message
  | tooDeep => "recursion limit exceeded"
  | tooManyAliases => "repetition limit exceeded"

/-- Readers of nodes, which count the aliases that they follow. -/
abbrev Reader := StateT Nat (Except ReadError)

namespace Reader

/-- Fails at a place. -/
def fail {α : Type} (place : Place) (fault : Fault) : Reader α :=
  throw (.wrong place fault)

/-- Collections that may stand one in another. -/
def maxDepth : Nat := 128

/-- The node that an alias stands for, or the node itself. -/
def follow (document : Document) (node : Node) : Reader Node := do
  match node with
  | .aliasOf anchor =>
    let followed := (← get) + 1
    set followed
    if 100 * document.size < followed then throw .tooManyAliases
    return (document.targets.get? anchor).getD .missing
  | node => return node

/-- Fails because a node is not what is expected. -/
def unexpected {α : Type} (place : Place) (node : Node) (expected : String) : Reader α :=
  match node with
  | .scalar properties style text =>
    match Plain.ofScalar properties.tag style text with
    | .ok plain => fail place (.wrongKind plain.describe expected)
    | .error kind => fail place (.wrongText text kind)
  | .sequence _ _ => fail place (.wrongKind "sequence" expected)
  | .mapping _ _ => fail place (.wrongKind "map" expected)
  | .aliasOf _ => fail place (.wrongKind "alias" expected)

/-- The text of a scalar of any kind. -/
def text (document : Document) (expected : String) (place : Place) (node : Node) :
    Reader String := do
  match ← follow document node with
  | .scalar _ _ text => return text
  | node => unexpected place node expected

/-- A scalar that may be read as a number: a plain one, or a literal one with the tag for it. -/
def numberText? (tagName : String) : Node → Option String
  | .scalar properties style text =>
    if style = .plain || (style = .literal && properties.tag = some (Plain.coreTag tagName)) then
      some text
    else none
  | _ => none

/-- A whole number of 64 bits without a sign. -/
def nat (document : Document) (place : Place) (node : Node) : Reader Nat := do
  let node ← follow document node
  match numberText? "int" node >>= fun text => Plain.nat? (1 <<< 64) text.toList with
  | some n => return n
  | none => unexpected place node "usize"

/-- A floating-point number. -/
def float (document : Document) (place : Place) (node : Node) : Reader Float := do
  let node ← follow document node
  match numberText? "float" node >>= Plain.float? with
  | some x => return x
  | none => unexpected place node "f64"

/-- A plain scalar without text, which stands for an empty collection. -/
def isMissing : Node → Bool
  | .scalar _ style text => style = .plain && text.isEmpty
  | _ => false

/-- The items of a sequence, with their places. -/
def items (document : Document) (expected : String) (place : Place) (node : Node) :
    Reader (List (Place × Node)) := do
  match ← follow document node with
  | .sequence _ items => return items.zipIdx.map fun (item, i) => (.item i :: place, item)
  | node => if isMissing node then return [] else unexpected place node expected

/-- The keys and values of a mapping. -/
def entries (document : Document) (expected : String) (place : Place) (node : Node) :
    Reader (List (Node × Node)) := do
  match ← follow document node with
  | .mapping _ entries => return entries
  | node => if isMissing node then return [] else unexpected place node expected

/-- The place of the value of a key. -/
def valuePlace (place : Place) (key : Node) : Place :=
  match key with
  | .scalar _ _ text => .field text :: place
  | _ => .unnamed :: place

/-- A sequence of any length. -/
def list {α : Type} (document : Document) (read : Place → Node → Reader α) (place : Place)
    (node : Node) : Reader (List α) := do
  (← items document "a sequence" place node).mapM fun (place, item) => read place item

/-- A value. Collections may stand in it one in another as often as `depth` says. -/
def value (document : Document) : Nat → Place → Node → Reader Value
  | depth, place, node => do
    let node ← follow document node
    let tag := match node with
      | .scalar properties _ _ | .sequence properties _ | .mapping properties _ => properties.tag
      | .aliasOf _ => none
    if tag.any fun tag => Plain.isLocal tag && (Text.Utf8.decode? tag).isSome then
      fail place .localTag
    else match depth, node with
      | _, .scalar properties style text =>
        match Plain.ofScalar properties.tag style text with
        | .ok .null => return .null
        | .ok (.bool b) => return .bool b
        | .ok (.nat n) => return .nat n
        | .ok (.int i) => return .int i
        | .ok (.float x) => return .float x
        | .ok (.text s) => return .text s
        | _ => unexpected place node "any value"
      | _, .aliasOf _ => unexpected place node "any value"
      | 0, _ => throw .tooDeep
      | depth + 1, .sequence _ items => do
        let values ← items.zipIdx.mapM fun (item, i) => value document depth (.item i :: place) item
        return .sequence values
      | depth + 1, .mapping _ entries => do
        let values ← entries.mapM fun (key, node) => do
          let keyValue ← value document depth place key
          let value ← value document depth (valuePlace place key) node
          return (keyValue, value)
        return .mapping values

/-- How a text is reported that is not one document. -/
def notOneDocument : String := "the text is not one YAML document"

/-- Reads a document. -/
def run {α : Type} (read : Document → Reader α) (text : String) : Except ReadError α :=
  match Document.ofString? text with
  | none => .error (.malformed notOneDocument)
  | some document => (read document).run' 0

end Reader

end Piste.Yaml
