import Phrasebook.Yaml.Tag
import Phrasebook.Yaml.Token

/-!
# Nodes of documents

The tokens of a document make one node.  An alias stands for a copy of the
node that its anchor names.
-/

namespace Phrasebook.Yaml

/-- A node of a document. -/
inductive Node where
  | scalar (tag : Tag) (text : List Char)
  | sequence (tag : Tag) (items : List Node)
  | mapping (tag : Tag) (fields : List (Node × Node))
  /-- An alias for a node inside that node. -/
  | loop
deriving Inhabited

/-- What is left of the tokens, the anchors that are named, and the handles of tags. -/
structure Reading where
  tokens : List Token
  anchors : List (List Char × Node) := []
  handles : List (List Char × List Char) := []

abbrev Reader :=
  StateT Reading (Except Fault)

namespace Reader

def fail {α : Type} : Reader α :=
  throw Fault.malformed

/-- The next token. -/
def peek : Reader (Option Token) := do
  return (← get).tokens.head?

/-- Drop the next token. -/
def drop : Reader Unit :=
  modify fun reading => { reading with tokens := reading.tokens.drop 1 }

/-- Drop the next token if it is a given one. -/
def accept (token : Token) : Reader Bool := do
  if (← peek) == some token then
    drop
    return true
  return false

/-- Drop the next token, which must be a given one. -/
def expect (token : Token) : Reader Unit := do
  if !(← accept token) then fail

/-- Whether the next token is one of some given ones. -/
def isAt (tokens : List Token) : Reader Bool := do
  return (← peek).any tokens.contains

/-- A scalar that is not written. -/
def empty : Node :=
  .scalar .null []

/-- The handles that need not be declared. -/
def knownHandles : List (List Char × List Char) :=
  [("!".toList, "!".toList), ("!!".toList, tagPrefix.toList)]

/-- An anchor and a tag before a node. -/
structure Properties where
  anchor? : Option (List Char) := none
  /-- The full name of the tag; a lone exclamation mark is none. -/
  tag? : Option String := none
  isTagged : Bool := false

def tagName (handle? : Option (List Char)) (suffix : List Char) : Reader String := do
  match handle? with
  | none => return String.ofList suffix
  | some handle =>
    match ((← get).handles ++ knownHandles).lookup handle with
    | some start => return String.ofList (start ++ suffix)
    | none => fail

/-- Read a tag if there is one. -/
def readTag (properties : Properties) : Reader Properties := do
  match (← peek) with
  | some (.tag handle? suffix) =>
    drop
    let name ← tagName handle? suffix
    return { properties with tag? := if name == "!" then none else some name, isTagged := true }
  | _ => return properties

/-- Read an anchor if there is one. -/
def readAnchor (properties : Properties) : Reader Properties := do
  match (← peek) with
  | some (.anchor name) =>
    drop
    return { properties with anchor? := some name }
  | _ => return properties

/-- Read an anchor and a tag, in either order. -/
def readProperties : Reader Properties := do
  let properties ← readAnchor {}
  let properties ← readTag properties
  if properties.isTagged && properties.anchor?.isNone then readAnchor properties
  else return properties

def name (anchor? : Option (List Char)) (node : Node) : Reader Unit := do
  match anchor? with
  | none => return
  | some anchor =>
    modify fun reading => { reading with anchors := (anchor, node) :: reading.anchors }

def collectionTag (properties : Properties) (usual : Tag) : Tag :=
  (properties.tag?.map Tag.ofName).getD usual

def scalarTag (properties : Properties) (text : List Char) (isPlain : Bool) : Tag :=
  match properties.tag? with
  | some name => Tag.ofName name
  | none => if isPlain || properties.isTagged then Tag.ofPlain text else .text

mutual

/-- Read a node. Block collections are allowed only where the flag says so, and a sequence that is
not indented only where the other flag does. -/
def node (inBlock allowsOutdented : Bool) : Nat → Reader Node
  | 0 => fail
  | fuel + 1 => do
    match (← peek) with
    | some (.alias anchor) =>
      drop
      match (← get).anchors.lookup anchor with
      | some node => return node
      | none => fail
    | _ =>
      let properties ← readProperties
      let anchor? := properties.anchor?
      let named := (← get).anchors
      if anchor?.any fun anchor => (named.lookup anchor).isSome then fail
      name anchor? .loop
      let node ←
        match (← peek) with
        | some (.scalar text isPlain) =>
          drop
          pure (Node.scalar (scalarTag properties text isPlain) text)
        | some .flowSequenceStart =>
          drop
          pure (.sequence (collectionTag properties .list) (← flowItems fuel true))
        | some .flowMappingStart =>
          drop
          pure (.mapping (collectionTag properties .mapping) (← flowFields fuel true))
        | token? =>
          if allowsOutdented && token? == some .blockEntry then
            pure (.sequence (collectionTag properties .list) (← blockItems fuel true))
          else if inBlock && token? == some .blockSequenceStart then
            drop
            pure (.sequence (collectionTag properties .list) (← blockItems fuel false))
          else if inBlock && token? == some .blockMappingStart then
            drop
            pure (.mapping (collectionTag properties .mapping) (← blockFields fuel))
          else if anchor?.isSome || properties.isTagged then
            pure (.scalar (scalarTag properties [] true) [])
          else fail
      name anchor? node
      return node

/-- Read a node unless one of the given tokens comes next. -/
def nodeUnless (inBlock allowsOutdented : Bool) (tokens : List Token) : Nat → Reader Node
  | 0 => fail
  | fuel + 1 => do
    if (← peek).isNone || (← isAt tokens) then return empty
    node inBlock allowsOutdented fuel

def blockItems : Nat → Bool → Reader (List Node)
  | 0, _ => fail
  | fuel + 1, isOutdented => do
    if (← accept .blockEntry) then
      let ends := if isOutdented then [.blockEntry, .key, .value, .blockEnd]
        else [.blockEntry, .blockEnd]
      let item ← nodeUnless true false ends fuel
      return item :: (← blockItems fuel isOutdented)
    if !isOutdented then expect .blockEnd
    return []

def blockFields : Nat → Reader (List (Node × Node))
  | 0 => fail
  | fuel + 1 => do
    if (← accept .key) then
      let ends := [Token.key, .value, .blockEnd]
      let key ← nodeUnless true true ends fuel
      let value ← if (← accept .value) then nodeUnless true true ends fuel else pure empty
      return (key, value) :: (← blockFields fuel)
    expect .blockEnd
    return []

/-- Read the items of a sequence in brackets; before all but the first stands a comma. -/
def flowItems : Nat → Bool → Reader (List Node)
  | 0, _ => fail
  | fuel + 1, isFirst => do
    if (← accept .flowSequenceEnd) then return []
    if !isFirst then expect .flowEntry
    if (← accept .flowSequenceEnd) then return []
    let item ←
      if (← accept .key) then do
        let key ← nodeUnless false false [.value, .flowEntry, .flowSequenceEnd] fuel
        let value ←
          if (← accept .value) then nodeUnless false false [.flowEntry, .flowSequenceEnd] fuel
          else pure empty
        pure (Node.mapping .mapping [(key, value)])
      else node false false fuel
    return item :: (← flowItems fuel false)

/-- Read the fields of a mapping in brackets; before all but the first stands a comma. -/
def flowFields : Nat → Bool → Reader (List (Node × Node))
  | 0, _ => fail
  | fuel + 1, isFirst => do
    if (← accept .flowMappingEnd) then return []
    if !isFirst then expect .flowEntry
    if (← accept .flowMappingEnd) then return []
    let field ←
      if (← accept .key) then do
        let key ← nodeUnless false false [.value, .flowEntry, .flowMappingEnd] fuel
        let value ←
          if (← accept .value) then nodeUnless false false [.flowEntry, .flowMappingEnd] fuel
          else pure empty
        pure (key, value)
      else do
        pure (← node false false fuel, empty)
    return field :: (← flowFields fuel false)

end

/-- Read the directives before a document. -/
def directives (hasVersion : Bool) : Nat → Reader Bool
  | 0 => fail
  | fuel + 1 => do
    match (← peek) with
    | some (.directive major?) =>
      if major?.isSome && hasVersion then fail
      if major?.any (· != 1) then fail
      drop
      let _ ← directives (hasVersion || major?.isSome) fuel
      return true
    | some (.handle handle start) =>
      if ((← get).handles.lookup handle).isSome then fail
      drop
      modify fun reading => { reading with handles := (handle, start) :: reading.handles }
      let _ ← directives hasVersion fuel
      return true
    | _ => return false

def dropEnds : Nat → Reader Unit
  | 0 => return
  | fuel + 1 => do
    if (← accept .documentEnd) then dropEnds fuel

/-- Read the only document there is. -/
def document (fuel : Nat) : Reader (Option Node) := do
  if (← isAt [.documentEnd]) then fail
  if (← peek).isNone then return none
  let isDirected ← directives false fuel
  let isMarked ← accept .documentStart
  if isDirected && !isMarked then fail
  let isHollow := match (← peek) with
    | none | some .documentStart | some .documentEnd | some (.directive _)
    | some (.handle _ _) => true
    | _ => false
  let root ← if isMarked && isHollow then pure empty else node true false fuel
  dropEnds fuel
  if (← peek).isSome then fail
  return some root

end Reader

/-- The node of a text, unless it holds nothing. -/
def Node.ofText (text : List Char) : Except Fault (Option Node) := do
  let tokens ← tokens text
  let (root, _) ← (Reader.document (4 * tokens.length + 8)).run { tokens }
  return root

end Phrasebook.Yaml
