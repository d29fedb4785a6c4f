import FloatingAddress.Yaml.Meaning
import FloatingAddress.Yaml.Token

/-!
# YAML documents

The tokens of a text form documents, and each document is a node: a scalar, a sequence or a
mapping. A node may get a name with an anchor, and an alias stands for the node with that name.
The keys of a mapping are pairwise different.

Two bounds keep aliases from blowing up a small text. No more than 128 collections may lie inside
one another, aliases followed, and following all aliases may take no more steps than a hundred
times the number of parts of the document.
-/

namespace FloatingAddress.Yaml

inductive Node
  | scalar (meaning : Meaning)
  | sequence (items : List Node)
  | mapping (entries : List (Node × Node))
  /-- A node with a tag of its own making. -/
  | tagged (tag : String) (node : Node)
deriving BEq, Repr, Inhabited

/-- A node with what its use costs. -/
structure Built where
  node : Node
  /-- How many collections lie inside one another. -/
  depth : Nat := 0
  /-- How many aliases are followed, also repeatedly, to visit the whole node. -/
  aliases : Nat := 0
deriving Inhabited

/-- A named node. It has no value until it is complete. -/
structure Anchor where
  name : String
  id : Nat
  built : Option Built := none

/-- What is left to read, and what has been learned on the way. -/
structure Reading where
  tokens : List Token
  /-- The named nodes, the latest one first. -/
  anchors : List Anchor := []
  /-- The meaning of tag handles. -/
  handles : List (String × String) := []
  /-- The number of parts of the document. -/
  parts : Nat := 0

/-- A step of reading that may find the text ill formed. -/
abbrev Read := StateT Reading Option

namespace Read

def peek : Read (Option Token) := do return (← get).tokens.head?

/-- Go on to the token after the next. -/
def drop : Read Unit := modify fun r => { r with tokens := r.tokens.drop 1 }

/-- Whether the next token is one of the given ones. The end of the text is none of them. -/
def nextIn (tokens : List Token) : Read Bool := do
  return (← peek).any (· ∈ tokens)

/-- Go on over a token that has to come next. -/
def expect (token : Token) : Read Unit := do
  if ← nextIn [token] then drop else failure

def count (n : Nat) : Read Unit := modify fun r => { r with parts := r.parts + n }

/-- A part that is not written down. -/
def emptyNode : Read Built := do
  count 1
  return { node := .scalar .null }

/-- The tag that a handle and a suffix give. -/
def resolveTag (handle suffix : String) : Read String := do
  if handle = "" then return suffix
  let stem ← ((← get).handles ++ [("!", "!"), ("!!", "tag:yaml.org,2002:")]).lookup handle
  return stem ++ suffix

/-- The anchor and the tag before a node, in either order. -/
def properties : Read (Option String × Option String) := do
  let name ← takeName
  let tag ← takeTag
  let name ← if name.isNone then takeName else pure name
  return (name, tag)
where
  takeName : Read (Option String) := do
    match ← peek with
    | some (.anchor name) => drop; return some name
    | _ => return none
  takeTag : Read (Option String) := do
    match ← peek with
    | some (.tag handle suffix) => drop; return some (← resolveTag handle suffix)
    | _ => return none

/-- Give the node that begins here a name. -/
def openAnchor (name : Option String) : Read (Option Nat) := do
  match name with
  | none => return none
  | some name =>
    let id := (← get).anchors.length
    modify fun r => { r with anchors := { name, id } :: r.anchors }
    return some id

/-- A named node is complete. -/
def closeAnchor (id : Option Nat) (built : Built) : Read Unit :=
  match id with
  | none => pure ()
  | some id => modify fun r => { r with
      anchors := r.anchors.map fun a => if a.id = id then { a with built := some built } else a }

/-- The node for which an alias stands. It has to be complete. -/
def follow (name : String) : Read Built := do
  count 1
  let anchor ← (← get).anchors.find? (·.name = name)
  let built ← anchor.built
  return { built with aliases := built.aliases + 1 }

/-- The tag of a collection, as far as it is not one of the core schema. -/
def withTag (tag : Option String) (node : Node) : Node :=
  match tag with
  | none => node
  | some tag => if tag.startsWith "!" then .tagged tag node else node

/-- A scalar. The tag that consists of an exclamation mark only says nothing. -/
def scalarNode (tag : Option String) (style : Style) (text : String) : Read Built := do
  count 1
  let tag := tag.filter (· ≠ "!")
  match tag.filter (·.startsWith "!") with
  | some own =>
    let meaning ← Meaning.ofScalar? none style text
    return { node := .tagged own (.scalar meaning) }
  | none => return { node := .scalar (← Meaning.ofScalar? tag style text) }

/-- The greatest number of collections inside one another. -/
def maxDepth : Nat := 128

def collection (tag : Option String) (parts : List Built) (node : Node) : Read Built := do
  count 2
  let depth := parts.foldl (fun d b => max d b.depth) 0 + 1
  if maxDepth < depth then failure
  return { node := withTag tag node, depth, aliases := parts.foldl (fun n b => n + b.aliases) 0 }

def sequenceNode (tag : Option String) (items : List Built) : Read Built :=
  collection tag items (.sequence (items.map (·.node)))

def hasDuplicate : List Node → Bool
  | [] => false
  | n :: rest => rest.contains n || hasDuplicate rest

def mappingNode (tag : Option String) (entries : List (Built × Built)) : Read Built := do
  let nodes := entries.map fun (k, v) => (k.node, v.node)
  if hasDuplicate (nodes.map (·.1)) then failure
  collection tag (entries.flatMap fun (k, v) => [k, v]) (.mapping nodes)

/-- What kinds of nodes may stand at a place. -/
inductive Place
  /-- A node of any kind. -/
  | block
  /-- A key or a value of a block mapping: also a sequence that is not indented. -/
  | entry
  /-- No block collection, since this is inside a flow collection. -/
  | flow
deriving DecidableEq

/-- An empty scalar, which has to have a name or a tag. -/
def emptyOr (name tag : Option String) : Read Built :=
  if name.isSome || tag.isSome then scalarNode tag .plain "" else failure

mutual

def node (place : Place) : Nat → Read Built
  | 0 => failure
  | fuel + 1 => do
    if let some (.alias name) ← peek then
      drop
      return ← follow name
    let (name, tag) ← properties
    let id ← openAnchor name
    let built ← match ← peek with
      | some .blockEntry =>
        if place = .entry then sequenceNode tag (← looseItems fuel) else emptyOr name tag
      | some (.scalar style text) => do drop; scalarNode tag style text
      | some .flowSequenceStart => do drop; sequenceNode tag (← flowItems true fuel)
      | some .flowMappingStart => do drop; mappingNode tag (← flowEntries true fuel)
      | some .blockSequenceStart =>
        if place = .flow then emptyOr name tag
        else do drop; sequenceNode tag (← blockItems fuel)
      | some .blockMappingStart =>
        if place = .flow then emptyOr name tag
        else do drop; mappingNode tag (← blockEntries fuel)
      | _ => emptyOr name tag
    closeAnchor id built
    return built

/-- Read a node, or nothing if one of the given tokens is next. -/
def nodeUnless (place : Place) (tokens : List Token) : Nat → Read Built
  | 0 => failure
  | fuel + 1 => do
    if ← nextIn tokens then emptyNode else node place fuel

/-- Read the items of an indented block sequence. -/
def blockItems : Nat → Read (List Built)
  | 0 => failure
  | fuel + 1 => do
    if ← nextIn [.blockEnd] then
      drop
      return []
    expect .blockEntry
    let item ← nodeUnless .block [.blockEntry, .blockEnd] fuel
    return item :: (← blockItems fuel)

/-- Read the items of a block sequence that is not indented. -/
def looseItems : Nat → Read (List Built)
  | 0 => failure
  | fuel + 1 => do
    if !(← nextIn [.blockEntry]) then return []
    drop
    let item ← nodeUnless .block [.blockEntry, .key, .value, .blockEnd] fuel
    return item :: (← looseItems fuel)

/-- Read the entries of a block mapping. -/
def blockEntries : Nat → Read (List (Built × Built))
  | 0 => failure
  | fuel + 1 => do
    if ← nextIn [.blockEnd] then
      drop
      return []
    expect .key
    let key ← nodeUnless .entry [.key, .value, .blockEnd] fuel
    let value ← if ← nextIn [.value] then do
        drop
        nodeUnless .entry [.key, .value, .blockEnd] fuel
      else emptyNode
    return (key, value) :: (← blockEntries fuel)

/-- Read the items of a flow sequence. A key among them begins a mapping with one entry. -/
def flowItems (first : Bool) : Nat → Read (List Built)
  | 0 => failure
  | fuel + 1 => do
    if ← nextIn [.flowSequenceEnd] then
      drop
      return []
    if !first then expect .flowEntry
    if ← nextIn [.key] then
      drop
      let key ← if ← nextIn [.value, .flowEntry, .flowSequenceEnd] then do
          drop
          emptyNode
        else node .flow fuel
      let value ← if ← nextIn [.value] then do
          drop
          nodeUnless .flow [.flowEntry, .flowSequenceEnd] fuel
        else emptyNode
      let item ← mappingNode none [(key, value)]
      return item :: (← flowItems false fuel)
    if ← nextIn [.flowSequenceEnd] then
      drop
      return []
    let item ← node .flow fuel
    return item :: (← flowItems false fuel)

/-- Read the entries of a flow mapping. A node alone is a key without a value. -/
def flowEntries (first : Bool) : Nat → Read (List (Built × Built))
  | 0 => failure
  | fuel + 1 => do
    if ← nextIn [.flowMappingEnd] then
      drop
      return []
    if !first then expect .flowEntry
    if ← nextIn [.flowMappingEnd] then
      drop
      return []
    if ← nextIn [.key] then
      drop
      let key ← nodeUnless .flow [.value, .flowEntry, .flowMappingEnd] fuel
      let value ← if ← nextIn [.value] then do
          drop
          nodeUnless .flow [.flowEntry, .flowMappingEnd] fuel
        else emptyNode
      return (key, value) :: (← flowEntries false fuel)
    let key ← node .flow fuel
    let value ← emptyNode
    return (key, value) :: (← flowEntries false fuel)

end

/-- Read the directives before a document. -/
def directives (version : Bool) : Nat → Read Unit
  | 0 => failure
  | fuel + 1 => do
    match ← peek with
    | some (.versionDirective major minor) =>
      if version || major ≠ 1 || !(minor ∈ [1, 2]) then failure
      drop
      directives true fuel
    | some (.tagDirective handle stem) =>
      if ((← get).handles.lookup handle).isSome then failure
      modify fun r => { r with handles := (handle, stem) :: r.handles }
      drop
      directives version fuel
    | _ => return

/-- Whether a token cannot belong to the content of a document. -/
def isOutside : Option Token → Bool
  | none | some .documentStart | some .documentEnd => true
  | some (.versionDirective ..) | some (.tagDirective ..) => true
  | _ => false

/-- The content of a document, checked against the bound on aliases. -/
def content (isEmpty : Bool) (fuel : Nat) : Read Node := do
  let built ← if isEmpty then emptyNode else node .block fuel
  let parts := (← get).parts
  if 100 * parts < built.aliases then failure
  return built.node

/-- Read the documents of a text. Only the first one may begin without a marker. -/
def documents (first : Bool) : Nat → Read (List Node)
  | 0 => failure
  | fuel + 1 => do
    modify fun r => { r with
      tokens := if first then r.tokens else r.tokens.dropWhile (· = .documentEnd)
      anchors := [], handles := [], parts := 0 }
    let next ← peek
    if next.isNone then return []
    let room := 4 * (← get).tokens.length + 4
    let isBare := first && (!isOutside next || next = some .documentEnd)
    let document ←
      if isBare then content false room
      else do
        directives false room
        expect .documentStart
        content (isOutside (← peek)) room
    if ← nextIn [.documentEnd] then drop
    return document :: (← documents false fuel)

end Read

/-- The documents of a text. A text without any document counts as one that is null. -/
def documents? (s : String) : Option (List Node) := do
  let tokens ← tokens? s
  let (nodes, _) ← (Read.documents true (tokens.length + 2)).run { tokens }
  some (if nodes.isEmpty then [.scalar .null] else nodes)

/-- The only document of a text. -/
def document? (s : String) : Option Node :=
  match documents? s with
  | some [node] => some node
  | _ => none

end FloatingAddress.Yaml
