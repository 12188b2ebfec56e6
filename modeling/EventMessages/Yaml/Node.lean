import EventMessages.Yaml.Tag
import EventMessages.Yaml.TokenStream

/-!
# EventMessages.Yaml.Node

The nodes of a document: scalars, sequences and mappings, each with a tag.

An alias is the node that its anchor names, and an anchor may stand around its own alias. So the
nodes of a document form a graph. They are kept in a list, and a node names its members by their
places in it.
-/

namespace EventMessages.Yaml

/-- The place of a node in its document. -/
abbrev NodeId := Nat

/-- What a node holds. -/
inductive Content where
  | scalar (text : List Char)
  | sequence (items : List NodeId)
  | mapping (entries : List (NodeId × NodeId))
  deriving DecidableEq, Repr

/-- A node of a document. -/
structure Node where
  tag : Tag
  content : Content
  deriving DecidableEq, Repr

/-- The nodes of a document and the one that is the document itself. -/
structure Graph where
  nodes : List Node
  root : NodeId
  deriving DecidableEq, Repr

namespace Graph

/-! ## Reading tokens -/

/-- What a reader of tokens keeps. -/
structure Reader where
  /-- The tokens that are left. -/
  tokens : List Token
  /-- What comes after the last token. -/
  fault : Fault
  nodes : List Node := []
  /-- The nodes that anchors name. -/
  anchors : List (List Char × NodeId) := []
  /-- The short forms of tags. -/
  handles : List (List Char × List Char) := []
  /-- How many collections may still be opened in the one that is read. -/
  room : Nat := nestingLimit
  deriving DecidableEq, Repr

/-- Reading tokens, which may meet a fault. -/
abbrev Read (α : Type) := StateT Reader (Except Fault) α

/-- Something that is not well formed. -/
def malformed {α : Type} : Read α := throw .malformed

/-- Reads the members of a collection, if they are not nested too deep. -/
def nested {α : Type} (members : Read α) : Read α := do
  match (← get).room with
  | 0 => throw (.scalar .endless)
  | room + 1 => do
    modify fun r => { r with room }
    let read ← members
    modify fun r => { r with room := room + 1 }
    pure read

/-- The next token, which stays the next one. -/
def peek : Read Token := do
  match (← get).tokens with
  | [] => throw (← get).fault
  | t :: _ => pure t

/-- Passes over the next token. -/
def advance : Read Unit := modify fun r => { r with tokens := r.tokens.tail }

/-- Adds a node. -/
def addNode (node : Node) : Read NodeId := do
  let r ← get
  set { r with nodes := r.nodes ++ [node] }
  pure r.nodes.length

/-- Gives a node its content. -/
def setContent (id : NodeId) (content : Content) : Read Unit :=
  modify fun r => { r with nodes := r.nodes.modify id fun node => { node with content } }

/-- Lets an anchor name a node. An anchor names one node only. -/
def setAnchor (anchor? : Option (List Char)) (id : NodeId) : Read Unit := do
  match anchor? with
  | none => pure ()
  | some name => modify fun r => { r with anchors := (name, id) :: r.anchors }

/-- Refuses an anchor that names a node already. -/
def checkAnchor (anchor? : Option (List Char)) : Read Unit := do
  match anchor? with
  | none => pure ()
  | some name => if (← get).anchors.any fun a => a.1 = name then malformed

/-- The node that an alias stands for. -/
def aliased (name : List Char) : Read NodeId := do
  match (← get).anchors.find? fun a => a.1 = name with
  | none => malformed
  | some (_, id) => pure id

/-- The full text of a tag. -/
def fullTag (handle? : Option (List Char)) (rest : List Char) : Read (List Char) := do
  match handle? with
  | none => pure rest
  | some handle =>
    match (← get).handles.find? fun h => h.1 = handle with
    | none => malformed
    | some (_, start) => pure (start ++ rest)

/-- An empty scalar, where nothing is written. -/
def addEmpty : Read NodeId := addNode ⟨.null, .scalar []⟩

/-! ## Properties -/

/-- The anchor and the tag in front of a node, in either order. -/
def properties : Read (Option (List Char) × Option (List Char)) := do
  match ← peek with
  | .anchor name => do
    advance
    match ← peek with
    | .tag handle? rest => do
      advance
      pure (some name, some (← fullTag handle? rest))
    | _ => pure (some name, none)
  | .tag handle? rest => do
    advance
    match ← peek with
    | .anchor name => do
      advance
      pure (some name, some (← fullTag handle? rest))
    | _ => pure (none, some (← fullTag handle? rest))
  | _ => pure (none, none)

/-- The tag that leaves the kind of a node to its look. -/
def openTag : List Char := ['!']

/-- The tag of a collection: the written one, or that of its form. -/
def collectionTag (tag? : Option (List Char)) (form : Tag) : Tag :=
  match tag? with
  | none => form
  | some tag => if tag = openTag then form else Tag.ofText tag

/-- The tag of a scalar: the written one, or the one it looks like. A quoted scalar without a tag
looks like a text. -/
def scalarTag (tag? : Option (List Char)) (text : List Char) (plain : Bool) : Tag :=
  match tag? with
  | none => if plain then Tag.ofLook text else .text
  | some tag => if tag = openTag then Tag.ofLook text else Tag.ofText tag

/-- Adds a collection that is still empty. -/
def addCollection (anchor? : Option (List Char)) (tag : Tag) (content : Content) :
    Read NodeId := do
  checkAnchor anchor?
  let id ← addNode ⟨tag, content⟩
  setAnchor anchor? id
  pure id

/-- Adds a scalar. -/
def addScalar (anchor? : Option (List Char)) (tag : Tag) (text : List Char) : Read NodeId := do
  checkAnchor anchor?
  let id ← addNode ⟨tag, .scalar text⟩
  setAnchor anchor? id
  pure id

/-! ## Nodes -/

/-- Where a node stands. -/
inductive Place where
  /-- In a flow collection. -/
  | flow
  /-- In a block collection or on its own. -/
  | block
  /-- In a block mapping, where the entries of a sequence need no indentation. -/
  | mapped
  deriving DecidableEq, Repr

/-- Whether block collections may stand there. -/
def Place.isBlock : Place → Bool
  | .flow => false
  | .block => true
  | .mapped => true

/-- The kinds of entries. -/
inductive Row where
  | blockSequence
  | indentless
  | blockMapping
  | flowSequence
  | flowMapping
  deriving DecidableEq, Repr

/-- Whether a token stands for an entry of such a collection that is not written. -/
def Row.endsEntry : Row → Token → Bool
  | .blockSequence, .blockEntry => true
  | .blockSequence, .blockEnd => true
  | .indentless, .blockEntry => true
  | .indentless, .key => true
  | .indentless, .value => true
  | .indentless, .blockEnd => true
  | .blockMapping, .key => true
  | .blockMapping, .value => true
  | .blockMapping, .blockEnd => true
  | .flowSequence, .flowEntry => true
  | .flowSequence, .flowSequenceEnd => true
  | .flowMapping, .flowEntry => true
  | .flowMapping, .flowMappingEnd => true
  | _, _ => false

/-- Whether the token is the one that ends such a flow collection. -/
def Row.isEnd : Row → Token → Bool
  | .flowSequence, .flowSequenceEnd => true
  | .flowMapping, .flowMappingEnd => true
  | _, _ => false

/-- Passes over the comma that must stand in front of all entries of a flow collection but the
first. -/
def comma (first : Bool) : Read Unit := do
  if !first then
    match ← peek with
    | .flowEntry => advance
    | _ => malformed

mutual

/-- Reads a node, in at most `n` steps. -/
def node : Nat → Place → Read NodeId
  | 0, _ => malformed
  | n + 1, place => do
    match ← peek with
    | .alias name => do
      advance
      aliased name
    | _ => do
      let (anchor?, tag?) ← properties
      match ← peek with
      | .blockEntry =>
        if place = .mapped then do
          let id ← addCollection anchor? (collectionTag tag? .sequence) (.sequence [])
          setContent id (.sequence (← nested (blockItems n .indentless)))
          pure id
        else emptyNode anchor? tag?
      | .scalar text plain => do
        advance
        addScalar anchor? (scalarTag tag? text plain) text
      | .flowSequenceStart => do
        advance
        let id ← addCollection anchor? (collectionTag tag? .sequence) (.sequence [])
        setContent id (.sequence (← nested (flowItems n true)))
        pure id
      | .flowMappingStart => do
        advance
        let id ← addCollection anchor? (collectionTag tag? .mapping) (.mapping [])
        setContent id (.mapping (← nested (flowEntries n true)))
        pure id
      | .blockSequenceStart =>
        if place.isBlock then do
          advance
          let id ← addCollection anchor? (collectionTag tag? .sequence) (.sequence [])
          setContent id (.sequence (← nested (blockItems n .blockSequence)))
          pure id
        else emptyNode anchor? tag?
      | .blockMappingStart =>
        if place.isBlock then do
          advance
          let id ← addCollection anchor? (collectionTag tag? .mapping) (.mapping [])
          setContent id (.mapping (← nested (blockEntries n)))
          pure id
        else emptyNode anchor? tag?
      | _ => emptyNode anchor? tag?

/-- A node of which only the properties are written, if any. -/
def emptyNode (anchor? tag? : Option (List Char)) : Read NodeId :=
  if anchor?.isSome || tag?.isSome then addScalar anchor? (scalarTag tag? [] true) []
  else malformed

/-- Reads the entries of a block sequence, which the token after them ends. -/
def blockItems : Nat → Row → Read (List NodeId)
  | 0, _ => malformed
  | n + 1, row => do
    match ← peek with
    | .blockEntry => do
      advance
      let item ← if row.endsEntry (← peek) then addEmpty else node n .block
      let items ← blockItems n row
      pure (item :: items)
    | .blockEnd => do
      if row = .blockSequence then advance
      pure []
    | _ => if row = .blockSequence then malformed else pure []

/-- Reads the entries of a block mapping and the token that ends them. -/
def blockEntries : Nat → Read (List (NodeId × NodeId))
  | 0 => malformed
  | n + 1 => do
    match ← peek with
    | .key => do
      advance
      let key ← if Row.blockMapping.endsEntry (← peek) then addEmpty else node n .mapped
      let value ← blockValue n
      let entries ← blockEntries n
      pure ((key, value) :: entries)
    | .blockEnd => do
      advance
      pure []
    | _ => malformed

/-- Reads the value of an entry of a block mapping, which may be missing. -/
def blockValue : Nat → Read NodeId
  | 0 => malformed
  | n + 1 => do
    match ← peek with
    | .value => do
      advance
      if Row.blockMapping.endsEntry (← peek) then addEmpty else node n .mapped
    | _ => addEmpty

/-- Reads the entries of a flow sequence and the token that ends them. An entry with a key is a
mapping of one entry. -/
def flowItems : Nat → Bool → Read (List NodeId)
  | 0, _ => malformed
  | n + 1, first => do
    if Row.flowSequence.isEnd (← peek) then do
      advance
      pure []
    else do
      comma first
      match ← peek with
      | .key => do
        let id ← addNode ⟨.mapping, .mapping []⟩
        advance
        let next ← peek
        let entry ← nested do
          let key ←
            if next = .value || Row.flowSequence.endsEntry next then addEmpty else node n .flow
          let value ← flowValue n .flowSequence
          pure (key, value)
        setContent id (.mapping [entry])
        let items ← flowItems n false
        pure (id :: items)
      | .flowSequenceEnd => do
        advance
        pure []
      | _ => do
        let item ← node n .flow
        let items ← flowItems n false
        pure (item :: items)

/-- Reads the value of an entry of a flow collection, which may be missing. -/
def flowValue : Nat → Row → Read NodeId
  | 0, _ => malformed
  | n + 1, row => do
    match ← peek with
    | .value => do
      advance
      if row.endsEntry (← peek) then addEmpty else node n .flow
    | _ => addEmpty

/-- Reads the entries of a flow mapping and the token that ends them. An entry may be a key alone.
-/
def flowEntries : Nat → Bool → Read (List (NodeId × NodeId))
  | 0, _ => malformed
  | n + 1, first => do
    if Row.flowMapping.isEnd (← peek) then do
      advance
      pure []
    else do
      comma first
      match ← peek with
      | .key => do
        advance
        let next ← peek
        let key ← if next = .value || Row.flowMapping.endsEntry next then addEmpty else node n .flow
        let value ← flowValue n .flowMapping
        let entries ← flowEntries n false
        pure ((key, value) :: entries)
      | .flowMappingEnd => do
        advance
        pure []
      | _ => do
        let key ← node n .flow
        let value ← addEmpty
        let entries ← flowEntries n false
        pure ((key, value) :: entries)

end

/-! ## Documents -/

/-- The short forms of tags that hold without a directive. -/
def defaultHandles : List (List Char × List Char) := [(['!'], ['!']), (['!', '!'], standardTags)]

/-- Reads the directives in front of a document, at most `n`. A version must be 1 and is given
once, and a short form is given once. -/
def directives : Nat → Bool → Read Unit
  | 0, _ => malformed
  | n + 1, versioned => do
    match ← peek with
    | .directive (.version major _) => do
      advance
      if versioned || major ≠ 1 then malformed else directives n true
    | .directive (.tagHandle handle start) => do
      advance
      if (← get).handles.any fun h => h.1 = handle then malformed
      else do
        modify fun r => { r with handles := (handle, start) :: r.handles }
        directives n versioned
    | .directive .unknown => do
      advance
      directives n versioned
    | _ => modify fun r => { r with handles := r.handles ++ defaultHandles }

/-- Passes over the marks that end documents, at most `n`. -/
def documentEnds : Nat → Read Unit
  | 0 => pure ()
  | n + 1 => do
    match ← peek with
    | .documentEnd => do
      advance
      documentEnds n
    | _ => pure ()

/-- Reads the content of a document after its start mark, which may be missing. -/
def content (n : Nat) : Read NodeId := do
  match ← peek with
  | .directive _ => addEmpty
  | .documentStart => addEmpty
  | .documentEnd => addEmpty
  | .streamEnd => addEmpty
  | _ => node n .block

/-- Reads a document that starts with directives or with a start mark. -/
def explicitDocument (n : Nat) : Read NodeId := do
  directives n false
  match ← peek with
  | .documentStart => do
    advance
    content n
  | _ => malformed

/-- Refuses a second document, once its directives are read. -/
def secondDocument (n : Nat) : Read (Option NodeId) := do
  modify fun r => { r with handles := [] }
  directives n false
  malformed

/-- Reads the only document of a stream, if there is one. -/
def document (n : Nat) : Read (Option NodeId) := do
  match ← peek with
  | .streamEnd => pure none
  | first => do
    let root ←
      match first with
      | .directive _ => explicitDocument n
      | .documentStart => explicitDocument n
      | _ => do
        modify fun r => { r with handles := defaultHandles }
        node n .block
    documentEnds n
    match ← peek with
    | .streamEnd => pure (some root)
    | _ => secondDocument n

/-- The nodes of the document that the tokens make up, if they make up one at all. No step leaves
all tokens as they are more than twice in a row. -/
def ofTokens? (stream : TokenStream) : Except Fault (Option Graph) := do
  let steps := 3 * (stream.tokens.length + 1)
  let (root?, r) ←
    (document steps).run { tokens := stream.tokens, fault := stream.fault?.getD .malformed }
  pure (root?.map fun root => ⟨r.nodes, root⟩)

end Graph

end EventMessages.Yaml
