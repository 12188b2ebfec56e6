import EventMessages.Yaml.Document
import EventMessages.Yaml.Number

/-!
# EventMessages.Yaml.Filling

From nodes to data.

Collections are filled in the order in which they are met, all of one depth before those of the
next, and each node is given its meaning once; so the first fault in that order is the one that is
reported. Before a mapping is filled, the entries of the mappings that its merge keys name are put
in front of its own.
-/

namespace EventMessages.Yaml

/-- What is known while the data are filled in. -/
structure Filling where
  nodes : List Node
  data : List (Option Datum)
  /-- The collections that are still empty, in the order in which they were met. -/
  waiting : List NodeId := []
  deriving DecidableEq, Repr

namespace Filling

/-- Filling in, which may meet a fault. -/
abbrev Fill (α : Type) := StateT Filling (Except Fault) α

/-- Something that is not well formed. -/
def malformed {α : Type} : Fill α := throw .malformed

/-- Goes on if a scalar is what it should be. -/
def ofScalar {α : Type} : Except ScalarFault α → Fill α
  | .ok a => pure a
  | .error fault => throw (.scalar fault)

/-- The node at a place. -/
def nodeAt (id : NodeId) : Fill Node := do
  match (← get).nodes[id]? with
  | some node => pure node
  | none => malformed

/-- The text of a scalar, or of the default value of a mapping, at most `n` mappings deep. -/
def scalarText : Nat → NodeId → Fill (List Char)
  | 0, _ => throw (.scalar .endless)
  | n + 1, id => do
    match (← nodeAt id).content with
    | .scalar text => pure text
    | .sequence _ => malformed
    | .mapping entries => do
      let nodes := (← get).nodes
      let isDefault (e : NodeId × NodeId) : Bool :=
        nodes[e.1]?.any fun node => node.tag = .default
      match entries.find? isDefault with
      | some (_, value) => scalarText n value
      | none => malformed

/-- The meaning of a node as far as it is known without its members. -/
def meaning (id : NodeId) : Fill Datum := do
  let node ← nodeAt id
  match node.tag with
  | .null => do
    let _ ← scalarText chainLimit id
    pure .null
  | .boolean => do
    let value ← ofScalar (booleanOf (← scalarText chainLimit id))
    pure (.boolean value)
  | .integer => do
    let value ← ofScalar (integerOf (← scalarText chainLimit id))
    pure (.integer value)
  | .real => do
    ofScalar (checkRealScalar (← scalarText chainLimit id))
    pure .real
  | .binary => do
    if isBinary (← scalarText chainLimit id) then pure .binary else malformed
  | .timestamp => do
    let text ← scalarText chainLimit id
    match node.content with
    | .scalar _ => do
      ofScalar (checkTimestamp text)
      pure .timestamp
    | _ => throw (.scalar .mappedTimestamp)
  | .text => do
    let text ← scalarText chainLimit id
    pure (.text (String.ofList text))
  | .sequence => pure (.sequence [])
  | .orderedMap => pure (.pairs [])
  | .pairs => pure (.pairs [])
  | .set => pure (.set [])
  | .mapping => pure (.mapping [])
  | .merge => malformed
  | .default => malformed
  | .other => malformed

/-- The datum of a node. A node that is met for the first time gets its meaning, and a collection
then waits for its members. -/
def datum (id : NodeId) : Fill Datum := do
  match (← get).data.getD id none with
  | some d => pure d
  | none => do
    let d ← meaning id
    modify fun f =>
      { f with
        data := f.data.set id (some d)
        waiting := if d.isKey then f.waiting else f.waiting ++ [id] }
    pure d

/-! ## Merging -/

/-- Gives a node other entries. -/
def setEntries (id : NodeId) (entries : List (NodeId × NodeId)) : Fill Unit :=
  modify fun f =>
    { f with nodes := f.nodes.modify id fun node => { node with content := .mapping entries } }

/-- Whether an entry is one whose value is to be merged in. -/
def isMerge (nodes : List Node) (e : NodeId × NodeId) : Bool :=
  nodes[e.1]?.any fun node => node.tag = .merge

/-- Keys of default values are ordinary texts in a mapping that is filled in. -/
def plainKeys (entries : List (NodeId × NodeId)) : Fill Unit :=
  modify fun f =>
    { f with
      nodes := entries.foldl (fun nodes e =>
        nodes.modify e.1 fun node =>
          if node.tag = .default then { node with tag := .text } else node) f.nodes }

mutual

/-- Puts merged entries in front of the entries of a mapping, in at most `n` steps and at most
`depth` mappings deep. -/
def flatten : Nat → Nat → NodeId → Fill Unit
  | 0, _, _ => malformed
  | _ + 1, 0, _ => throw (.scalar .endless)
  | n + 1, depth + 1, id => collect n depth id []

/-- Merges the first entry that is to be merged, and so on, and puts what was merged in front. -/
def collect : Nat → Nat → NodeId → List (NodeId × NodeId) → Fill Unit
  | 0, _, _, _ => malformed
  | n + 1, depth, id, merged => do
    match (← nodeAt id).content with
    | .mapping entries => do
      let nodes := (← get).nodes
      match entries.find? (isMerge nodes) with
      | none => do
        plainKeys entries
        setEntries id (merged ++ entries)
      | some (_, value) => do
        setEntries id (entries.eraseP (isMerge nodes))
        match (← nodeAt value).content with
        | .mapping _ => do
          flatten n depth value
          match (← nodeAt value).content with
          | .mapping more => collect n depth id (merged ++ more)
          | _ => malformed
        | .sequence items => do
          let more ← flattenAll n depth items
          collect n depth id (merged ++ more)
        | .scalar _ => malformed
    | _ => malformed

/-- The entries of several mappings, those of the last one first. -/
def flattenAll : Nat → Nat → List NodeId → Fill (List (NodeId × NodeId))
  | 0, _, _ => malformed
  | _ + 1, _, [] => pure []
  | n + 1, depth, id :: rest => do
    match (← nodeAt id).content with
    | .mapping _ => do
      flatten n depth id
      match (← nodeAt id).content with
      | .mapping entries => do
        let others ← flattenAll n depth rest
        pure (others ++ entries)
      | _ => malformed
    | _ => malformed

end

/-! ## Filling collections -/

/-- Gives a place its datum. -/
def setDatum (id : NodeId) (d : Datum) : Fill Unit :=
  modify fun f => { f with data := f.data.set id (some d) }

/-- The number of members that a node names. -/
def memberCount (node : Node) : Nat :=
  match node.content with
  | .scalar _ => 0
  | .sequence items => items.length
  | .mapping entries => entries.length

/-- Enough steps to flatten any mapping: each step towards a mapping that is merged in either
leaves a merge key behind or passes over an item of a sequence. -/
def flattenSteps (nodes : List Node) : Nat :=
  let members := nodes.foldl (fun n node => n + memberCount node) 0
  (members + 3) * (members + 3)

/-- Gives meaning to the items of a sequence. -/
def fillItems : List NodeId → Fill Unit
  | [] => pure ()
  | id :: rest => do
    let _ ← datum id
    fillItems rest

/-- Gives meaning to keys and values. A collection is no key. -/
def fillEntries : List (NodeId × NodeId) → Fill Unit
  | [] => pure ()
  | (key, value) :: rest => do
    let d ← datum key
    if d.isKey then do
      let _ ← datum value
      fillEntries rest
    else malformed

/-- The entries of a mapping, after merging. -/
def entriesOf (id : NodeId) : Fill (List (NodeId × NodeId)) := do
  match (← nodeAt id).content with
  | .mapping _ => do
    flatten (flattenSteps (← get).nodes) chainLimit id
    match (← nodeAt id).content with
    | .mapping entries => do
      fillEntries entries
      pure entries
    | _ => malformed
  | _ => malformed

/-- The entries of a sequence of mappings with one entry each. -/
def pairsOf : List NodeId → Fill (List (NodeId × NodeId))
  | [] => pure []
  | id :: rest => do
    match (← nodeAt id).content with
    | .mapping [(key, value)] => do
      let _ ← datum key
      let _ ← datum value
      let others ← pairsOf rest
      pure ((key, value) :: others)
    | _ => malformed

/-- Fills a collection. -/
def fill (id : NodeId) : Fill Unit := do
  let node ← nodeAt id
  match node.tag, node.content with
  | .sequence, .sequence items => do
    fillItems items
    setDatum id (.sequence items)
  | .sequence, _ => malformed
  | .orderedMap, .sequence items => do setDatum id (.pairs (← pairsOf items))
  | .orderedMap, _ => malformed
  | .pairs, .sequence items => do setDatum id (.pairs (← pairsOf items))
  | .pairs, _ => malformed
  | .set, _ => do setDatum id (.set ((← entriesOf id).map (·.1)))
  | .mapping, _ => do setDatum id (.mapping (← entriesOf id))
  | _, _ => malformed

/-- Fills the collections that wait, at most `n` of them. -/
def fillWaiting : Nat → Fill Unit
  | 0 => pure ()
  | n + 1 => do
    match (← get).waiting with
    | [] => pure ()
    | id :: rest => do
      modify fun f => { f with waiting := rest }
      fill id
      fillWaiting n

end Filling

/-- The data of a graph of nodes. Each node waits to be filled at most once. -/
def Document.ofGraph (g : Graph) : Except Fault Document := do
  let start : Filling := { nodes := g.nodes, data := g.nodes.map fun _ => none }
  let fillAll : Filling.Fill Unit := do
    let _ ← Filling.datum g.root
    Filling.fillWaiting g.nodes.length
  let (_, filled) ← fillAll.run start
  pure ⟨filled.data, (filled.data.getD g.root none).getD .null⟩

/-- The data of a text: those of its only document, or null when there is none. -/
def Document.ofText (text : List Char) : Except Fault Document := do
  if !text.all isAllowed then throw .malformed
  match ← Graph.ofTokens? (TokenStream.ofText text) with
  | none => pure ⟨[], .null⟩
  | some g => ofGraph g

end EventMessages.Yaml
