import EventMessages.Yaml.Node

/-!
# EventMessages.Yaml.Document

The data of a document: what its nodes mean.

Data form a graph, as nodes do, and a datum keeps the place of its node.
-/

namespace EventMessages.Yaml

/-- What a node means. -/
inductive Datum where
  | null
  | boolean (value : Bool)
  | integer (value : Int)
  | real
  | timestamp
  | binary
  | text (value : String)
  | sequence (items : List NodeId)
  /-- A sequence of pairs. -/
  | pairs (entries : List (NodeId × NodeId))
  | set (members : List NodeId)
  | mapping (entries : List (NodeId × NodeId))
  deriving DecidableEq, Repr

/-- Whether a datum may be the key of a mapping. -/
def Datum.isKey : Datum → Bool
  | .sequence _ => false
  | .pairs _ => false
  | .set _ => false
  | .mapping _ => false
  | _ => true

/-- The data of a document: those of its nodes, by their places, and the root. -/
structure Document where
  data : List (Option Datum)
  root : Datum
  deriving DecidableEq, Repr

namespace Document

/-- The datum at a place. Where there is none, it is null. -/
def datumAt (d : Document) (id : NodeId) : Datum := (d.data.getD id none).getD .null

/-- The value of a text key: the last one, if the key stands there more than once. -/
def value? (d : Document) (entries : List (NodeId × NodeId)) (key : String) : Option Datum :=
  (entries.reverse.find? fun e => d.datumAt e.1 = .text key).map fun e => d.datumAt e.2

end Document

end EventMessages.Yaml
