import LogOperator.Yaml.Token

/-!
# LogOperator.Yaml.Node

The nodes of a YAML document.  An alias stands for the node that an anchor marks; both are written
with the anchor's number, and the document lists the marked nodes.
-/

namespace LogOperator.Yaml

/-- A node of a document. -/
inductive Node where
  | alias (anchor : Nat)
  | scalar (tag : Option String) (style : Style) (text : String)
  | sequence (tag : Option String) (items : List Node)
  | mapping (tag : Option String) (members : List (Node × Node))
deriving Inhabited

/-- A node that an anchor marks. -/
structure Marked where
  /-- The number by which aliases know the anchor. -/
  anchor : Nat
  /-- Where the anchor stands among all anchors of the document. -/
  position : Nat
  node : Node
deriving Inhabited

/-- A node together with the marked nodes of its document. -/
structure Value where
  marked : List Marked
  node : Node
deriving Inhabited

/-- Of the nodes that anchors of a number mark, the one whose anchor stands last. -/
def lastMarked? (anchor : Nat) (marked : List Marked) : Option Marked :=
  (marked.filter (·.anchor == anchor)).foldl
    (fun best m => if best.all (·.position < m.position) then some m else best) none

/-- The value with an alias replaced by the node that it stands for.  A marked node is no alias. -/
def Value.resolve (v : Value) : Value :=
  match v.node with
  | .alias anchor => { v with node := ((lastMarked? anchor v.marked).map Marked.node).getD v.node }
  | _ => v

end LogOperator.Yaml
