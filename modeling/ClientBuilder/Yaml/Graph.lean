import ClientBuilder.Text.Basic
import ClientBuilder.Yaml.Tag

namespace ClientBuilder.Yaml

inductive GraphNode where
  | scalar (tag : Tag) (text : Text)
  | sequence (tag : Tag) (items : List Nat)
  | mapping (tag : Tag) (pairs : List (Nat × Nat))
  deriving Repr, DecidableEq

def GraphNode.tag : GraphNode → Tag
  | scalar t _ => t
  | sequence t _ => t
  | mapping t _ => t

structure Graph where
  nodes : Array GraphNode
  -- An empty text has no root.
  root : Option Nat
  deriving Repr, DecidableEq

end ClientBuilder.Yaml
