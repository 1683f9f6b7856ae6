import ClientBuilder.Yaml.Error
import ClientBuilder.Yaml.Graph

namespace ClientBuilder.Yaml

abbrev Nodes :=
  Array GraphNode

def GraphNode.pairs : GraphNode → List (Nat × Nat)
  | scalar _ _ => []
  | sequence _ _ => []
  | mapping _ pairs => pairs

def GraphNode.retag (tag : Tag) : GraphNode → GraphNode
  | scalar _ text => scalar tag text
  | sequence _ items => sequence tag items
  | mapping _ pairs => mapping tag pairs

def GraphNode.withPairs (pairs : List (Nat × Nat)) : GraphNode → GraphNode
  | mapping tag _ => mapping tag pairs
  | n => n

namespace Nodes

def hasTag (ns : Nodes) (id : Nat) (tag : Tag) : Bool :=
  ns[id]?.any fun n => n.tag = tag

def pairs (ns : Nodes) (id : Nat) : List (Nat × Nat) :=
  (ns[id]?.map GraphNode.pairs).getD []

def setPairs (ns : Nodes) (id : Nat) (pairs : List (Nat × Nat)) : Nodes :=
  ns.modify id (GraphNode.withPairs pairs)

def takeMerge? (ns : Nodes) : List (Nat × Nat) → Option (Nat × List (Nat × Nat))
  | [] => none
  | p :: r =>
    if ns.hasTag p.1 .merge then some (p.2, r)
    else (takeMerge? ns r).map fun (source, rest) => (source, p :: rest)

def retagValueKeys (ns : Nodes) (pairs : List (Nat × Nat)) : Nodes :=
  pairs.foldl (fun ns p =>
    if ns.hasTag p.1 .value then ns.modify p.1 (GraphNode.retag .text) else ns) ns

/-- Merges into a mapping what its merge keys ask for, and into those mappings what theirs do.
`front` are the pairs taken over so far. Every step uses up one merge key, so their number is fuel
enough. -/
def mergeInto (id : Nat) : (fuel : Nat) → (front : List (Nat × Nat)) → Nodes → Result Nodes
  | 0, _, _ => malformed
  | fuel + 1, front, ns =>
    match ns.takeMerge? (ns.pairs id) with
    | none =>
      let pairs := front ++ ns.pairs id
      .ok ((ns.setPairs id pairs).retagValueKeys pairs)
    | some (source, rest) => do
      -- The merge key goes before its source is looked at, which may lead back to this mapping.
      let ns := ns.setPairs id rest
      match ns[source]? with
      | some (.mapping _ _) =>
        let ns ← mergeInto source fuel [] ns
        mergeInto id fuel (front ++ ns.pairs source) ns
      | some (.sequence _ items) =>
        let (ns, taken) ← items.foldlM (fun (ns, taken) item =>
          match ns[item]? with
          | some (.mapping _ _) => do
            let ns ← mergeInto item fuel [] ns
            -- What comes later in the sequence goes in front.
            return (ns, ns.pairs item ++ taken)
          | _ => malformed) (ns, [])
        mergeInto id fuel (front ++ taken) ns
      | _ => malformed

def mergeCount (ns : Nodes) : Nat :=
  ns.foldl (fun n node => n + (node.pairs.filter fun p => ns.hasTag p.1 .merge).length) 0

def merged (ns : Nodes) (id : Nat) : Result Nodes :=
  ns.mergeInto id (ns.mergeCount + 1) []

end Nodes

end ClientBuilder.Yaml
