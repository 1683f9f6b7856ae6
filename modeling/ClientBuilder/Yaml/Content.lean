import ClientBuilder.Value.Key
import ClientBuilder.Yaml.Graph.Merge
import ClientBuilder.Yaml.Scalar.Value

/-!
Contents of nodes: the value of each scalar, and the parts of each collection. The contents are made
level by level from the root, and each node once, so of several faults the one nearest to the root
counts.
-/

namespace ClientBuilder.Yaml

inductive Content where
  | scalar (v : Value)
  -- Parts of collections are referred to by number.
  | list (items : List Nat)
  -- A list of pairs, which stand for themselves and are looked up by no key.
  | pairs (pairs : List (Nat × Nat))
  | set (keys : List Value)
  | mapping (pairs : List (Value × Nat))
  deriving Inhabited

def Content.parts : Content → List Nat
  | scalar _ => []
  | list items => items
  | pairs ps => ps.flatMap fun p => [p.1, p.2]
  | set _ => []
  | mapping ps => ps.map (·.2)

structure Making where
  nodes : Nodes
  -- What has been made so far, by the number of the node.
  contents : Array (Option Content)
  -- The collections whose parts have still to be looked at.
  waiting : List Nat := []

abbrev Make (α : Type) :=
  StateT Making (Except Error) α

namespace Make

def malformed {α : Type} : Make α :=
  throw .malformed

/-- The text of a node: of a mapping, the text under its value key. A mapping that comes back to
itself has none. -/
def scalarText (ns : Nodes) : (fuel : Nat) → (id : Nat) → Result Text
  | 0, _ => .error .tooDeep
  | fuel + 1, id =>
    match ns[id]? with
    | some (.scalar _ text) => .ok text
    | some (.mapping _ pairs) =>
      match pairs.find? fun p => ns.hasTag p.1 .value with
      | some (_, v) => scalarText ns fuel v
      | none => Yaml.malformed
    | _ => Yaml.malformed

def scalarOf (ns : Nodes) (id : Nat) (n : GraphNode) : Result Value := do
  let text ← scalarText ns ns.size id
  match n with
  -- A time is matched against the characters of the node itself, and a mapping has none.
  | .mapping .timestamp _ => .error (.scalar .timeOfMapping)
  | n => scalarValue n.tag text

/-- The key that the value of a node is. What is no number is a key of its own for each node, but
for the word for it, which is the same key wherever it stands. -/
def keyOfValue (ns : Nodes) (id : Nat) (v : Value) : Result Key := do
  match v.key? with
  | some (.notANumber _) =>
    let text ← scalarText ns ns.size id
    return .notANumber (if Number.isNanWord text.chars then none else some id)
  | some k => return k
  | none => Yaml.malformed

def isCollectionTag : Tag → Bool
  | .sequence => true
  | .mapping => true
  | .set => true
  | .pairs => true
  | _ => false

def setContent (id : Nat) (c : Content) : Make Unit :=
  modify fun s => { s with contents := s.contents.setIfInBounds id c }

def content? (id : Nat) : Make (Option Content) := do
  return (← get).contents[id]?.join

def refer (id : Nat) : Make Unit := do
  -- A scalar gets its contents at once, a collection as soon as it is its turn.
  if (← content? id).isSome then return
  let ns := (← get).nodes
  match ns[id]? with
  | none => malformed
  | some n =>
    if isCollectionTag n.tag then
      -- An empty list keeps the place, so that no collection waits twice.
      setContent id (.list [])
      modify fun s => { s with waiting := s.waiting ++ [id] }
    else setContent id (.scalar (← scalarOf ns id n))

def keyOf (id : Nat) : Make (Key × Value) := do
  refer id
  match ← content? id with
  | some (.scalar v) => return (← keyOfValue (← get).nodes id v, v)
  | _ => malformed

def pairsOf (id : Nat) : Make (List (Value × Nat)) := do
  let ns ← (← get).nodes.merged id
  modify fun s => { s with nodes := ns }
  let entries ← (ns.pairs id).foldlM (fun acc p => do
    let (key, name) ← keyOf p.1
    refer p.2
    return KeyEntry.put acc ⟨key, name, p.2⟩) []
  return entries.map fun e => (e.name, e.value)

def onlyPair (id : Nat) : Make (Nat × Nat) := do
  match (← get).nodes[id]? with
  | some (.mapping _ [(k, v)]) =>
    refer k
    refer v
    return (k, v)
  | _ => malformed

def fill (id : Nat) : Make Unit := do
  match (← get).nodes[id]? with
  | some (.sequence .sequence items) =>
    items.forM refer
    setContent id (.list items)
  | some (.sequence .pairs items) => setContent id (.pairs (← items.mapM onlyPair))
  | some (.mapping .mapping _) => setContent id (.mapping (← pairsOf id))
  | some (.mapping .set _) => setContent id (.set ((← pairsOf id).map (·.1)))
  | _ => malformed

def fillAll : (fuel : Nat) → Make Unit
  | 0 => return
  | fuel + 1 => do
    match (← get).waiting with
    | [] => return
    | id :: r =>
      modify fun s => { s with waiting := r }
      fill id
      fillAll fuel

end Make

def Graph.contents (g : Graph) (root : Nat) : Result (Array (Option Content)) := do
  let step : Make Unit := do
    Make.refer root
    Make.fillAll g.nodes.size
  let (_, s) ← step.run ⟨g.nodes, Array.replicate g.nodes.size none, []⟩
  return s.contents

end ClientBuilder.Yaml
