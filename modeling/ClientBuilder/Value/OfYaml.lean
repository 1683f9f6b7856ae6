import ClientBuilder.Yaml.Content
import ClientBuilder.Yaml.Graph.OfTokens
import ClientBuilder.Yaml.Token.Scan

namespace ClientBuilder.Value

open Yaml

def isYamlChar (c : Char) : Bool :=
  c = '\t' || c = '\n' || c = '\r' || (' ' ≤ c && c ≤ '~') || c = '\x85'
    || ('\xA0' ≤ c && c ≤ '\uD7FF') || ('\uE000' ≤ c && c ≤ '\uFFFD') || 0x10000 ≤ c.toNat

def ofContent (part : Nat → Value) : Content → Value
  | .scalar v => v
  | .list items => list (items.map part)
  | .pairs pairs => list (pairs.map fun p => tuple [part p.1, part p.2])
  | .set keys => set keys
  | .mapping pairs => mapping (pairs.map fun p => (p.1, part p.2))

def outline : Content → Value
  | .scalar v => v
  | .list _ => list []
  | .pairs _ => list []
  | .set _ => set []
  | .mapping _ => mapping []

/-- The values of all contents by number, followed down to a depth; null where there are none. -/
def table (contents : Array (Option Content)) : (depth : Nat) → Array Value
  | 0 => contents.map fun c => (c.map outline).getD null
  | depth + 1 =>
    let below := table contents depth
    contents.map fun c => (c.map (ofContent fun id => below.getD id null)).getD null

def collectionCount (contents : Array (Option Content)) : Nat :=
  -- Values are nested no deeper, unless one contains itself.
  contents.foldl (fun n c =>
    match c with
    | none => n
    | some (.scalar _) => n
    | some _ => n + 1) 0

def heightOver (heights : Array Nat) (c : Content) : Nat :=
  (c.parts.map fun id => heights.getD id 0 + 1).foldl max 0

/-- How often the heights of all contents change when they are taken from the parts over and over
again, at most `fuel` times. -/
def rounds (contents : Array (Option Content)) : (fuel : Nat) → (heights : Array Nat) → Nat
  | 0, _ => 0
  | fuel + 1, heights =>
    let next := contents.map fun c => (c.map (heightOver heights)).getD 0
    if next = heights then 0 else rounds contents fuel next + 1

/-- How deep collections are nested; as deep as there are collections, if one contains itself. -/
def nesting (contents : Array (Option Content)) : Nat :=
  rounds contents (collectionCount contents) (contents.map fun _ => 0)

/-- How many levels more a collection that contains itself is followed down; no description of a
document goes as deep. -/
def spareLevels : Nat :=
  16

def ofYaml (text : String) : Yaml.Result Value := do
  require (text.toList.all isYamlChar)
  let graph ← Graph.ofTokens (scanTokens text.toList)
  match graph.root with
  | none => return null
  | some root =>
    let contents ← graph.contents root
    return (table contents (nesting contents + spareLevels)).getD root null

end ClientBuilder.Value
