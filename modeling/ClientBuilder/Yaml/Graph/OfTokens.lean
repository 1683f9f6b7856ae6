import ClientBuilder.Yaml.Error
import ClientBuilder.Yaml.Graph
import ClientBuilder.Yaml.Scalar.Implicit
import ClientBuilder.Yaml.Token

namespace ClientBuilder.Yaml

structure Composition where
  tokens : List Token
  nodes : Array GraphNode := #[]
  anchors : List (String × Nat) := []
  -- What the handles of tags stand for.
  handles : List (String × String) := []
  -- How many collections the next node stands in.
  level : Nat := 0

abbrev Compose (α : Type) :=
  StateT Composition (Except Error) α

namespace Compose

def commonHandles : List (String × String) :=
  [("!", "!"), ("!!", standardStart)]

def malformed {α : Type} : Compose α :=
  throw .malformed

def next? : Compose (Option Token) := do
  -- What keeps the next token from being scanned comes up with it.
  match (← get).tokens with
  | .fault e :: _ => throw e
  | t :: _ => return some t
  | [] => return none

def skip : Compose Unit :=
  modify fun s => { s with tokens := s.tokens.drop 1 }

def add (n : GraphNode) : Compose Nat :=
  modifyGet fun s => (s.nodes.size, { s with nodes := s.nodes.push n })

def fill (id : Nat) (n : GraphNode) : Compose Unit :=
  modify fun s => { s with nodes := s.nodes.setIfInBounds id n }

def empty : Compose Nat :=
  add (.scalar .null [])

def bindAnchor (anchor : Option String) (id : Nat) : Compose Unit :=
  match anchor with
  | some a => modify fun s => { s with anchors := (a, id) :: s.anchors }
  | none => return

def properties : Compose (Option String × Option (Option String × String)) := do
  match ← next? with
  | some (.anchor a) =>
    skip
    match ← next? with
    | some (.tag handle rest) =>
      skip
      return (some a, some (handle, rest))
    | _ => return (some a, none)
  | some (.tag handle rest) =>
    skip
    match ← next? with
    | some (.anchor a) =>
      skip
      return (some a, some (handle, rest))
    | _ => return (none, some (handle, rest))
  | _ => return (none, none)

def tagText : Option String × String → Compose String
  | (none, rest) => return rest
  | (some handle, rest) => do
    match (← get).handles.lookup handle with
    | some start => return start ++ rest
    | none => malformed

/-- The tag of a scalar: its own one, or else what its characters say. Quotes keep them from saying
anything, unless the tag asks for it. -/
def scalarTag (tag : Option String) (text : Text) (plain : Bool) : Tag :=
  match tag with
  | none => if plain then Implicit.tag text else .text
  | some t => if t = "!" then Implicit.tag text else Tag.ofText t

def collectionTag (tag : Option String) (usual : Tag) : Tag :=
  match tag with
  | none => usual
  | some t => if t = "!" then usual else Tag.ofText t

def endsBlockItem : Option Token → Bool
  | some .blockEntry => true
  | some .blockEnd => true
  | _ => false

def endsPlainItem : Option Token → Bool
  | some .blockEntry => true
  | some .key => true
  | some .value => true
  | some .blockEnd => true
  | _ => false

def endsBlockPart : Option Token → Bool
  | some .key => true
  | some .value => true
  | some .blockEnd => true
  | _ => false

def endsFlowKey (close : Token) (t : Option Token) : Bool :=
  t == some .value || t == some .flowEntry || t == some close

def endsFlowValue (close : Token) (t : Option Token) : Bool :=
  t == some .flowEntry || t == some close

/-- How deep collections may be nested. The fixed number stands for a limit on calls within calls,
of which each level of nesting takes two: the more calls are under way where a text is read, the
fewer levels are left to it. -/
def nestingLimit : Nat :=
  488

def within {α : Type} (x : Compose α) : Compose α := do
  if nestingLimit ≤ (← get).level then throw .tooDeep
  modify fun s => { s with level := s.level + 1 }
  let a ← x
  modify fun s => { s with level := s.level - 1 }
  return a

def sequence (anchor : Option String) (tag : Tag) (items : Compose (List Nat)) : Compose Nat := do
  -- The items can refer to the sequence already.
  let id ← add (.sequence tag [])
  bindAnchor anchor id
  fill id (.sequence tag (← within items))
  return id

def mapping (anchor : Option String) (tag : Option String)
    (pairs : Compose (List (Nat × Nat))) : Compose Nat := do
  -- The pairs can refer to the mapping already.
  let tag := collectionTag tag .mapping
  let id ← add (.mapping tag [])
  bindAnchor anchor id
  fill id (.mapping tag (← within pairs))
  return id

mutual

/-- A node. A block collection can stand where `block` allows it, and a sequence that is not
indented where `plainItems` does. -/
def node : (fuel : Nat) → (block plainItems : Bool) → Compose Nat
  | 0, _, _ => malformed
  | fuel + 1, block, plainItems => do
    if let some (.alias name) ← next? then
      skip
      match (← get).anchors.lookup name with
      | some id => return id
      | none => malformed
    else
      let (anchor, tag) ← properties
      let tag ← match tag with
        | some t => some <$> tagText t
        | none => pure none
      let usual := collectionTag tag .sequence
      let t ← next?
      if let some a := anchor then
        if ((← get).anchors.lookup a).isSome then malformed
      match t with
      | some (.scalar text plain) =>
        skip
        let id ← add (.scalar (scalarTag tag text plain) text)
        bindAnchor anchor id
        return id
      | some .flowSequenceStart =>
        skip
        sequence anchor usual (flowItems fuel true)
      | some .flowMappingStart =>
        skip
        mapping anchor tag (flowPairs fuel true)
      | t =>
        if plainItems && t == some .blockEntry then
          sequence anchor usual (plainEntries fuel)
        else if block && t == some .blockSequenceStart then
          skip
          sequence anchor usual (blockItems fuel)
        else if block && t == some .blockMappingStart then
          skip
          mapping anchor tag (blockPairs fuel)
        -- An anchor or a tag alone stands for an empty scalar.
        else if anchor.isSome || tag.isSome then
          let id ← add (.scalar (scalarTag tag [] true) [])
          bindAnchor anchor id
          return id
        else malformed

def blockItems : (fuel : Nat) → Compose (List Nat)
  | 0 => malformed
  | fuel + 1 => do
    match ← next? with
    | some .blockEntry =>
      skip
      let id ← if endsBlockItem (← next?) then empty else node fuel true false
      return id :: (← blockItems fuel)
    | some .blockEnd =>
      skip
      return []
    | _ => malformed

def plainEntries : (fuel : Nat) → Compose (List Nat)
  | 0 => malformed
  | fuel + 1 => do
    match ← next? with
    | some .blockEntry =>
      skip
      let id ← if endsPlainItem (← next?) then empty else node fuel true false
      return id :: (← plainEntries fuel)
    | _ => return []

def blockPairs : (fuel : Nat) → Compose (List (Nat × Nat))
  | 0 => malformed
  | fuel + 1 => do
    match ← next? with
    | some .key =>
      skip
      let k ← if endsBlockPart (← next?) then empty else node fuel true true
      let v ← if (← next?) == some .value then do
          skip
          if endsBlockPart (← next?) then empty else node fuel true true
        else empty
      return (k, v) :: (← blockPairs fuel)
    | some .blockEnd =>
      skip
      return []
    | _ => malformed

def flowItems : (fuel : Nat) → (first : Bool) → Compose (List Nat)
  -- A key makes a mapping of one pair.
  | 0, _ => malformed
  | fuel + 1, first => do
    if (← next?) == some .flowSequenceEnd then
      skip
      return []
    if !first then
      if (← next?) == some .flowEntry then skip else malformed
    match ← next? with
    | some .flowSequenceEnd =>
      skip
      return []
    | some .key =>
      skip
      let id ← add (.mapping .mapping [])
      let pair ← within (flowPair fuel .flowSequenceEnd)
      fill id (.mapping .mapping [pair])
      return id :: (← flowItems fuel false)
    | _ =>
      let id ← node fuel false false
      return id :: (← flowItems fuel false)

def flowPair : (fuel : Nat) → (close : Token) → Compose (Nat × Nat)
  | 0, _ => malformed
  | fuel + 1, close => do
    let k ← if endsFlowKey close (← next?) then empty else node fuel false false
    let v ← if (← next?) == some .value then do
        skip
        if endsFlowValue close (← next?) then empty else node fuel false false
      else empty
    return (k, v)

def flowPairs : (fuel : Nat) → (first : Bool) → Compose (List (Nat × Nat))
  -- A node without the mark of a key has an empty value.
  | 0, _ => malformed
  | fuel + 1, first => do
    if (← next?) == some .flowMappingEnd then
      skip
      return []
    if !first then
      if (← next?) == some .flowEntry then skip else malformed
    match ← next? with
    | some .flowMappingEnd =>
      skip
      return []
    | some .key =>
      skip
      let pair ← flowPair fuel .flowMappingEnd
      return pair :: (← flowPairs fuel false)
    | _ =>
      let k ← node fuel false false
      let v ← empty
      return (k, v) :: (← flowPairs fuel false)

end

/-- Takes the directives before a document: at most one version, of which the first number has to be
1, and no handle twice. -/
def directives : (fuel : Nat) → (version : Bool) → (handles : List (String × String)) →
    Compose (List (String × String))
  | 0, _, _ => malformed
  | fuel + 1, version, handles => do
    match ← next? with
    | some (.versionDirective major) =>
      if version || major ≠ 1 then malformed
      skip
      directives fuel true handles
    | some (.tagDirective handle start) =>
      if (handles.lookup handle).isSome then malformed
      skip
      directives fuel version ((handle, start) :: handles)
    | some .otherDirective =>
      skip
      directives fuel version handles
    | _ => return handles

def endsContent : Option Token → Bool
  | none => true
  | some (.versionDirective _) => true
  | some (.tagDirective _ _) => true
  | some .otherDirective => true
  | some .documentStart => true
  | some .documentEnd => true
  | _ => false

def startsMarked (t : Option Token) : Bool :=
  t != none && t != some .documentEnd && endsContent t

def document (fuel : Nat) : Compose (Option Nat) := do
  match ← next? with
  | none => return none
  | t =>
    let root ← if startsMarked t then do
        let handles ← directives fuel false []
        modify fun s => { s with handles := handles ++ commonHandles }
        if (← next?) == some .documentStart then skip else malformed
        if endsContent (← next?) then empty else node fuel true false
      else do
        modify fun s => { s with handles := commonHandles }
        node fuel true false
    modify fun s => { s with tokens := s.tokens.dropWhile (· == .documentEnd) }
    if (← next?).isSome then
      -- The directives of a second document still come before the refusal of the document.
      let _ ← directives fuel false []
      malformed
    return some root

end Compose

def Graph.ofTokens (tokens : List Token) : Result Graph := do
  let (root, s) ← (Compose.document (4 * tokens.length + 4)).run { tokens := tokens }
  return ⟨s.nodes, root⟩

end ClientBuilder.Yaml
