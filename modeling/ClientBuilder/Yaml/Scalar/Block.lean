import ClientBuilder.Text.Numeral
import ClientBuilder.Yaml.Error
import ClientBuilder.Yaml.Cursor

namespace ClientBuilder.Yaml.Block

inductive Chomping where
  | clip
  | strip
  | keep
  deriving Repr, DecidableEq

structure Header where
  chomping : Chomping := .clip
  increment : Option Nat := none
  deriving Repr, DecidableEq

def chomping? (c : Cursor) : Option (Chomping × Cursor) :=
  match c.next? with
  | some '+' => some (.keep, c.advance)
  | some '-' => some (.strip, c.advance)
  | _ => none

def increment? (c : Cursor) : Result (Option (Nat × Cursor)) :=
  -- The indentation cannot be nought.
  match c.next? with
  | some x =>
    if x = '0' then malformed
    else if x.isDigit then .ok (some (Text.digitValue x, c.advance))
    else .ok none
  | none => .ok none

def header (c : Cursor) : Result (Header × Cursor) := do
  let (h, c) ← match chomping? c with
    | some (chomping, c) =>
      match ← increment? c with
      | some (n, c) => pure (⟨chomping, some n⟩, c)
      | none => pure (⟨chomping, none⟩, c)
    | none =>
      match ← increment? c with
      | some (n, c) =>
        match chomping? c with
        | some (chomping, c) => pure (⟨chomping, some n⟩, c)
        | none => pure (⟨.clip, some n⟩, c)
      | none => pure (⟨.clip, none⟩, c)
  require (endsWord c.next?)
  return (h, c)

def leading : (fuel : Nat) → (breaks : List Char) → (deepest : Nat) → Cursor →
    List Char × Nat × Cursor
  | 0, breaks, deepest, c => (breaks, deepest, c)
  | fuel + 1, breaks, deepest, c =>
    if c.startsWith ' ' then
      let c := c.advance
      leading fuel breaks (max deepest c.column) c
    else
      match c.lineBreak? with
      | some (b, c') => leading fuel (breaks ++ [b]) deepest c'
      | none => (breaks, deepest, c)

def indentTo (column : Nat) (c : Cursor) : Cursor :=
  c.forward (min (column - c.column) (c.rest.takeWhile (· = ' ')).length)

def emptyLines (indent : Nat) : (fuel : Nat) → (breaks : List Char) → Cursor → List Char × Cursor
  | 0, breaks, c => (breaks, c)
  | fuel + 1, breaks, c =>
    let c := indentTo indent c
    match c.lineBreak? with
    | some (b, c') => emptyLines indent fuel (breaks ++ [b]) c'
    | none => (breaks, c)

def atLine (indent : Nat) (c : Cursor) : Bool :=
  c.column = indent && !c.atEnd

/-- The lines of a scalar: their text, the end of the last one, and the empty lines after it.
`breaks` are the empty lines before this place. -/
def lines (indent : Nat) (folded : Bool) : (fuel : Nat) → (text breaks : List Char) → Cursor →
    List Char × List Char × List Char × Cursor
  | 0, text, breaks, c => (text, [], breaks, c)
  | fuel + 1, text, breaks, c =>
    if atLine indent c then
      let startsWhite := c.next?.any isWhite
      let (line, c) := c.takeWhile (!isBreak ·)
      let text := text ++ breaks ++ line
      let (lineEnd, c) := match c.lineBreak? with
        | some (b, c') => ([b], c')
        | none => ([], c)
      let (breaks, c) := emptyLines indent (c.rest.length + 1) [] c
      if atLine indent c then
        -- Lines that start with white space keep their line ends.
        let joins := folded && lineEnd == ['\n'] && !startsWhite && !c.next?.any isWhite
        let between := if joins then (if breaks.isEmpty then [' '] else []) else lineEnd
        lines indent folded fuel (text ++ between) breaks c
      else (text, lineEnd, breaks, c)
    else (text, [], breaks, c)

def scan (folded : Bool) (outer : Int) (c : Cursor) : Result (List Char × Cursor) := do
  -- The cursor is at the first mark.
  let (h, c) ← header c.advance
  match c.restOfLine? with
  | none => malformed
  | some c =>
    let least := max 1 (outer + 1).toNat
    let fuel := c.rest.length + 1
    let (indent, breaks, c) := match h.increment with
      | some n =>
        let indent := least + n - 1
        let (breaks, c) := emptyLines indent fuel [] c
        (indent, breaks, c)
      | none =>
        -- The first line with text tells the indentation.
        let (breaks, deepest, c) := leading fuel [] 0 c
        (max least deepest, breaks, c)
    let (text, lineEnd, breaks, c) := lines indent folded fuel [] breaks c
    let text := match h.chomping with
      | .strip => text
      | .clip => text ++ lineEnd
      | .keep => text ++ lineEnd ++ breaks
    return (text, c)

end ClientBuilder.Yaml.Block
