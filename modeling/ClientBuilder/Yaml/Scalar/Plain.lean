import ClientBuilder.Yaml.Cursor

namespace ClientBuilder.Yaml

def isFlowMark (c : Char) : Bool :=
  c = ',' || c = '[' || c = ']' || c = '\x7b' || c = '\x7d'

/-- What a run of line ends comes to: the first one, a line feed, is a blank if it stands alone and
nothing if it does not. -/
def foldBreaks (first : Char) (more : List Char) : List Char :=
  (if first ≠ '\n' then [first] else if more.isEmpty then [' '] else []) ++ more

namespace Plain

def endsKey (inFlow : Bool) : Option Char → Bool
  | none => true
  | some c => endsToken (some c) || (inFlow && isFlowMark c)

def runLength (inFlow : Bool) : List Char → Nat
  | [] => 0
  | c :: r =>
    if endsToken (some c) || (c = ':' && endsKey inFlow r.head?)
        || (inFlow && (isFlowMark c || c = '?')) then 0
    else runLength inFlow r + 1

def moreBreaks : (fuel : Nat) → List Char → Cursor → Option (List Char) × Cursor
  -- Nothing if a document ends there.
  | 0, acc, c => (some acc, c)
  | fuel + 1, acc, c =>
    if c.startsWith ' ' then moreBreaks fuel acc c.advance
    else
      match c.lineBreak? with
      | some (b, c') =>
        if c'.atDocumentMark then (none, c') else moreBreaks fuel (acc ++ [b]) c'
      | none => (some acc, c)

/-- What the space between two runs comes to, if the scalar goes on at all, and whether a line
ended. -/
def space (c : Cursor) : List Char × Cursor × Bool :=
  let (blanks, c) := c.takeWhile (· = ' ')
  match c.lineBreak? with
  | none => (blanks, c, false)
  | some (b, c) =>
    if c.atDocumentMark then ([], c, true)
    else
      match moreBreaks (c.rest.length + 1) [] c with
      | (none, c) => ([], c, true)
      | (some more, c) => (foldBreaks b more, c, true)

def runs (inFlow : Bool) (indent : Int) :
    (fuel : Nat) → (text gap : List Char) → Cursor → (lineEnded : Bool) → List Char × Cursor × Bool
  | 0, text, _, c, lineEnded => (text, c, lineEnded)
  | fuel + 1, text, gap, c, lineEnded =>
    let n := runLength inFlow c.rest
    if c.startsWith '#' || n = 0 then (text, c, lineEnded)
    else
      let text := text ++ gap ++ c.rest.take n
      let (gap, c, lineEnded) := space (c.forward n)
      if gap.isEmpty || c.startsWith '#' || (!inFlow && c.column < indent) then (text, c, lineEnded)
      else runs inFlow indent fuel text gap c lineEnded

def scan (inFlow : Bool) (indent : Int) (c : Cursor) : List Char × Cursor × Bool :=
  runs inFlow indent (c.rest.length + 1) [] [] c false

end Plain

end ClientBuilder.Yaml
