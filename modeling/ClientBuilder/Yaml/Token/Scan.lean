import ClientBuilder.Yaml.Scalar.Block
import ClientBuilder.Yaml.Scalar.Plain
import ClientBuilder.Yaml.Scalar.Quoted
import ClientBuilder.Yaml.Token.Tag

/-!
Scanning a YAML text into tokens. Outside flow collections, indentation opens and closes block
collections. What may turn out to be a key is remembered until a colon follows on the same line, not
too far on; the tokens that make it a key are then put in before it.
-/

namespace ClientBuilder.Yaml

structure PendingKey where
  -- How many tokens stand before it.
  position : Nat
  -- Whether nothing else can stand at this place.
  required : Bool
  index : Nat
  line : Nat
  column : Nat
  deriving Repr, DecidableEq

structure Scanner where
  cursor : Cursor
  -- The column of the innermost block collection, and those of the ones around it; -1 outside all.
  indent : Int := -1
  outerIndents : List Int := []
  -- How many flow collections are open.
  flowLevel : Nat := 0
  -- Whether a key may start at this place.
  keyAllowed : Bool := true
  -- What may turn out to be a key, at most one thing for each flow level.
  pending : List (Nat × PendingKey) := []
  -- The tokens so far, the last one first.
  tokens : List Token := []
  count : Nat := 0

namespace Scanner

def inFlow (s : Scanner) : Bool :=
  0 < s.flowLevel

def push (s : Scanner) (t : Token) : Scanner :=
  { s with tokens := t :: s.tokens, count := s.count + 1 }

def insertAt (s : Scanner) (position : Nat) (t : Token) : Scanner :=
  -- The tokens are kept in reverse, so what stands after the place comes first.
  let n := s.count - position
  { s with tokens := s.tokens.take n ++ t :: s.tokens.drop n, count := s.count + 1 }

def keyReach : Nat :=
  1024

def isStale (c : Cursor) (k : PendingKey) : Bool :=
  k.line ≠ c.line || keyReach < c.index - k.index

def dropStale (s : Scanner) : Result Scanner := do
  -- A required key must not be given up.
  require (!s.pending.any fun p => isStale s.cursor p.2 && p.2.required)
  return { s with pending := s.pending.filter fun p => !isStale s.cursor p.2 }

def pending? (s : Scanner) : Option PendingKey :=
  s.pending.lookup s.flowLevel

def withoutPending (s : Scanner) : Scanner :=
  { s with pending := s.pending.filter fun p => p.1 ≠ s.flowLevel }

def dropPending (s : Scanner) : Result Scanner := do
  -- A required key must not be given up.
  require (!s.pending?.any PendingKey.required)
  return s.withoutPending

def savePending (s : Scanner) : Result Scanner := do
  if s.keyAllowed then
    -- At the indentation of a block mapping nothing but a key can stand.
    let required := !s.inFlow && s.indent == s.cursor.column
    let s ← s.dropPending
    let key : PendingKey := ⟨s.count, required, s.cursor.index, s.cursor.line, s.cursor.column⟩
    return { s with pending := (s.flowLevel, key) :: s.pending }
  else return s

def closeBlocks (column : Int) : (outer : List Int) → Scanner → Scanner
  | [], s => s
  | o :: outer, s =>
    if column < s.indent then
      closeBlocks column outer ({ s with indent := o, outerIndents := outer }.push .blockEnd)
    else s

def unwind (s : Scanner) (column : Int) : Scanner :=
  if s.inFlow then s else closeBlocks column s.outerIndents s

/-- Opens a block collection at a column, unless one is open there: its start goes after a number of
tokens. -/
def openBlock (s : Scanner) (column position : Nat) (start : Token) : Scanner :=
  if s.indent < column then
    { s with indent := column, outerIndents := s.indent :: s.outerIndents }.insertAt position start
  else s

def mark (s : Scanner) (width : Nat) (t : Token) : Scanner :=
  { s with cursor := s.cursor.forward width }.push t

def skipToToken : (fuel : Nat) → Scanner → Scanner
  | 0, s => s
  | fuel + 1, s =>
    let c := s.cursor.skipBlanks
    let c := if c.startsWith '#' then c.skipWhile (!isBreak ·) else c
    match c.lineBreak? with
    | some (_, c') =>
      skipToToken fuel { s with cursor := c', keyAllowed := s.keyAllowed || !s.inFlow }
    | none => { s with cursor := c }

def finish (s : Scanner) : Result Scanner :=
  (s.unwind (-1)).dropPending

def betweenDocuments (s : Scanner) : Result Scanner := do
  let s ← (s.unwind (-1)).dropPending
  return { s with keyAllowed := false }

def directive (s : Scanner) : Result Scanner := do
  let s ← s.betweenDocuments
  let (t, c) ← scanDirective s.cursor
  return { s with cursor := c }.push t

def documentMark (s : Scanner) (t : Token) : Result Scanner := do
  let s ← s.betweenDocuments
  return s.mark 3 t

def flowStart (s : Scanner) (t : Token) : Result Scanner := do
  let s ← s.savePending
  return { s with flowLevel := s.flowLevel + 1, keyAllowed := true }.mark 1 t

def flowEnd (s : Scanner) (t : Token) : Result Scanner := do
  require s.inFlow
  let s ← s.dropPending
  return { s with flowLevel := s.flowLevel - 1, keyAllowed := false }.mark 1 t

def flowEntry (s : Scanner) : Result Scanner := do
  let s ← s.dropPending
  return { s with keyAllowed := true }.mark 1 .flowEntry

def blockEntry (s : Scanner) : Result Scanner := do
  -- Outside flow collections it opens a sequence at its column.
  require (s.inFlow || s.keyAllowed)
  let s := if s.inFlow then s else s.openBlock s.cursor.column s.count .blockSequenceStart
  let s ← s.dropPending
  return { s with keyAllowed := true }.mark 1 .blockEntry

def keyMark (s : Scanner) : Result Scanner := do
  -- Outside flow collections it opens a mapping at its column.
  require (s.inFlow || s.keyAllowed)
  let s := if s.inFlow then s else s.openBlock s.cursor.column s.count .blockMappingStart
  let s ← s.dropPending
  return { s with keyAllowed := !s.inFlow }.mark 1 .key

/-- The mark of a value. It makes a key of what is pending; otherwise the key is empty, or has a
mark of its own. -/
def valueMark (s : Scanner) : Result Scanner := do
  match s.pending? with
  | some k =>
    let s := s.withoutPending.insertAt k.position .key
    let s := if s.inFlow then s else s.openBlock k.column k.position .blockMappingStart
    return { s with keyAllowed := false }.mark 1 .value
  | none =>
    require (s.inFlow || s.keyAllowed)
    let s := if s.inFlow then s else s.openBlock s.cursor.column s.count .blockMappingStart
    let s ← s.dropPending
    return { s with keyAllowed := !s.inFlow }.mark 1 .value

def keyStart (s : Scanner) (read : Cursor → Result (Token × Cursor)) : Result Scanner := do
  let s ← s.savePending
  let (t, c) ← read s.cursor
  return { s with cursor := c, keyAllowed := false }.push t

def aliasName (s : Scanner) : Result Scanner :=
  s.keyStart fun c => do
    let (name, c) ← scanAnchor c
    return (.alias name, c)

def anchorName (s : Scanner) : Result Scanner :=
  s.keyStart fun c => do
    let (name, c) ← scanAnchor c
    return (.anchor name, c)

def tag (s : Scanner) : Result Scanner :=
  s.keyStart scanTag

def quoted (s : Scanner) (quote : Char) : Result Scanner :=
  s.keyStart fun c => do
    let (text, c) ← Quoted.scan quote c
    return (.scalar text false, c)

def block (s : Scanner) (folded : Bool) : Result Scanner := do
  let s ← s.dropPending
  let (text, c) ← Block.scan folded s.indent s.cursor
  return { s with cursor := c, keyAllowed := true }.push (.scalar (.ofChars text) false)

def plain (s : Scanner) : Result Scanner := do
  let s ← s.savePending
  let (text, c, lineEnded) := Plain.scan s.inFlow (s.indent + 1) s.cursor
  return { s with cursor := c, keyAllowed := lineEnded }.push
    (.scalar (.ofChars text) true)

def isIndicator (c : Char) : Bool :=
  "-?:,[]\x7b\x7d#&*!|>'\"%@\x60".toList.contains c

def startsPlain (s : Scanner) (x : Char) : Bool :=
  !(endsToken (some x) || isIndicator x)
    || (!endsToken (s.cursor.peek? 1) && (x = '-' || (!s.inFlow && (x = '?' || x = ':'))))

def token (s : Scanner) (x : Char) : Result Scanner :=
  let atStart := s.cursor.column = 0
  let alone := endsToken (s.cursor.peek? 1)
  -- Marks at the start of a line come first, since they end whatever is open.
  if x = '%' ∧ atStart then s.directive
  else if atStart ∧ s.cursor.atMark '-' then s.documentMark .documentStart
  else if atStart ∧ s.cursor.atMark '.' then s.documentMark .documentEnd
  else if x = '[' then s.flowStart .flowSequenceStart
  else if x = '\x7b' then s.flowStart .flowMappingStart
  else if x = ']' then s.flowEnd .flowSequenceEnd
  else if x = '\x7d' then s.flowEnd .flowMappingEnd
  else if x = ',' then s.flowEntry
  -- Outside flow collections these three are marks only before white space.
  else if x = '-' ∧ alone then s.blockEntry
  else if x = '?' ∧ (s.inFlow ∨ alone) then s.keyMark
  else if x = ':' ∧ (s.inFlow ∨ alone) then s.valueMark
  else if x = '*' then s.aliasName
  else if x = '&' then s.anchorName
  else if x = '!' then s.tag
  else if x = '|' ∧ !s.inFlow then s.block false
  else if x = '>' ∧ !s.inFlow then s.block true
  else if x = '\'' then s.quoted '\''
  else if x = '"' then s.quoted '"'
  else if s.startsPlain x then s.plain
  else malformed

/-- How many tokens are handed on before the next one is scanned: all of them, unless one may still
turn out to be a key, which is not handed on before that is known. -/
def handedOn (s : Scanner) : Nat :=
  ((s.pending.filter fun p => !isStale s.cursor p.2).map (·.2.position)).foldl min s.count

def stopAt (s : Scanner) (e : Error) : List Token :=
  s.tokens.reverse.take s.handedOn ++ [.fault e]

def next (s : Scanner) (fuel : Nat) : Result (Scanner × Bool) := do
  let s ← (skipToToken fuel s).dropStale
  let s := s.unwind s.cursor.column
  match s.cursor.next? with
  | none => return (← s.finish, true)
  | some x => return (← s.token x, false)

/-- Scans the text to its end, or to a fault. Every token takes a character at least, so there is
fuel left for each character that is left. -/
def run : (fuel : Nat) → Scanner → List Token
  | 0, s => s.stopAt .malformed
  | fuel + 1, s =>
    match s.next (fuel + 1) with
    | .ok (s, false) => run fuel s
    | .ok (s, true) => s.tokens.reverse
    | .error e => s.stopAt e

end Scanner

def scanTokens (text : List Char) : List Token :=
  let body := if text.head? = some byteOrderMark then text.drop 1 else text
  let start := if text.head? = some byteOrderMark then 1 else 0
  Scanner.run (text.length + 1) { cursor := ⟨body, start, 0, 0⟩ }

end ClientBuilder.Yaml
