namespace ClientBuilder.Yaml

def byteOrderMark : Char :=
  '\uFEFF'

def isBreak (c : Char) : Bool :=
  c = '\n' || c = '\r' || c = '\x85' || c = '\u2028' || c = '\u2029'

def isWhite (c : Char) : Bool :=
  c = ' ' || c = '\t'

def endsWord : Option Char → Bool
  | none => true
  | some c => c = ' ' || isBreak c

def endsToken : Option Char → Bool
  | none => true
  | some c => isWhite c || isBreak c

def endsLine : Option Char → Bool
  | none => true
  | some c => isBreak c

structure Cursor where
  rest : List Char
  index : Nat := 0
  line : Nat := 0
  column : Nat := 0
  deriving Repr, DecidableEq

namespace Cursor

def next? (c : Cursor) : Option Char :=
  c.rest.head?

def peek? (c : Cursor) (n : Nat) : Option Char :=
  c.rest[n]?

def atEnd (c : Cursor) : Bool :=
  c.rest.isEmpty

def startsWith (c : Cursor) (x : Char) : Bool :=
  c.next? == some x

def endsItsLine (x : Char) (following : List Char) : Bool :=
  if x = '\r' then following.head? != some '\n' else isBreak x

def advance (c : Cursor) : Cursor :=
  match c.rest with
  | [] => c
  | x :: r =>
    if endsItsLine x r then ⟨r, c.index + 1, c.line + 1, 0⟩
    else ⟨r, c.index + 1, c.line, if x = byteOrderMark then c.column else c.column + 1⟩

def forward : (n : Nat) → Cursor → Cursor
  | 0, c => c
  | n + 1, c => forward n c.advance

def takeWhile (c : Cursor) (test : Char → Bool) : List Char × Cursor :=
  let run := c.rest.takeWhile test
  (run, forward run.length c)

def skipWhile (c : Cursor) (test : Char → Bool) : Cursor :=
  (c.takeWhile test).2

def skipBlanks (c : Cursor) : Cursor :=
  c.skipWhile (· = ' ')

/-- Passes over a line end, which counts as a line feed unless it is one of the two separators that
have code points of their own for lines and paragraphs. -/
def lineBreak? (c : Cursor) : Option (Char × Cursor) :=
  match c.rest with
  | '\r' :: '\n' :: _ => some ('\n', forward 2 c)
  | x :: _ =>
    if x = '\u2028' ∨ x = '\u2029' then some (x, c.advance)
    else if isBreak x then some ('\n', c.advance)
    else none
  | [] => none

def atMark (c : Cursor) (x : Char) : Bool :=
  match c.rest with
  | a :: b :: d :: r => a = x && b = x && d = x && endsToken r.head?
  | _ => false

def atDocumentMark (c : Cursor) : Bool :=
  c.atMark '-' || c.atMark '.'

def restOfLine? (c : Cursor) : Option Cursor :=
  -- The result says whether to go on with the next line.
  let c := c.skipBlanks
  let c := if c.startsWith '#' then c.skipWhile (!isBreak ·) else c
  if endsLine c.next? then
    match c.lineBreak? with
    | some (_, c') => some c'
    | none => some c
  else none

end Cursor

end ClientBuilder.Yaml
