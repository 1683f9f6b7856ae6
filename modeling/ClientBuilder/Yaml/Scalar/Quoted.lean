import ClientBuilder.Text.Basic
import ClientBuilder.Text.Numeral
import ClientBuilder.Yaml.Error
import ClientBuilder.Yaml.Scalar.Plain

namespace ClientBuilder.Yaml.Quoted

def escapes : List (Char × Char) :=
  [('0', '\x00'), ('a', '\x07'), ('b', '\x08'), ('t', '\t'), ('\t', '\t'), ('n', '\n'),
    ('v', '\x0b'), ('f', '\x0c'), ('r', '\r'), ('e', '\x1b'), (' ', ' '), ('"', '"'),
    ('\\', '\\'), ('/', '/'), ('N', '\x85'), ('_', '\xa0'), ('L', '\u2028'), ('P', '\u2029')]

def codeWidth? : Char → Option Nat
  | 'x' => some 2
  | 'u' => some 4
  | 'U' => some 8
  | _ => none

def moreBreaks : (fuel : Nat) → List Char → Cursor → Result (List Char × Cursor)
  -- No document may end there.
  | 0, acc, c => .ok (acc, c)
  | fuel + 1, acc, c =>
    if c.atDocumentMark then malformed
    else
      let c := c.skipWhile isWhite
      match c.lineBreak? with
      | some (b, c') => moreBreaks fuel (acc ++ [b]) c'
      | none => .ok (acc, c)

def space (c : Cursor) : Result (List Char × Cursor) := do
  let (blanks, c) := c.takeWhile isWhite
  match c.lineBreak? with
  | some (b, c) =>
    let (more, c) ← moreBreaks (c.rest.length + 1) [] c
    return (foldBreaks b more, c)
  | none => return (blanks, c)

def numberLimit : Nat :=
  0x80000000

def codePoint (code : Nat) : Result CodePoint :=
  match CodePoint.ofNat? code with
  | some p => .ok p
  | none => .error (.scalar (if code < numberLimit then .badValue else .numberTooLarge))

def escape (c : Cursor) : Result (Text × Cursor) := do
  -- The cursor is behind the backslash.
  match c.next? with
  | none => malformed
  | some x =>
    match escapes.lookup x, codeWidth? x, c.lineBreak? with
    | some y, _, _ => return ([.char y], c.advance)
    | none, some width, _ =>
      let digits := (c.rest.drop 1).take width
      require (digits.length = width)
      match Text.ofHex? digits with
      | none => malformed
      | some code => return ([← codePoint code], c.forward (width + 1))
    | none, none, some (_, c) =>
      let (more, c) ← moreBreaks (c.rest.length + 1) [] c
      return (.ofChars more, c)
    | none, none, none => malformed

def scanFrom (quote : Char) : (fuel : Nat) → Text → Cursor → Result (Text × Cursor)
  -- The cursor is behind the opening quote.
  | 0, _, _ => malformed
  | fuel + 1, acc, c =>
    match c.rest with
    | [] => malformed
    | x :: r =>
      if x = quote then
        if quote = '\'' ∧ r.head? = some '\'' then
          scanFrom quote fuel (acc ++ [.char '\'']) (c.forward 2)
        else .ok (acc, c.advance)
      else if x = '\\' ∧ quote = '"' then do
        let (e, c) ← escape c.advance
        scanFrom quote fuel (acc ++ e) c
      else if isWhite x || isBreak x then do
        let (s, c) ← space c
        scanFrom quote fuel (acc ++ .ofChars s) c
      else scanFrom quote fuel (acc ++ [.char x]) c.advance

def scan (quote : Char) (c : Cursor) : Result (Text × Cursor) :=
  -- The cursor is at the opening quote.
  scanFrom quote (c.rest.length + 1) [] c.advance

end ClientBuilder.Yaml.Quoted
