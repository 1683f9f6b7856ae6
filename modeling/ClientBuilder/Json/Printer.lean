import ClientBuilder.Json.Basic
import ClientBuilder.Text.Numeral

namespace ClientBuilder.Json

def unitEscape (unit : Nat) : List Char :=
  '\\' :: 'u' :: Text.hex 4 unit

def escape (c : Char) : List Char :=
  if c = '"' then ['\\', '"']
  else if c = '\\' then ['\\', '\\']
  else if c = '\n' then ['\\', 'n']
  else if c = '\r' then ['\\', 'r']
  else if c = '\t' then ['\\', 't']
  else if c = '\x08' then ['\\', 'b']
  else if c = '\x0c' then ['\\', 'f']
  else if ' ' ≤ c ∧ c ≤ '~' then [c]
  else if c.toNat < 0x10000 then unitEscape c.toNat
  else
    let n := c.toNat - 0x10000
    unitEscape (0xD800 + n / 0x400) ++ unitEscape (0xDC00 + n % 0x400)

def escapePoint : CodePoint → List Char
  | .char c => escape c
  | p => unitEscape p.toNat

def quote (t : Text) : List Char :=
  '"' :: t.flatMap escapePoint ++ ['"']

def minus (negative : Bool) : List Char :=
  if negative then ['-'] else []

/-- How items are set out: all on one line, or each on a line of its own, indented by a number of
blanks for each level. -/
inductive Layout where
  | compact
  | indented (step : Nat)
  deriving Repr, DecidableEq

namespace Layout

def lineStart : Layout → (level : Nat) → List Char
  | compact, _ => []
  | indented step, level => '\n' :: List.replicate (step * level) ' '

def colon : Layout → List Char
  | compact => [':']
  | indented _ => [':', ' ']

end Layout

mutual

def write (layout : Layout) (level : Nat) : Json → List Char
  | null => ['n', 'u', 'l', 'l']
  | bool true => ['t', 'r', 'u', 'e']
  | bool false => ['f', 'a', 'l', 's', 'e']
  | int n => Text.signedDecimal n
  | decimal negative c e => minus negative ++ Text.decimal c ++ 'e' :: Text.signedDecimal e
  | infinite negative => minus negative ++ infinityWord
  | notANumber => notANumberWord
  | string s => quote s
  | array [] => ['[', ']']
  | array (x :: r) =>
    '[' :: (layout.lineStart (level + 1) ++ write layout (level + 1) x
      ++ writeItems layout (level + 1) r ++ layout.lineStart level ++ [']'])
  | object [] => ['\x7b', '\x7d']
  | object ((k, v) :: r) =>
    '\x7b' :: (layout.lineStart (level + 1) ++ quote k ++ layout.colon
      ++ write layout (level + 1) v ++ writeFields layout (level + 1) r
      ++ layout.lineStart level ++ ['\x7d'])

def writeItems (layout : Layout) (level : Nat) : List Json → List Char
  | [] => []
  | x :: r => ',' :: (layout.lineStart level ++ write layout level x ++ writeItems layout level r)

def writeFields (layout : Layout) (level : Nat) : List (Text × Json) → List Char
  | [] => []
  | (k, v) :: r =>
    ',' :: (layout.lineStart level ++ quote k ++ layout.colon ++ write layout level v
      ++ writeFields layout level r)

end

def render (layout : Layout) (j : Json) : String :=
  String.ofList (j.write layout 0)

end ClientBuilder.Json
