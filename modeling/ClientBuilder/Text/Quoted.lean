import ClientBuilder.Text.Basic
import ClientBuilder.Text.Numeral
import ClientBuilder.Text.Printable

namespace ClientBuilder.Text

def quoteFor (t : Text) : Char :=
  if t.contains (.char '\'') && !t.contains (.char '"') then '"' else '\''

def codeEscape (code : Nat) : List Char :=
  if code < 0x100 then '\\' :: 'x' :: hex 2 code
  else if code < 0x10000 then '\\' :: 'u' :: hex 4 code
  else '\\' :: 'U' :: hex 8 code

def writtenPoint : CodePoint → List Char
  -- A surrogate is written by its number.
  | .char c => [c]
  | p => codeEscape p.toNat

def quotedChar (quote : Char) (c : Char) : List Char :=
  if c = quote ∨ c = '\\' then ['\\', c]
  else if c = '\n' then ['\\', 'n']
  else if c = '\r' then ['\\', 'r']
  else if c = '\t' then ['\\', 't']
  else if isPrintable c then [c]
  else codeEscape c.toNat

def quotedPoint (quote : Char) : CodePoint → List Char
  | .char c => quotedChar quote c
  | p => codeEscape p.toNat

def quoted (t : Text) : String :=
  let q := quoteFor t
  String.ofList (q :: t.flatMap (quotedPoint q) ++ [q])

def quotedBytes (bytes : List UInt8) : String :=
  let cs := bytes.map fun b => Char.ofNat b.toNat
  let q := quoteFor (ofChars cs)
  let one (c : Char) : List Char :=
    if c.toNat < 0x7F then quotedChar q c else codeEscape c.toNat
  String.ofList ('b' :: q :: cs.flatMap one ++ [q])

end ClientBuilder.Text
