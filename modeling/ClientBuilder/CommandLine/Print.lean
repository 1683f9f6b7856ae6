import ClientBuilder.Text.Basic
import ClientBuilder.Text.Numeral

namespace ClientBuilder.CommandLine

inductive Color where
  | red
  | green
  | yellow
  | cyan
  | white
  deriving Repr, DecidableEq

def Color.code : Color → Nat
  | red => 31
  | green => 32
  | yellow => 33
  | cyan => 36
  | white => 37

structure Print where
  text : Text
  color : Option Color := none
  bold : Bool := false
  -- Whether the line ends after it.
  endsLine : Bool := true
  deriving Repr, DecidableEq

def escapeChar : Char :=
  '\x1b'

def control (code : Nat) : Text :=
  .ofChars <| [escapeChar, '['] ++ Text.decimal code ++ ['m']

def isParameter (c : CodePoint) : Bool :=
  0x30 ≤ c.toNat && c.toNat ≤ 0x3F

def isIntermediate (c : CodePoint) : Bool :=
  0x20 ≤ c.toNat && c.toNat ≤ 0x2F

def isFinal (c : CodePoint) : Bool :=
  0x40 ≤ c.toNat && c.toNat ≤ 0x7E

/-- What follows a control sequence at the start of a text, if there is one; the start itself has
been passed already. A bracket is followed by parameters, then by intermediate characters, both as
many as there are, and by one final character. -/
def afterControl? : Text → Option Text
  | .char '[' :: r =>
    match (r.dropWhile isParameter).dropWhile isIntermediate with
    | c :: r' => if isFinal c then some r' else none
    | [] => none
  | _ => none

def stripControls (skip : Nat) : Text → Text
  -- `skip` is how many characters still belong to a control sequence.
  | [] => []
  | c :: r =>
    match skip with
    | n + 1 => stripControls n r
    | 0 =>
      match if c = .char escapeChar then afterControl? r else none with
      -- The start is passed already; the other characters of the sequence are still to be passed.
      | some rest => stripControls (r.length - rest.length) r
      | none => c :: stripControls 0 r

namespace Print

def line (text : Text) : Print :=
  { text := text }

def blank : Print :=
  line []

def styled (p : Print) : Text :=
  let style := (p.color.map fun c => control c.code).getD [] ++ if p.bold then control 1 else []
  if style.isEmpty then p.text else style ++ p.text ++ control 0

def render (colors : Bool) (p : Print) : Text :=
  (if colors then p.styled else stripControls 0 p.styled)
    ++ if p.endsLine then [.char '\n'] else []

end Print

def renderAll (colors : Bool) (prints : List Print) : Text :=
  prints.flatMap (Print.render colors)

end ClientBuilder.CommandLine
