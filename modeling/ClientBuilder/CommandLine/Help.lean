import ClientBuilder.CommandLine.Options

namespace ClientBuilder.CommandLine

structure Page where
  usage : String
  description : List String
  options : List (String × String)
  commands : List (String × String) := []

namespace Page

def columns (rows : List (String × String)) : List String :=
  -- The second column starts two blanks behind the longest entry of the first one.
  let width := (rows.map (·.1.length)).foldl max 0 + 2
  rows.map fun r => "  " ++ r.1 ++ String.ofList (List.replicate (width - r.1.length) ' ') ++ r.2

def section? (heading : String) (rows : List (String × String)) : List String :=
  if rows.isEmpty then [] else "" :: (heading ++ ":") :: columns rows

def lines (p : Page) : List String :=
  [p.usage, ""] ++ p.description.map ("  " ++ ·) ++ section? "Options" p.options
    ++ section? "Commands" p.commands

def text (p : Page) : String :=
  String.join (p.lines.map (· ++ "\n"))

end Page

def optionRows {ι : Type} (flags : List (Flag ι)) : List (String × String) :=
  flags.map fun f => (f.label, f.help)

end ClientBuilder.CommandLine
