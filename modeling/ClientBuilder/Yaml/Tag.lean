namespace ClientBuilder.Yaml

inductive Tag where
  | null
  | bool
  | int
  | float
  | binary
  | timestamp
  | text
  | sequence
  | mapping
  | set
  -- A sequence of mappings with one pair each.
  | pairs
  -- The key under which a mapping takes over the pairs of other ones.
  | merge
  -- The key whose value stands for the mapping itself.
  | value
  | unknown
  deriving Repr, DecidableEq

def standardStart : String :=
  "tag:yaml.org,2002:"

def standardTags : List (String × Tag) :=
  [("null", .null), ("bool", .bool), ("int", .int), ("float", .float), ("binary", .binary),
    ("timestamp", .timestamp), ("str", .text), ("seq", .sequence), ("map", .mapping),
    ("set", .set), ("omap", .pairs), ("pairs", .pairs), ("merge", .merge), ("value", .value)]

def Tag.ofText (s : String) : Tag :=
  ((standardTags.map fun p => (standardStart ++ p.1, p.2)).lookup s).getD .unknown

end ClientBuilder.Yaml
