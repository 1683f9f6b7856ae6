import ClientBuilder.Text.Basic
import ClientBuilder.Yaml.Error

namespace ClientBuilder.Yaml

inductive Token where
  | versionDirective (major : Nat)
  -- A handle that stands for the start of tags.
  | tagDirective (handle start : String)
  | otherDirective
  | documentStart
  | documentEnd
  | blockSequenceStart
  | blockMappingStart
  | blockEnd
  | flowSequenceStart
  | flowSequenceEnd
  | flowMappingStart
  | flowMappingEnd
  | blockEntry
  | flowEntry
  | key
  | value
  | alias (name : String)
  | anchor (name : String)
  -- A tag: a handle, where there is one, and the rest of the tag after what the handle stands for.
  | tag (handle : Option String) (rest : String)
  -- A scalar; `plain` if it stands without quotes.
  | scalar (text : Text) (plain : Bool)
  -- The place from which on there are no tokens, for that reason.
  | fault (e : Error)
  deriving Repr, DecidableEq

end ClientBuilder.Yaml
