import ClientBuilder.Json.Basic
import ClientBuilder.Validation.Decoder

namespace ClientBuilder

structure ContextParam where
  type : Text
  documentation : Text
  deriving Repr, DecidableEq

abbrev ParamGroup :=
  OrderedMap ContextParam

namespace ContextParam

open Validation in
def decode : Decoder ContextParam :=
  -- Keys that the description does not know are passed over.
  record .contextParam fun pairs =>
    ContextParam.mk <$> required ["type"] text pairs
      <*> optional ["documentation"] [] text pairs

def toValue (p : ContextParam) : Value :=
  .mapping [(.text "type", .text p.type), (.text "documentation", .text p.documentation)]

end ContextParam

def ParamGroup.toValue (g : ParamGroup) : Value :=
  .mapping (g.pairs.map fun p => (.text p.1, p.2.toValue))

end ClientBuilder
