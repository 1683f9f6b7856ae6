import ClientBuilder.Method.Basic
import ClientBuilder.Validation.Decoder

namespace ClientBuilder

open Validation

def OverridePolicy.decode : Decoder OverridePolicy
  | .text s =>
    match ofText? s with
    | some p => .ok p
    | none => .fail (.notOneOf (all.map OverridePolicy.text)) .text
  | v => .fail (.notOneOf (all.map OverridePolicy.text)) v.kind

def Parameter.decode : Decoder Parameter :=
  record .parameter fun pairs =>
    Parameter.mk <$> required ["name"] text pairs
      <*> required ["type"] text pairs

def Method.decode : Decoder Method :=
  record .method fun pairs =>
    Method.mk <$> required ["name"] text pairs
      <*> optional ["parameters"] [] (list Parameter.decode) pairs
      <*> required ["override_policy"] OverridePolicy.decode pairs
      <*> optional ["documentation"] [] text pairs
      <*> optional ["returns_builder_self_type"] true flag pairs
      <*> optional ["body"] none (nullable text) pairs
      <*> optional ["replaced_by"] none (nullable text) pairs

end ClientBuilder
