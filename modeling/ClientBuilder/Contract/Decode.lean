import ClientBuilder.Contract.Basic
import ClientBuilder.Method.Decode

namespace ClientBuilder

open Validation

def Contract.decode : Decoder Contract :=
  record .contract fun pairs =>
    Contract.mk <$> required ["interface_name"] text pairs
      <*> optional ["package"] [] text pairs
      <*> optional ["type_variables"] [] (list text) pairs
      <*> optional ["super_interface"] [] text pairs
      <*> optional ["annotations"] [] (list text) pairs
      <*> optional ["documentation"] [] text pairs
      <*> optional ["methods"] [] (list Method.decode) pairs

end ClientBuilder
