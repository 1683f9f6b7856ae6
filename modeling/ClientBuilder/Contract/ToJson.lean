import ClientBuilder.Contract.Basic
import ClientBuilder.Json.Basic

namespace ClientBuilder

def Parameter.toJson (p : Parameter) : Json :=
  .object [("name", .string p.name), ("type", .string p.type)]

def Method.toJson (m : Method) : Json :=
  .object [
    ("name", .string m.name),
    ("parameters", .array (m.parameters.map Parameter.toJson)),
    ("override_policy", .string m.overridePolicy.text),
    ("documentation", .string m.documentation),
    ("returns_builder_self_type", .bool m.returnsBuilderSelfType),
    ("body", Json.ofText? m.body),
    ("replaced_by", Json.ofText? m.replacedBy)]

def Contract.toFields (c : Contract) : List (Text × Json) :=
  [("interface_name", .string c.interfaceName),
    ("package", .string c.package),
    ("type_variables", Json.ofTexts c.typeVariables),
    ("super_interface", .string c.superInterface),
    ("annotations", Json.ofTexts c.annotations),
    ("documentation", .string c.documentation),
    ("methods", .array (c.methods.map Method.toJson))]

end ClientBuilder
