import ClientBuilder.Text.Numeral
import ClientBuilder.Value.Basic

namespace ClientBuilder.Validation

inductive Shape where
  | capability
  | contextParam
  | service
  | serviceInfo
  | customization
  | operation
  | httpChecksum
  | method
  | parameter
  | contract
  deriving Repr, DecidableEq

def Shape.name : Shape → String
  | capability => "CapabilityModel"
  | contextParam => "ClientContextParam"
  | service => "ServiceDefinition"
  | serviceInfo => "ServiceInfo"
  | customization => "Customization"
  | operation => "Operation"
  | httpChecksum => "HttpChecksum"
  | method => "MethodEntry"
  | parameter => "Parameter"
  | contract => "BuilderContract"

inductive Step where
  | key (name : String)
  | index (n : Nat)
  deriving Repr, DecidableEq

def Step.text : Step → String
  | key name => if name.toList.contains '.' then "\x60" ++ name ++ "\x60" else name
  | index n => Text.natText n

def keyStep : Step :=
  .key "[key]"

inductive Cause where
  | missing
  | notText
  | textNotUnicode
  | notList
  | notMapping
  | notShape (shape : Shape)
  | notFlag
  | flagUnreadable
  | unknownKey
  | keyNotText
  | notOneOf (choices : List String)
  | levelFlagDisagrees
  deriving Repr, DecidableEq

def choiceText : List String → String
  | [] => ""
  | [a] => "'" ++ a ++ "'"
  | [a, b] => "'" ++ a ++ "' or '" ++ b ++ "'"
  | a :: r => "'" ++ a ++ "', " ++ choiceText r

def Cause.message : Cause → String
  | missing => "Field required"
  | notText => "Input should be a valid string"
  | textNotUnicode =>
    "Input should be a valid string, unable to parse raw data as a unicode string"
  | notList => "Input should be a valid list"
  | notMapping => "Input should be a valid dictionary"
  | notShape shape => "Input should be a valid dictionary or instance of " ++ shape.name
  | notFlag => "Input should be a valid boolean"
  | flagUnreadable => "Input should be a valid boolean, unable to interpret input"
  | unknownKey => "Extra inputs are not permitted"
  | keyNotText => "Keys should be strings"
  | notOneOf choices => "Input should be " ++ choiceText choices
  | levelFlagDisagrees =>
    "Value error, hasServiceLevelConfig must be set exactly when serviceConfigType is given"

def Cause.name : Cause → String
  | missing => "missing"
  | notText => "string_type"
  | textNotUnicode => "string_unicode"
  | notList => "list_type"
  | notMapping => "dict_type"
  | notShape _ => "model_type"
  | notFlag => "bool_type"
  | flagUnreadable => "bool_parsing"
  | unknownKey => "extra_forbidden"
  | keyNotText => "invalid_key"
  | notOneOf _ => "enum"
  | levelFlagDisagrees => "value_error"

structure Issue where
  path : List Step
  cause : Cause
  found : Kind
  deriving Repr, DecidableEq

def Issue.lines (i : Issue) : List String :=
  let message := "  " ++ i.cause.message ++ " [type=" ++ i.cause.name ++ ", input_type="
    ++ i.found.name ++ "]"
  if i.path.isEmpty then [message]
  else [String.intercalate "." (i.path.map Step.text), message]

structure Report where
  shape : Shape
  issues : List Issue
  deriving Repr, DecidableEq

def Report.message (r : Report) : String :=
  let count := r.issues.length
  let head := Text.natText count
    ++ (if count = 1 then " validation error for " else " validation errors for ")
    ++ r.shape.name
  String.intercalate "\n" (head :: r.issues.flatMap Issue.lines)

end ClientBuilder.Validation
