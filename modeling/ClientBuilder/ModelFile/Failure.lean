import ClientBuilder.FileTree.Basic
import ClientBuilder.Logging.Logged
import ClientBuilder.Text.Quoted
import ClientBuilder.Validation.Issue
import ClientBuilder.Yaml.Error

namespace ClientBuilder

inductive LoadError where
  -- No path is given and no model file is found.
  | noModelFile
  | fileNotFound (path : Text)
  -- The system refuses to read the file.
  | unreadable (path : Text) (code : Int) (reason : Text)
  | invalidYaml (path : Text)
  | notMapping (path : Text) (found : Kind)
  | invalidModel (report : Validation.Report)
  deriving Repr, DecidableEq

def LoadError.message : LoadError → Text
  | noModelFile =>
    "No service.yml found. Create one in the current directory, or specify --model."
  | fileNotFound path => "Model file not found: " ++ path
  | unreadable path code reason =>
    "Cannot read " ++ path ++ ": [Errno " ++ Text.intText code ++ "] " ++ reason ++ ": "
      ++ Text.quoted path
  | invalidYaml path => "Invalid YAML in " ++ path
  | notMapping path found => "Expected a YAML mapping in " ++ path ++ ", got " ++ found.name
  | invalidModel report => "Invalid service model: " ++ report.message

/-- Something that loading does not answer for. -/
inductive Fault where
  -- The file is no UTF-8.
  | notUnicode
  -- A scalar is tagged as something that its text has no value of.
  | scalar (fault : Yaml.ScalarFault)
  -- A value is used as what its kind does not allow.
  | wrongKind
  -- Collections are nested too deep.
  | tooDeep
  -- The system does not follow the path of the file.
  | path (e : PathError)
  deriving Repr, DecidableEq

inductive Failure where
  | reported (e : LoadError)
  | fault (f : Fault)
  deriving Repr, DecidableEq

def Logged.attempt {α : Type} (x : Logged Failure α) : Logged Fault (Except LoadError α) where
  -- Only faults are left as failures.
  records := x.records
  outcome :=
    match x.outcome with
    | .ok a => .ok (.ok a)
    | .error (.reported e) => .ok (.error e)
    | .error (.fault f) => .error f

end ClientBuilder
