import ClientBuilder.Json.Basic
import ClientBuilder.ModelFile.Load
import ClientBuilder.ModelIssues

namespace ClientBuilder.ModelFile

inductive CheckError where
  -- No path is given and no model file is found.
  | noModelFile
  | load (e : LoadError)
  | model (e : ModelError)
  deriving Repr, DecidableEq

def CheckError.message : CheckError → Text
  | noModelFile => "No " ++ fileName ++ " found."
  | load e => e.message
  | model e => e.message

structure CheckReport where
  valid : Bool := false
  model : Option Capability := none
  modelPath : Option Path := none
  errors : List CheckError := []
  warnings : List ModelWarning := []
  deriving DecidableEq

namespace CheckReport

def ofModel (p : Path) (m : Capability) : CheckReport where
  valid := m.errors.isEmpty
  model := m
  modelPath := p
  errors := m.errors.map .model
  warnings := m.warnings

def serviceName (r : CheckReport) : Option Text :=
  r.model.map (·.serviceName)

def contextParamCount (r : CheckReport) : Nat :=
  (r.model.map paramCount).getD 0

def toJson (r : CheckReport) : Json :=
  .object [
    ("valid", .bool r.valid),
    ("model_path", Json.ofText? (r.modelPath.map fun p => p.text)),
    ("errors", Json.ofTexts (r.errors.map CheckError.message)),
    ("warnings", Json.ofTexts (r.warnings.map fun w => w.message)),
    ("service_name", Json.ofText? r.serviceName),
    ("context_param_count", .int r.contextParamCount)]

end CheckReport

def check (t : FileTree) (path : Option Path := none) : Logged Fault CheckReport := do
  -- Here the search comes before loading, so a path that was found counts as given.
  match ← Logged.ofExcept ((choose t path).mapError .path) with
  | none => return { errors := [.noModelFile] }
  | some p =>
    match ← (loadFrom t p).attempt with
    | .error e => return { modelPath := p, errors := [.load e] }
    | .ok m => return .ofModel p m

end ClientBuilder.ModelFile
