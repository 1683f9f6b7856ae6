import ClientBuilder.Contract.ToJson
import ClientBuilder.ModelFile.Load
import ClientBuilder.Synthesis

namespace ClientBuilder.ModelFile

structure SynthesisReport where
  result : Except LoadError Contract
  -- The path that was given.
  modelPath : Option Path

namespace SynthesisReport

def contract? (r : SynthesisReport) : Option Contract :=
  r.result.toOption

def errorText? (r : SynthesisReport) : Option Text :=
  match r.result with
  | .ok _ => none
  | .error e => some e.message

def toJson (r : SynthesisReport) : Json :=
  match r.result with
  | .ok c => .object (c.toFields.concat ("method_count", .int c.methods.length))
  | .error e => .object [("error", .string e.message)]

end SynthesisReport

def synthesize (t : FileTree) (path : Option Path := none) : Logged Fault SynthesisReport := do
  match ← (load t path).attempt with
  | .error e => return ⟨.error e, path⟩
  | .ok m =>
    Logged.logAll (synthesisRecords m)
    return ⟨.ok (synthesizeContract m), path⟩

end ClientBuilder.ModelFile
