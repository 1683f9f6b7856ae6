import ClientBuilder.CommandLine.Run

namespace ClientBuilder

def pathsOn (p : Path) : List Path :=
  (List.range (p.parts.length + 1)).map fun n => { p with parts := p.parts.take n }

def namedModels (arguments : List Text) : List Path :=
  -- What is no command is read as options once more.
  let read := CommandLine.Plan.readProgram ⟨[], [], [], []⟩
  match read arguments with
  | .error _ => []
  | .ok (settings, rest) =>
    match read rest with
    | .error _ => settings.model.toList
    | .ok (again, _) => settings.model.toList ++ again.model.toList

def relevantPaths (workingDirectory : List Text) (arguments : List Text) : List Path :=
  match namedModels arguments with
  | [] =>
    (pathsOn (Path.absolute workingDirectory)).flatMap fun p =>
      [p, { p with parts := p.parts.concat ModelFile.fileName }]
  | models => models.flatMap pathsOn

structure Finding where
  node? : Option Node
  mayRead : Bool := true
  maySearch : Bool := true

namespace Finding

/-- A name that no file can have, so that what comes of it tells of the directory alone. -/
def overlongName : Text :=
  List.replicate (FileTree.nameLimit + 1) (.char 'x')

def directoryCode : UInt32 :=
  -- For a directory read as a file.
  21

def fileCode : UInt32 :=
  -- For a name looked up in a file; the code comes negated where nothing was opened.
  -20

def isWithinFile : Except IO.Error ByteArray → Bool
  | .error (.inappropriateType _ code _) => code = fileCode
  | _ => false

/-- What can be told of a place by what came of reading it as a file, and of looking up in it a name
that no file has. -/
def ofAttempts (content inside : Except IO.Error ByteArray) : Finding :=
  let maySearch := match inside with
    | .error (.permissionDenied _ _ _) => false
    | _ => true
  match content with
  | .ok bytes => { node? := some (.file bytes.toList) }
  | .error (.noFileOrDirectory _ _ _) => { node? := none }
  | .error (.inappropriateType _ code _) =>
    { node? := if code = directoryCode then some .directory else none, maySearch := maySearch }
  | .error (.permissionDenied _ _ _) =>
    if isWithinFile inside then { node? := some (.file []), mayRead := false }
    else { node? := some .directory, mayRead := false, maySearch := maySearch }
  | .error e => { node? := some (.unreadable 5 (toString e)) }

end Finding

def attempt (p : Path) : IO (Except IO.Error ByteArray) :=
  (IO.FS.readBinFile p.text.shown).toBaseIO

def lookAt (workingDirectory : List Text) (paths : List Path) : IO FileTree := do
  let findings ← paths.mapM fun p => do
    let inside := { p with parts := p.parts.concat Finding.overlongName }
    return (p.resolve workingDirectory, Finding.ofAttempts (← attempt p) (← attempt inside))
  let placesWhere (holds : Finding → Bool) : List (List Text) :=
    (findings.filter fun f => holds f.2).map (·.1)
  return {
    nodes := findings.filterMap fun f => f.2.node?.map fun n => (f.1, n)
    workingDirectory := workingDirectory
    unreadable := placesWhere fun f => !f.mayRead
    unsearchable := placesWhere fun f => !f.maySearch }

end ClientBuilder

open ClientBuilder in
def main (arguments : List String) : IO UInt32 := do
  let arguments := arguments.map Text.ofString
  let workingDirectory := (Path.ofText (← IO.currentDir).toString).parts
  let world : CommandLine.World :=
    { tree := ← lookAt workingDirectory (relevantPaths workingDirectory arguments)
      levelName := ← IO.getEnv Logging.Level.variableName }
  let outcome := CommandLine.run world arguments
  let output ← IO.getStdout
  let errors ← IO.getStderr
  errors.putStr (outcome.stderr (← errors.isTty))
  output.putStr (outcome.stdout (← output.isTty))
  if let .crash c := outcome.ending then errors.putStrLn c.message
  return UInt32.ofNat outcome.exitCode
