import ClientBuilder.FileTree.Basic

namespace ClientBuilder.ModelFile

def fileName : String :=
  "service.yml"

def searchLimit : Nat :=
  20

/-- Looks into a directory and then into those above it, up to the root. -/
def searchFrom (t : FileTree) : (limit : Nat) → (place : List Text) →
    Except PathError (Option Path)
  | 0, _ => .ok none
  | limit + 1, place => do
    let candidate := Path.absolute (place.concat fileName)
    if ← t.isFile candidate then return some candidate
    else if place.isEmpty then return none
    else searchFrom t limit place.dropLast

def search (t : FileTree) (start : Option Path := none) : Except PathError (Option Path) :=
  match start with
  | none => searchFrom t searchLimit t.workingDirectory
  | some p =>
    match p.fault? with
    | some e => .error e
    | none => searchFrom t searchLimit (p.resolve t.workingDirectory)

def choose (t : FileTree) : (path : Option Path) → Except PathError (Option Path)
  | some p => .ok (some p)
  | none => search t

end ClientBuilder.ModelFile
