import ClientBuilder.FileTree.Path
import ClientBuilder.Text.Utf8

/-!
Trees of files, as far as a program can see them: which places hold a file or a directory, what
comes of reading a file, and what the program may read and search. The system looks up names as rows
of bytes, and follows no name and no path that is too long.
-/

namespace ClientBuilder

inductive Node where
  | file (content : List UInt8)
  -- A file that the system fails to read, with the code and the text of the failure.
  | unreadable (code : Int) (reason : Text)
  | directory
  deriving DecidableEq

namespace Node

def isFile : Node → Bool
  | file _ => true
  | unreadable _ _ => true
  | directory => false

def guarded : Node → Node
  | directory => directory
  | _ => unreadable 13 "Permission denied"

end Node

structure FileTree where
  -- A place above another one that is given is a directory.
  nodes : List (List Text × Node)
  -- Relative paths start from here.
  workingDirectory : List Text
  -- The files and directories that the program may not read.
  unreadable : List (List Text) := []
  -- The directories that the program may not search: no name can be looked up in them.
  unsearchable : List (List Text) := []

/-- Why the system does not follow a path. -/
inductive PathError where
  -- The path, or a name in it that comes to be looked up, is longer than the system allows.
  | tooLong
  -- A name would have to be looked up in a directory that may not be searched.
  | forbidden
  -- The path holds a zero character, which no name can.
  | zeroCharacter
  -- The path holds a surrogate that stands for no byte.
  | noBytes
  deriving Repr, DecidableEq

namespace Path

-- Each byte that is no part of a character has a surrogate that stands for it; another surrogate
-- has no bytes.
def byteCount? : CodePoint → Option Nat
  | .char c => some c.utf8Size
  | .surrogate s => if 0x480 ≤ s.val ∧ s.val < 0x500 then some 1 else none

def byteSize (t : Text) : Nat :=
  t.foldl (fun n c => n + (byteCount? c).getD 0) 0

def bytes : CodePoint → List UInt8
  | .char c => String.utf8EncodeChar c
  | .surrogate s => [UInt8.ofNat (s.val - 0x400)]

def displayed (t : Text) : Text :=
  Text.ofChars (Text.shownBytes none (t.flatMap bytes))

def fault? (p : Path) : Option PathError :=
  if p.text.any fun c => (byteCount? c).isNone then some .noBytes
  else if p.text.contains (.char '\x00') then some .zeroCharacter
  else none

end Path

namespace FileTree

def nameLimit : Nat :=
  255

def pathLimit : Nat :=
  4095

def node? (t : FileTree) (place : List Text) : Option Node :=
  match t.nodes.lookup place with
  | some n => some (if place ∈ t.unreadable then n.guarded else n)
  | none =>
    -- Directories need not be listed: whatever is above something is one.
    if (t.workingDirectory :: t.nodes.map (·.1)).any place.isPrefixOf then some .directory else none

/-- Follows the steps of a path from a place; every place left has to be a directory, in which the
next name is then looked up. -/
def walk (t : FileTree) (place : List Text) : List Text → Except PathError (Option (List Text))
  | [] => .ok (some place)
  | part :: r =>
    match t.node? place with
    | some .directory =>
      if place ∈ t.unsearchable then .error .forbidden
      else if nameLimit < Path.byteSize part then .error .tooLong
      else t.walk (Path.stepFrom place part) r
    | _ => .ok none

def find? (t : FileTree) (p : Path) : Except PathError (Option Node) :=
  if p.fault?.isSome then .ok none
  else if pathLimit < Path.byteSize p.text then .error .tooLong
  else (t.walk (p.start t.workingDirectory) p.parts).map (·.bind t.node?)

def isFile (t : FileTree) (p : Path) : Except PathError Bool :=
  (t.find? p).map fun n => n.any Node.isFile

def endsAt (t : FileTree) (text : Text) (place : List Text) : Bool :=
  match t.node? place with
  | some .directory => !(Path.endsInPoint text && t.unsearchable.contains place)
  | some _ => !(Path.endsInPoint text || Path.endsInSlash text)
  | none => false

/-- Whether a text, as it is written, leads to something that may not be read. -/
def refuses (t : FileTree) (text : Text) : Bool :=
  let p := Path.ofText text
  if text = [] ∨ pathLimit < Path.byteSize text then false
  else
    match t.walk (p.start t.workingDirectory) p.parts with
    | .ok (some place) => t.endsAt text place && t.unreadable.contains place
    | _ => false

end FileTree

end ClientBuilder
