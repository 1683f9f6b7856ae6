import ClientBuilder.Text.Basic

namespace ClientBuilder

/-- A path, with the number of slashes it starts with: none for a relative one, one or two for an
absolute one. -/
structure Path where
  slashes : Nat
  parts : List Text
  deriving Repr, DecidableEq

namespace Path

def slash : CodePoint :=
  .char '/'

def selfStep : Text :=
  "."

def parentStep : Text :=
  ".."

def ofText (s : Text) : Path :=
  let n := (s.takeWhile (· = slash)).length
  ⟨if n ≤ 2 then n else 1, (s.splitOn slash).filter fun p => p ≠ [] ∧ p ≠ selfStep⟩

def endsInPoint (s : Text) : Bool :=
  ((s.splitOn slash).filter fun p => p ≠ []).getLast? = some selfStep

def endsInSlash (s : Text) : Bool :=
  s.getLast? = some slash

def text (p : Path) : Text :=
  -- The empty path is a point.
  if p.slashes = 0 ∧ p.parts.isEmpty then selfStep
  else List.replicate p.slashes slash ++ Text.join [slash] p.parts

def isAbsolute (p : Path) : Bool :=
  0 < p.slashes

def start (p : Path) (workingDirectory : List Text) : List Text :=
  if p.isAbsolute then [] else workingDirectory

def absolute (parts : List Text) : Path :=
  ⟨1, parts⟩

def stepFrom (place : List Text) (part : Text) : List Text :=
  -- The root is its own parent.
  if part = parentStep then place.dropLast else place.concat part

def resolve (p : Path) (workingDirectory : List Text) : List Text :=
  p.parts.foldl stepFrom (p.start workingDirectory)

end Path

end ClientBuilder
