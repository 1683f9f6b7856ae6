/-!
Words of a name. A name is split at everything that is not an ASCII letter or digit, around a
version such as `v4`, at a capital that follows a small letter and starts a longer word, before the
last capital of a row of capitals that runs into small letters, and after a digit that a letter
follows. The rules apply one after another, each to what the one before it left, with a blank for
every split.
-/

namespace ClientBuilder.Setter

def isLower (c : Char) : Bool :=
  'a' ≤ c && c ≤ 'z'

def isUpper (c : Char) : Bool :=
  'A' ≤ c && c ≤ 'Z'

def isDigit (c : Char) : Bool :=
  '0' ≤ c && c ≤ '9'

def isLetter (c : Char) : Bool :=
  isLower c || isUpper c

def isAlnum (c : Char) : Bool :=
  isLetter c || isDigit c

def blankRuns (open_ : Bool) : List Char → List Char
  -- `open_` tells whether the character before was part of a run.
  | [] => []
  | c :: r =>
    if isAlnum c then c :: blankRuns false r
    else if open_ then blankRuns true r
    else ' ' :: blankRuns true r

def startsWithDigit : List Char → Bool
  | [] => false
  | c :: _ => isDigit c

/-- Sets a version apart on both sides: the mark with the digits after it, where at least two
characters of the class `inner` stand directly before the mark. `before` counts the characters of
that class that stand directly before this place, those of an earlier version left out; `inVersion`
tells that the digits of a version are being passed. -/
def setVersionsApart (mark : Char) (inner : Char → Bool) :
    (before : Nat) → (inVersion : Bool) → List Char → List Char
  | _, inVersion, [] => if inVersion then [' '] else []
  | before, inVersion, c :: r =>
    if inVersion then
      if isDigit c then c :: setVersionsApart mark inner 0 true r
      else ' ' :: c :: setVersionsApart mark inner (if inner c then 1 else 0) false r
    else if c = mark ∧ 2 ≤ before ∧ startsWithDigit r then
      ' ' :: c :: setVersionsApart mark inner 0 true r
    else c :: setVersionsApart mark inner (if inner c then before + 1 else 0) false r

def breakAfter (test : Char → List Char → Bool) : List Char → List Char
  | [] => []
  | c :: r => if test c r then c :: ' ' :: breakAfter test r else c :: breakAfter test r

def isHump (c : Char) : List Char → Bool
  | d :: e :: _ => isLower c && isUpper d && isAlnum e
  | _ => false

def isAcronymEnd (c : Char) : List Char → Bool
  | d :: e :: _ => isUpper c && isUpper d && isLower e
  | _ => false

def isDigitEnd (c : Char) : List Char → Bool
  | d :: _ => isDigit c && isLetter d
  | [] => false

def spaced (name : List Char) : List Char :=
  let s := blankRuns false name
  let s := setVersionsApart 'v' (fun c => !isLower c) 0 false s
  let s := setVersionsApart 'V' (fun c => !isUpper c) 0 false s
  let s := breakAfter isHump s
  let s := breakAfter isAcronymEnd s
  breakAfter isDigitEnd s

def pieces : List Char → List (List Char)
  | [] => []
  | c :: r =>
    if c = ' ' then pieces r
    else
      match r with
      | [] => [[c]]
      | d :: _ =>
        if d = ' ' then [c] :: pieces r
        else
          match pieces r with
          | [] => [[c]]
          | w :: ws => (c :: w) :: ws

def words (name : List Char) : List (List Char) :=
  pieces (spaced name)

end ClientBuilder.Setter
