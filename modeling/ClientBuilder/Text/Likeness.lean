import ClientBuilder.Text.Basic

namespace ClientBuilder.Text

def commonLength : Text → Text → Nat
  | c :: s, d :: t => if c = d then commonLength s t + 1 else 0
  | _, _ => 0

/-- The place in the second text where most of the start of the first one stands, and how much of it
does; the first such place counts. -/
def startIn (s : Text) : Text → Nat × Nat
  | [] => (0, 0)
  | d :: t =>
    let here := commonLength s (d :: t)
    let (place, length) := startIn s t
    if length ≤ here then (0, here) else (place + 1, length)

structure CommonRun where
  -- How many characters are before it in the first text.
  first : Nat
  -- How many characters are before it in the second text.
  second : Nat
  length : Nat
  deriving Repr, DecidableEq

/-- The longest run that stands in two texts. Among the longest ones it is the first in the first
text, and then in the second one. -/
def longestRun : Text → Text → CommonRun
  | [], _ => ⟨0, 0, 0⟩
  | c :: s, t =>
    let here := startIn (c :: s) t
    let later := longestRun s t
    if later.length ≤ here.2 then ⟨0, here.1, here.2⟩
    else { later with first := later.first + 1 }

/-- The longest run lies within the first text. -/
theorem longestRun_first_lt {s t : Text} (h : 0 < (longestRun s t).length) :
    (longestRun s t).first < s.length := by
  induction s with
  | nil => exact absurd h (by simp [longestRun])
  | cons c s ih =>
    simp only [longestRun, List.length_cons] at h ⊢
    split
    · exact Nat.succ_pos _
    · next hlen => exact Nat.succ_lt_succ (ih (by omega))

def matched (s t : Text) : Nat :=
  if 0 < (longestRun s t).length then
    let run := longestRun s t
    run.length + matched (s.take run.first) (t.take run.second)
      + matched (s.drop (run.first + run.length)) (t.drop (run.second + run.length))
  else 0
termination_by s.length
decreasing_by
  all_goals
    have := longestRun_first_lt ‹0 < (longestRun s t).length›
    simp only [List.length_take, List.length_drop]
    omega

structure Likeness where
  matched : Nat
  total : Nat
  deriving Repr, DecidableEq

def likeness (s t : Text) : Likeness :=
  ⟨matched s t, s.length + t.length⟩

namespace Likeness

def isClose (l : Likeness) : Bool :=
  -- A match takes one character of each text.
  6 * l.total ≤ 10 * (2 * l.matched)

def less (k l : Likeness) : Bool :=
  k.matched * l.total < l.matched * k.total

end Likeness

end ClientBuilder.Text
