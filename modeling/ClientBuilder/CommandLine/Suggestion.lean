import ClientBuilder.Text.Likeness
import ClientBuilder.Text.Quoted

namespace ClientBuilder.CommandLine

namespace Suggestion

def limit : Nat :=
  3

def candidates (names : List String) (word : Text) : List (Text.Likeness × String) :=
  (names.map fun (name : String) => (Text.likeness name word, name)).filter (·.1.isClose)

/-- Whether a candidate is preferred to another one: it is closer, or as close and its name does not
come earlier. -/
def preferred (a b : Text.Likeness × String) : Bool :=
  b.1.less a.1 || !a.1.less b.1 && decide (b.2 ≤ a.2)

def near (names : List String) (word : Text) : List String :=
  (((candidates names word).mergeSort preferred).take limit).map (·.2)
    |>.mergeSort fun a b => decide (a ≤ b)

def question : List String → Text
  | [] => ""
  | [name] => " Did you mean " ++ Text.quoted name ++ "?"
  | names =>
    " (Did you mean one of: "
      ++ String.intercalate ", " (names.map fun (name : String) => Text.quoted name) ++ "?)"

end Suggestion

end ClientBuilder.CommandLine
