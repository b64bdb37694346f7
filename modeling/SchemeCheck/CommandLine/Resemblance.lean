import SchemeCheck.Diff.Matching
import SchemeCheck.Text.Quoted

/-!
# SchemeCheck.CommandLine.Resemblance

Suggesting the names that a mistyped one resembles.
-/

namespace SchemeCheck.CommandLine

/-- How many characters two names have in common, when they are matched by
their longest common runs. -/
def commonSize (name word : Text) : Nat :=
  (Diff.matching name word).foldl (fun size run => size + run.size) 0

/-- Whether a name is similar enough to be suggested: at least six tenths of
the characters of both are common. -/
def resembles (word name : Text) : Bool :=
  6 * (name.length + word.length) ≤ 10 * (2 * commonSize name word)

/-- The names to suggest for a word. -/
def resembling (names : List Text) (word : Text) : List Text :=
  (names.filter (resembles word)).mergeSort fun x y => !decide (y < x)

/-- The question that suggests names, with a blank in front. -/
def suggestion : List Text → Text
  | [] => []
  | [name] => " Did you mean ".toList ++ Text.quoted name ++ ['?']
  | names =>
    " (Did you mean one of: ".toList ++ Text.joinWith ", ".toList (names.map Text.quoted) ++
      "?)".toList

end SchemeCheck.CommandLine
