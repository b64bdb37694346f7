import SchemeCheck.Text.Basic

/-!
# SchemeCheck.Placeholder

Placeholders in scheme payloads.  A placeholder is a name in braces; the only
name that schemes know is `dir`, which stands for the fixture root of the
current invocation.  Substitution applies to arguments, environment entries,
file contents and expected output, never to standard input.
-/

namespace SchemeCheck.Placeholder

def rootName : Text := "dir".toList

def token (name : Text) : Text :=
  '\x7b' :: (name ++ ['\x7d'])

/-- The placeholders that a fixture root defines. -/
def vocabulary (root : Text) : List (Text × Text) :=
  [(rootName, root)]

/-- Replace the placeholders of a vocabulary, one name after another.  What is
not in the vocabulary stays as it is. -/
def expand (text : Text) (entries : List (Text × Text)) : Text :=
  entries.foldl (fun acc entry => Text.replaceAll (token entry.1) entry.2 acc) text

/-- Replace every mention of the fixture root by the root itself. -/
def substitute (root text : Text) : Text :=
  expand text (vocabulary root)

end SchemeCheck.Placeholder
