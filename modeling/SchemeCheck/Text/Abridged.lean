import SchemeCheck.Text.Blank

/-!
# SchemeCheck.Text.Abridged

A sentence in a few words: the words up to the end of the sentence, or as many
as fit, with dots behind them.
-/

namespace SchemeCheck.Text

/-- The size of words with a blank between neighbours. -/
def wordsSize (words : List Text) : Nat :=
  (joinWith [' '] words).length

/-- The words up to the first that ends a sentence. -/
def sentence : List Text → List Text
  | [] => []
  | word :: rest => if word.getLast? = some '.' then [word] else word :: sentence rest

/-- The most words from the front that fit into `size` characters with three
dots behind them; the length of the list bounds their count. -/
def fitting (size : Nat) (words : List Text) : List Text :=
  let counts := (List.range words.length).reverse
  words.take ((counts.find? fun n => decide (wordsSize (words.take n) + 3 ≤ size)).getD 0)

/-- A text in at most `size` characters. -/
def abridged (size : Nat) (text : Text) : Text :=
  let words := (splitOn ' ' text).filter fun word => !word.isEmpty
  let front := sentence words
  if wordsSize front ≤ size then joinWith [' '] front
  else joinWith [' '] (fitting size words) ++ ['.', '.', '.']

end SchemeCheck.Text
