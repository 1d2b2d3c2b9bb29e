/-!
# Words of a command

A command is cut into words at spaces, tabs and line ends. Quotes keep a word together; a backslash
keeps the character behind it, but between double quotes only a double quote and a backslash.
-/

namespace SolidityRepl.Text

/-- Where one is in a command. -/
inductive CommandPlace where
  | between
  | inWord
  | inSingle
  | inDouble
  | escaped
  | escapedInDouble
  deriving DecidableEq, Repr

def isWordEnd (c : Char) : Bool := c == ' ' || c == '\t' || c == '\r' || c == '\n'

/-- The place that a character outside of quotes leads to, if it is not kept. -/
def opens? (c : Char) : Option CommandPlace :=
  if c == '\'' then some .inSingle
  else if c == '"' then some .inDouble
  else if c == '\\' then some .escaped
  else none

/-- The words from a place on. `word` is the word so far, the last character first. -/
def wordsFrom? : CommandPlace → List Char → List Char → Option (List (List Char))
  | .between, _, [] => some []
  | .inWord, word, [] => some [word.reverse]
  | _, _, [] => none
  | .between, word, c :: rest =>
    if isWordEnd c then wordsFrom? .between word rest
    else match opens? c with
      | some place => wordsFrom? place [] rest
      | none => wordsFrom? .inWord [c] rest
  | .inWord, word, c :: rest =>
    if isWordEnd c then (wordsFrom? .between [] rest).map (word.reverse :: ·)
    else match opens? c with
      | some place => wordsFrom? place word rest
      | none => wordsFrom? .inWord (c :: word) rest
  | .inSingle, word, c :: rest =>
    if c == '\'' then wordsFrom? .inWord word rest else wordsFrom? .inSingle (c :: word) rest
  | .inDouble, word, c :: rest =>
    if c == '"' then wordsFrom? .inWord word rest
    else if c == '\\' then wordsFrom? .escapedInDouble word rest
    else wordsFrom? .inDouble (c :: word) rest
  | .escaped, word, c :: rest => wordsFrom? .inWord (c :: word) rest
  | .escapedInDouble, word, c :: rest =>
    if c == '"' || c == '\\' then wordsFrom? .inDouble (c :: word) rest
    else wordsFrom? .inDouble (c :: '\\' :: word) rest

def shellWords? (command : String) : Option (List String) :=
  (wordsFrom? .between [] command.toList).map fun words => words.map String.ofList

end SolidityRepl.Text
