import TitleStamp.Text.Blank
import TitleStamp.Text.Case.Lower
import TitleStamp.Text.Case.Upper
import TitleStamp.Text.WordCharacter

/-!
# Headline casing

A headline is lower-cased and cut into words and the gaps between them.  The first word, the
last word and every word after a sentence break are capitalized; other words are capitalized
unless they are minor words.  Some words have a casing of their own wherever they stand.
-/

namespace TitleStamp.Headline

/-- Words that stay in lower case inside a headline. -/
def minorWords : List String :=
  ["a", "an", "and", "as", "at", "but", "by", "en", "for", "from", "if", "in", "into", "nor",
   "of", "off", "on", "onto", "or", "per", "so", "than", "the", "to", "up", "upon", "via", "vs",
   "with", "yet"]

/-- Words with a casing of their own. -/
def specialWords : List String :=
  ["API", "CI", "CLI", "CSS", "DNS", "GitHub", "GitLab", "HTML", "HTTP", "HTTPS", "iOS",
   "JavaScript", "JS", "JSON", "JSX", "macOS", "SQL", "TypeScript", "UI", "URL"]

/-- Punctuation after which every word is capitalized. -/
def isSentenceBreak (character : Char) : Bool :=
  [':', '.', '(', '!', '?', ';'].contains character

/-- Whether a character belongs to a word of a headline. -/
def isHeadlineCharacter (character : Char) : Bool :=
  isWordCharacter character || character = '\'' || character = '’'

/-- The longest runs of word characters and of other characters, in order. -/
def runs (text : Text) : List Text :=
  text.splitBy fun left right => isHeadlineCharacter left == isHeadlineCharacter right

def isWord (run : Text) : Bool :=
  run.any isHeadlineCharacter

/-- Whether the word after a gap starts a sentence. -/
def startsSentence (gap : Text) : Bool :=
  match gap.trimRight.getLast? with
  | some character => isSentenceBreak character
  | none => false

/-- A lower-case word in the casing that it takes in a headline. -/
def castWord (forced : Bool) (word : Text) : Text :=
  match specialWords.find? fun special => Text.lowercase special.toList = word with
  | some special => special.toList
  | none =>
      if !forced && minorWords.any (·.toList = word) then word else word.capitalized

/-- Casts the runs of a headline of which the part before has been cast; the gap is what stands
directly before the runs. -/
def castRuns (wordBefore : Bool) (gap : Text) : List Text → Text
  | [] => []
  | run :: rest =>
      if isWord run then
        castWord (!wordBefore || !rest.any isWord || startsSentence gap) run ++
          castRuns true [] rest
      else
        run ++ castRuns wordBefore run rest

/-- The text cast as a headline. -/
def cast (text : Text) : Text :=
  castRuns false [] (runs text.lowercase)

end TitleStamp.Headline
