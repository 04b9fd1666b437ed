import TitleStamp.Regex.Basic

/-!
# Searching for a regular expression

A search finds the leftmost match.  Runs of digits and of line characters take as much as they
can and give back only what the pieces after them need.  The matches of the last pieces are
computed for every suffix of the text at once, and each piece before them extends that table, so
a search takes time proportional to the text and to the expression.
-/

namespace TitleStamp

namespace Regex

/-- A match at the start of a suffix: the text that follows it and what the first group
captured. -/
structure Hit where
  rest : Text
  captured : Option Text
  deriving DecidableEq, Repr

/-- The hit with one more character in front of what the first group captured. -/
def Hit.capture (character : Char) (hit : Hit) : Hit :=
  ⟨hit.rest, hit.captured.map (character :: ·)⟩

/-- The hit in which the first group captures nothing so far. -/
def Hit.openGroup (hit : Hit) : Hit :=
  ⟨hit.rest, some []⟩

/-- The hits of the suffixes of a text, from the whole text to the empty one. -/
abbrev Hits := List (Option Hit)

/-- The hit of the longest of the suffixes. -/
def Hits.here (hits : Hits) : Option Hit :=
  hits.head?.join

/-- Every suffix is matched by nothing at all. -/
def emptyHits : Text → Hits
  | [] => [some ⟨[], none⟩]
  | character :: rest => some ⟨character :: rest, none⟩ :: emptyHits rest

/-- Extends the hits of what follows by one given character. -/
def exactlyHits (expected : Char) : Text → Hits → Hits
  | character :: rest, _ :: later =>
      (if character = expected then Hits.here later else none) ::
        exactlyHits expected rest later
  | _, _ => [none]

/-- Extends the hits of what follows by a run of digits. -/
def digitsHits : Text → Hits → Hits
  | character :: rest, _ :: later =>
      let extended := digitsHits rest later
      (if character.isDigit then Hits.here extended <|> Hits.here later else none) :: extended
  | _, _ => [none]

/-- Extends the hits of what follows by any characters of the line. -/
def lineHits : Text → Hits → Hits
  | character :: rest, hit :: later =>
      let extended := lineHits rest later
      (if character = '\n' then hit else Hits.here extended <|> hit) :: extended
  | _, hits => hits

/-- Extends the hits of what follows by a group of any characters of the line. -/
def groupHits : Text → Hits → Hits
  | character :: rest, hit :: later =>
      let extended := groupHits rest later
      let closed := hit.map Hit.openGroup
      (if character = '\n' then
        closed
      else
        (Hits.here extended).map (Hit.capture character) <|> closed) :: extended
  | _, hits => hits.map (·.map Hit.openGroup)

end Regex

def Piece.hits : Piece → Text → Regex.Hits → Regex.Hits
  | .exactly character => Regex.exactlyHits character
  | .digits => Regex.digitsHits
  | .line => Regex.lineHits
  | .group => Regex.groupHits

namespace Regex

def hits (regex : Regex) (text : Text) : Hits :=
  regex.foldr (fun piece later => piece.hits text later) (emptyHits text)

structure Found where
  before : Text
  matched : Text
  captured : Option Text
  after : Text
  deriving DecidableEq, Repr

/-- The leftmost match among the suffixes of a text. -/
def leftmost : Text → Hits → Option Found
  | text, some hit :: _ =>
      some ⟨[], text.take (text.length - hit.rest.length), hit.captured, hit.rest⟩
  | character :: rest, none :: later =>
      (leftmost rest later).map fun found =>
        ⟨character :: found.before, found.matched, found.captured, found.after⟩
  | _, _ => none

def search (regex : Regex) (text : Text) : Option Found :=
  leftmost text (regex.hits text)

/-- The text with the leftmost match replaced by what its first group captured. -/
def keepCaptured (regex : Regex) (text : Text) : Text :=
  match regex.search text with
  | some found => found.before ++ found.captured.getD [] ++ found.after
  | none => text

end Regex

end TitleStamp
