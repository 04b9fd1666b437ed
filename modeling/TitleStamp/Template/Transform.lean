import TitleStamp.Template.Headline

/-!
# Transforms

The functions that a title pattern can call by name.  Every transform is defined on every
text.
-/

namespace TitleStamp

inductive Transform where
  | title
  | capitalize
  | trim
  | trimLeft
  | trimRight
  | upper
  | lower
  deriving DecidableEq, Repr

namespace Transform

/-- All transforms, in the order in which they are listed. -/
def all : List Transform :=
  [title, capitalize, trim, trimLeft, trimRight, upper, lower]

def name : Transform → Text
  | title => "title".toList
  | capitalize => "capitalize".toList
  | trim => "trim".toList
  | trimLeft => "trimLeft".toList
  | trimRight => "trimRight".toList
  | upper => "upper".toList
  | lower => "lower".toList

def named? (called : Text) : Option Transform :=
  all.find? (·.name = called)

def apply : Transform → Text → Text
  | title, text => Headline.cast text
  | capitalize, text => text.capitalized
  | trim, text => text.trim
  | trimLeft, text => text.trimLeft
  | trimRight, text => text.trimRight
  | upper, text => text.uppercase
  | lower, text => text.lowercase

end Transform

end TitleStamp
