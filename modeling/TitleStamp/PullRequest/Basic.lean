import TitleStamp.Text.Basic

/-!
# Pull requests
-/

namespace TitleStamp

/-- A pull request as far as titles depend on it.  A comment or a commit that the answer of a
lookup left out is kept as a gap. -/
structure PullRequest where
  id : Text
  title : Text
  bodyText : Text
  /-- The texts of the comments. -/
  comments : List (Option Text)
  /-- The messages of the commits. -/
  commits : List (Option Text)
  deriving DecidableEq, Repr

/-- The name of a repository and of its owner. -/
structure Repository where
  name : Text
  owner : Text
  deriving DecidableEq, Repr

end TitleStamp
