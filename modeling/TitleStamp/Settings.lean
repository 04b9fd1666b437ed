import TitleStamp.Text.Basic

/-!
# Settings

How titles are stamped and which texts are scanned for durations.
-/

namespace TitleStamp

structure Settings where
  durationPattern : Text
  titlePattern : Text
  scanComments : Bool
  scanBody : Bool
  deriving DecidableEq, Repr

namespace Settings

def defaultDurationPattern : Text :=
  "[h'h'm'm']".toList

def defaultTitlePattern : Text :=
  ":duration • :title".toList

def standard : Settings :=
  ⟨defaultDurationPattern, defaultTitlePattern, false, false⟩

/-- Whether the value of a switch turns it on.  Only one word does. -/
def isOn (value : Text) : Bool :=
  value = "true".toList

end Settings

end TitleStamp
