import RelMachine.Library
import RelMachine.Regex.Reader
import RelMachine.Toml.Reader

/-!
# A library to run with

Greatest matchings, regular expressions as the language of patterns, and documents in
TOML.  Only what is run needs them: no property of the machine rests on how they work.
-/

namespace RelMachine

/-- Regular expressions, each for whole texts. -/
def PatternLanguage.regex : PatternLanguage where
  meaning? pattern :=
    (Regex.read? (Regex.anchored pattern.toList)).map fun regex text => regex.occurs text.toList

/-- The library that programs are run with. -/
def Library.reference : Library where
  matcher := Matching.greatest
  language := .regex
  document? := Toml.read?

end RelMachine
