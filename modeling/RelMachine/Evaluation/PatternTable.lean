/-!
# Patterns for texts

Texts are matched with patterns, which are texts in a language of their own.  The
language is a parameter: it says which texts a pattern admits.  The patterns that
have been used are noted, each once, because they need not be read again.
-/

namespace RelMachine

/-- A language of patterns. -/
structure PatternLanguage : Type where
  /-- What a text says as a pattern: the whole texts that it admits.  A text that is
  not well formed says nothing. -/
  meaning? : String → Option (String → Bool)

/-- Whether a pattern admits a text; one that is not well formed admits none. -/
def PatternLanguage.admits (language : PatternLanguage) (pattern text : String) : Bool :=
  (language.meaning? pattern).any fun admitted => admitted text

/-- The different patterns that texts have been matched with, in the order of
their first use. -/
abbrev PatternTable : Type := List String

/-- The table with a pattern, which is noted if it is new. -/
def PatternTable.note (patterns : PatternTable) (pattern : String) : PatternTable :=
  if patterns.contains pattern then patterns else patterns ++ [pattern]

end RelMachine
