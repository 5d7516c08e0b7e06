import RelMachine.Evaluation.PatternTable
import RelMachine.Planning.Matching
import RelMachine.Toml.Basic

/-!
# What the machine takes from elsewhere

Matchings of graphs, the language of patterns and the form of documents are not the
machine's own.  It works with whatever a library gives for them.
-/

namespace RelMachine

/-- Everything that is not the machine's own. -/
structure Library : Type where
  matcher : Matcher
  language : PatternLanguage
  /-- The document that a text describes, if it is well formed. -/
  document? : String → Option TomlTable

end RelMachine
