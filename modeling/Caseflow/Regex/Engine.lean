/-!
# Engines for regular expressions

How patterns are read and searched for is up to an engine. It makes the text of a pattern into an
expression, which can be looked for in texts, or finds that the text is no pattern.
-/
namespace Caseflow.Regex

/-- The texts of a match's groups, the whole match first. A group need not take part in a match. -/
abbrev Groups := List (Option String)

structure Expression where
  isMatch : String → Bool
  find? : String → Option Groups
  findAll : String → List Groups
  replaceAll : String → String → String

abbrev Engine := String → Option Expression

end Caseflow.Regex
