import TestAmplification.Text.Lines
import TestAmplification.Text.Search

/-!
# The identity of a test

A test is identified by the suite that holds it and by its method there. The
identity is written `suite#method`. Reading is lenient: a text without `#`
names a method of a suite that the reader supplies, and blanks around the text
do not count.
-/

set_option autoImplicit false

namespace TestAmplification

open Std

/-- The suite of a test and its method in that suite. -/
structure TestId where
  /-- The qualified name of the suite. -/
  suite : String
  /-- The name of the method. -/
  method : String
deriving DecidableEq, Inhabited, Hashable

namespace TestId

/-- Identities are ordered by suite, then by method. -/
instance : Ord TestId :=
  ⟨compareLex (compareOn TestId.suite) (compareOn TestId.method)⟩

instance : TransOrd TestId :=
  inferInstanceAs (TransCmp (compareLex (compareOn TestId.suite) (compareOn TestId.method)))

instance : LawfulEqOrd TestId where
  eq_of_compare {first second} same := by
    have parts : compare first.suite second.suite = .eq ∧
        compare first.method second.method = .eq := Ordering.then_eq_eq.mp same
    obtain ⟨firstSuite, firstMethod⟩ := first
    obtain ⟨secondSuite, secondMethod⟩ := second
    obtain rfl : firstSuite = secondSuite := LawfulEqOrd.eq_of_compare parts.1
    obtain rfl : firstMethod = secondMethod := LawfulEqOrd.eq_of_compare parts.2
    rfl

/-- The written form of an identity. -/
def render (id : TestId) : String :=
  id.suite ++ "#" ++ id.method

/-- Reads a trimmed identity: the suite stands before the last `#`, and a text
without one is a method of the default suite. An identity has a method. -/
def parseTrimmed (defaultSuite : String) (characters : List Char) : Option TestId :=
  match Text.cutLast '#' characters with
  | some (suite, method) =>
      if method.isEmpty then none else some ⟨String.ofList suite, String.ofList method⟩
  | none =>
      if characters.isEmpty then none else some ⟨defaultSuite, String.ofList characters⟩

/-- Reads an identity; blanks around it do not count. -/
def parse (raw defaultSuite : String) : Option TestId :=
  parseTrimmed defaultSuite (Text.trimChars raw.toList)

/-- The name of the suite without its qualifier. -/
def simpleSuiteName (id : TestId) : String :=
  String.ofList (Text.afterLast '.' id.suite.toList)

end TestId

end TestAmplification
