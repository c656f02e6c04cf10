import TestAmplification.Test.Identity
import TestAmplification.Text.Lines

/-!
# How a report names the killing test

A mutation report names the test that killed a mutant in one of several forms:

* `none`, in any case, or nothing at all, when there is no such test;
* a path of bracketed segments that contains `[class:S]` and `[method:m(A)]`;
* `m(S)` or `S.m(S)`, the method with its suite in parentheses;
* `S.m`, the qualified name of the method.

The forms are tried in this order. A form that names no method names no test.
-/

set_option autoImplicit false

namespace TestAmplification.KillingTest

/-- The text of a segment: what stands between its tag and the next closing
bracket. -/
def segment? (tag raw : List Char) : Option (List Char) :=
  (Text.cutAt tag raw).bind fun (_, after) => (Text.cutFirst ']' after).map Prod.fst

/-- The tag of the segment that holds the method. -/
def methodTag : List Char := ['[', 'm', 'e', 't', 'h', 'o', 'd', ':']

/-- The tag of the segment that holds the suite. -/
def classTag : List Char := ['[', 'c', 'l', 'a', 's', 's', ':']

/-- The identity of a method in a suite, provided there is a method. -/
def identity? (suite method : List Char) : Option TestId :=
  if method.isEmpty then none else some ⟨String.ofList suite, String.ofList method⟩

/-- The characters before an opening parenthesis. -/
def beforeParenthesis (characters : List Char) : List Char :=
  characters.takeWhile (· != '(')

/-- The characters without the closing parentheses at their end. -/
def withoutClosing (characters : List Char) : List Char :=
  (characters.reverse.dropWhile (· == ')')).reverse

/-- The method of a name that may be qualified by its suite. A name that is not
qualified by the suite is the method after its last dot. -/
def unqualified (suite name : List Char) : List Char :=
  match Text.withoutStart? (suite ++ ['.']) name with
  | some method => method
  | none => Text.afterLast '.' name

/-- Does the text say that there is no killing test? -/
def saysNone (raw : List Char) : Bool :=
  raw.isEmpty || raw.map Char.toLower == ['n', 'o', 'n', 'e']

/-- The test that a trimmed text names. -/
def ofTrimmed? (raw : List Char) : Option TestId :=
  if saysNone raw then none
  else
    match segment? methodTag raw with
    | some method => identity? ((segment? classTag raw).getD []) (beforeParenthesis method)
    | none =>
        match Text.cutFirst '(' raw with
        | some (name, tail) =>
            identity? (withoutClosing tail) (unqualified (withoutClosing tail) name)
        | none => (Text.cutLast '.' raw).bind fun (suite, method) => identity? suite method

/-- The test that a text names; blanks around it do not count. -/
def ofText? (raw : String) : Option TestId :=
  ofTrimmed? (Text.trimChars raw.toList)

example : ofText? "S.m(S)" = some ⟨"S", "m"⟩ := by decide +kernel
example : ofText? "[engine:e]/[class:S]/[method:m()]" = some ⟨"S", "m"⟩ := by decide +kernel

end TestAmplification.KillingTest
