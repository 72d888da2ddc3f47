/-
# Names of tests

| name | made of |
| --- | --- |
| test | `test_`, the document, `_`, the section, with `_` for what is no ASCII letter or digit |
| suite | `Test`, then the ASCII letters and digits of the document |
-/

import Doctest.Text.Basic

namespace Doctest
namespace Suite

/-- Whether a character is a letter or digit of ASCII. -/
def isAlphanumeric (c : Char) : Bool :=
  ('a' ≤ c && c ≤ 'z') || ('A' ≤ c && c ≤ 'Z') || ('0' ≤ c && c ≤ '9')

/-- The text with `_` for each character that is no ASCII letter or digit. -/
def identifier (t : Text) : Text := t.map fun c => if isAlphanumeric c then c else '_'

/-- The name of the test for a section of a document. -/
def testName (document title : Text) : Text :=
  "test_".toList ++ identifier document ++ ['_'] ++ identifier title

/-- The name of the suite for a document. -/
def suiteName (document : Text) : Text := "Test".toList ++ document.filter isAlphanumeric

end Suite
end Doctest
