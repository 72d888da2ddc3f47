/-
# Examples

A block is read in one of two forms:

| separators `  #### output:` | form | code | expected output |
| ---: | --- | --- | --- |
| 0 | inline | every line | what follows the first `# => ` of each line that has one |
| 1 | split | the lines before it | the lines after it, less two spaces of indentation |
| 2 or more | none: the block is ambiguous | | |

Lines of the code whose first character other than white space is `%` show shell commands and are
left out.  A block with nothing but white space before its separator has no code.
-/

import Doctest.Example.Block

namespace Doctest

/-- Which notation supplied the expected output. -/
inductive ExampleForm where
  | inline
  | split
deriving DecidableEq, Repr

/-- A runnable example and the output that it claims. -/
structure Example where
  index : Nat
  code : Text
  expected : Text
  form : ExampleForm
  span : Span
deriving DecidableEq, Repr

namespace Example

/-- What stands before an expected line. -/
def inlineMarker : Text := "# => ".toList

/-- What a separator line starts with. -/
def outputMarker : Text := "  #### output:".toList

/-- The first character of a shell command that is only shown. -/
def shellMarker : Char := '%'

/-- Whether a line separates code from output: the marker and nothing but white space after it. -/
def isSeparator (l : Line) : Bool :=
  match Text.afterStart? outputMarker l.text with
  | some rest => Text.isBlank rest
  | none => false

/-- Whether a line shows a shell command. -/
def isShellLine (l : Line) : Bool := (Text.trimStart l.raw).head? = some shellMarker

/-- The expected output of the inline form: one line for each marker. -/
def inlineExpected (ls : List Line) : Text :=
  Text.join ['\n'] (ls.filterMap fun l => Text.afterFirst? inlineMarker l.text)

/-- A line of output without the indentation of the block. -/
def unindent (t : Text) : Text := (Text.afterStart? indent t).getD t

/-- The expected output of the split form. -/
def splitExpected (ls : List Line) : Text := Text.join ['\n'] (ls.map fun l => unindent l.text)

/-- The code that is run: the lines that do not show shell commands. -/
def runnable (ls : List Line) : Text := Line.join (ls.filter (!isShellLine ·))

/-- The fault of a block with several separators, the second of which is the line `second`. -/
def ambiguous (b : Block) (separators : Nat) (second : Line) : Fault :=
  ⟨.ambiguousBlock b.index b.title separators,
    ⟨second.start, second.start + Text.bytes second.text⟩, b.fileId⟩

/-- The fault of a block without code. -/
def codeless (b : Block) : Fault := ⟨.emptyCode b.index b.title, b.span, b.fileId⟩

/-- The example with the given lines of code, unless these hold white space only. -/
def ofParts (b : Block) (code : List Line) (expected : Text) (form : ExampleForm) :
    Except Fault Example :=
  if Text.isBlank (Line.join code) then .error (codeless b)
  else .ok ⟨b.index, runnable code, expected, form, b.span⟩

/-- Reads a block as an example. -/
def ofBlock (b : Block) : Except Fault Example :=
  let lines := Line.ofText b.span.start b.text
  match lines.filter isSeparator with
  | [] => ofParts b lines (inlineExpected lines) .inline
  | [_] =>
    let code := lines.takeWhile (!isSeparator ·)
    ofParts b code (splitExpected (lines.drop (code.length + 1))) .split
  | _ :: second :: more => .error (ambiguous b (more.length + 2) second)

end Example

namespace Section

/-- The examples of a section, or the fault of its first block that is none. -/
def examples (s : Section) : Except Fault (List Example) := s.blocks.mapM Example.ofBlock

/-- The faults of all blocks of a section that are no examples. -/
def faults (s : Section) : List Fault :=
  s.blocks.filterMap fun b => match Example.ofBlock b with
    | .ok _ => none
    | .error f => some f

end Section

namespace Document

/-- The examples of the section with the given name, or the first fault. -/
def examples (d : Document) (name : Text) : Except Fault (List Example) := do
  (← d.findSection name).examples

/-- Every fault in the named sections, in order. -/
def faults (d : Document) (names : List Text) : List Fault :=
  names.flatMap fun name => match d.findSection name with
    | .ok s => s.faults
    | .error f => [f]

end Document
end Doctest
