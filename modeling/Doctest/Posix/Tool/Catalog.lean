/-
# The programs of the machine

Every program stands in `/usr/bin` and in `/bin`.  The shell is not here: it runs the others.
-/

import Doctest.Posix.Tool.Active
import Doctest.Posix.Tool.ByteMap
import Doctest.Posix.Tool.Calculate
import Doctest.Posix.Tool.Calendar
import Doctest.Posix.Tool.Edit
import Doctest.Posix.Tool.Encode
import Doctest.Posix.Tool.Listing
import Doctest.Posix.Tool.Records
import Doctest.Posix.Tool.Search
import Doctest.Posix.Condition
import Doctest.Posix.Resident

namespace Doctest
namespace Tool

/-- Prints its arguments; escapes count with `-e` only. -/
def echo (c : Call) : Reply :=
  let isOption (a : Octets) : Bool := match a with
    | '-' :: l :: ls => (l :: ls).all fun x => x = 'n' || x = 'e' || x = 'E'
    | _ => false
  let options := (c.arguments.takeWhile isOption).flatMap List.tail
  let words := c.arguments.dropWhile isOption
  let escapes := (options.filter (· ≠ 'n')).getLast? = some 'e'
  let (t, stops) := if escapes then Format.unescape .program (Text.join [' '] words)
    else (Text.join [' '] words, false)
  c.reply (if options.contains 'n' || stops then t else t ++ ['\n']) 0

/-- Prints a format. -/
def printf (c : Call) : Reply :=
  match c.arguments with
  | [] => c.refuse "missing operand".toList 1
  | format :: arguments =>
    let (output, flaws) := Format.print .program format arguments
    ⟨output, flaws.flatMap fun e => c.name ++ ": ".toList ++ e.programMessage ++ ['\n'],
      if flaws = [] then 0 else 1, c.files, .nothing⟩

/-- Tells by its exit code whether a condition holds. -/
def test (c : Call) : Reply :=
  let args? := if c.name.getLast? ≠ some '[' then some c.arguments
    else if c.arguments.getLast? = some [']'] then some c.arguments.dropLast else none
  match args? with
  | none => c.refuse "missing ']'".toList 2
  | some args =>
    match Condition.evaluate ⟨c.files, c.cwd⟩ false args with
    | .ok true => c.reply [] 0
    | .ok false => c.reply [] 1
    | .error e => c.refuse e 2

/-- The programs that reply at once, by their names. -/
def plainPrograms : List (String × (Call → Reply)) := [
  ("tail", part Extent.tail), ("tac", tac), ("rev", rev), ("wc", wc), ("sort", sort),
  ("uniq", uniq), ("cut", cut), ("tr", tr), ("grep", grep), ("sed", sed), ("awk", awk), ("nl", nl),
  ("fold", fold), ("od", od), ("base64", base64), ("rm", rm), ("rmdir", rmdir), ("mkdir", mkdir),
  ("touch", touch), ("chmod", chmod), ("cp", cp), ("mv", mv), ("ln", ln), ("ls", ls), ("pwd", pwd),
  ("date", date), ("basename", basename), ("dirname", dirname), ("seq", seq), ("factor", factor),
  ("expr", expr), ("echo", echo), ("printf", printf), ("test", test), ("[", test),
  ("true", (·.reply [] 0)), ("false", (·.reply [] 1))]

/-- The programs that take their time, by their names. -/
def activePrograms : List (String × (Runner → Call → Run Nat)) := [
  ("cat", cat), ("head", head), ("tee", tee), ("yes", yes), ("sleep", sleep), ("env", env),
  ("xargs", xargs)]

/-- The programs by their names. -/
def catalog : List (Octets × Program) :=
  (plainPrograms.map fun (n, f) => (n.toList, .plain f)) ++
    activePrograms.map fun (n, f) => (n.toList, .active f)

/-- The names of the programs that stand in the usual places, shells included. -/
def programNames : List Octets :=
  ["sh".toList, "dash".toList, "bash".toList] ++ catalog.map Prod.fst

/-- What runs a program of a name; there is nothing for the shells. -/
def program? (name : Octets) : Option Program :=
  if name = "docmark".toList then some (.active docmark) else catalog.lookup name

end Tool
end Doctest
