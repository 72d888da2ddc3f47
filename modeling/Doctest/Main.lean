/-
# The command line

The files below the working directory, and those that the arguments name, are copied to a machine in
memory.  All that the arguments ask for happens there: examples run on that machine, and no file
outside of it changes.  What its two outputs hold at the end is printed.
-/

import Doctest.CommandLine.Program
import Doctest.Posix.World

namespace Doctest
namespace CommandLine

/-- The variables of the environment that a run looks at. -/
def watched : List String := ["PATH", "DOCMARK_RUBY", "HOME", "LC_ALL"]

/-- Copies a file to a machine, as an executable one if it names its interpreter; what is no file is
left out. -/
def copyFile (m : Machine) (path : String) : IO Machine := do
  try
    let content := Octets.ofBytes (← IO.FS.readBinFile path).toList
    return m.put (.ofText path.toList) (.file content (content.take 2 = ['#', '!']))
  catch _ => return m

/-- A machine with the files that a run may need. -/
def snapshot (args : List String) : IO Machine := do
  let here ← IO.currentDir
  let environment ← watched.filterMapM fun name => do
    return (← IO.getEnv name).map fun value => (name.toList, Text.encode value.toList)
  let below ← here.walkDir
  let empty := Machine.start (.ofText here.toString.toList) environment
  (below.toList.map toString ++ args).foldlM copyFile empty

/-- Prints bytes. -/
def emit (output : IO.FS.Stream) (t : Octets) : IO Unit := do
  output.write (ByteArray.mk (Octets.toBytes t).toArray)
  output.flush

end CommandLine
end Doctest

/-- Does what the arguments ask for; the exit code tells how it went. -/
def main (args : List String) : IO UInt32 := do
  let words := args.map fun word => Doctest.Text.encode word.toList
  let m := (← Doctest.CommandLine.snapshot args).complete
    (Doctest.Program.run Doctest.Machine.host words)
  Doctest.CommandLine.emit (← IO.getStdout) (m.printed .out)
  Doctest.CommandLine.emit (← IO.getStderr) (m.printed .err)
  return UInt32.ofNat m.code
