/-
# The script that runs an example

    $LOAD_PATH.unshift "<library>"
    begin
    <code>
    rescue Exception => __docmark_exception
      puts "raises #{__docmark_exception.class}"
    end

So what the code raises becomes output.  In the library's path a backslash stands before every
backslash, quotation mark and `#`, so that nothing in it ends the literal or is interpolated.
-/

import Doctest.Text.Basic

namespace Doctest
namespace Script

/-- The name that the raised exception is bound to. -/
def exceptionName : Text := "__docmark_exception".toList

/-- One character of a string literal. -/
def escapeChar (c : Char) : Text := if c = '\\' || c = '"' || c = '#' then ['\\', c] else [c]

/-- A string literal without interpolation. -/
def literal (t : Text) : Text := ['"'] ++ t.flatMap escapeChar ++ ['"']

/-- What comes before the code. -/
def preamble (lib : Text) : Text :=
  "$LOAD_PATH.unshift ".toList ++ literal lib ++ "\nbegin\n".toList

/-- The code, ended by a line feed. -/
def body (code : Text) : Text := if code.getLast? = some '\n' then code else code ++ ['\n']

/-- What comes after the code. -/
def postamble : Text :=
  "rescue Exception => ".toList ++ exceptionName ++ "\n  puts \"raises #".toList ++
    "\x7b".toList ++ exceptionName ++ ".class\x7d\"\nend\n".toList

/-- The script for the code, with the library's directory on the load path. -/
def wrap (code lib : Text) : Text := preamble lib ++ body code ++ postamble

/-- The output without exactly one line terminator at its end: `\r\n`, `\n` or `\r`. -/
def chomp (output : Text) : Text :=
  match Text.beforeEnd? ['\r', '\n'] output with
  | some t => t
  | none =>
    match Text.beforeEnd? ['\n'] output with
    | some t => t
    | none => Text.dropEnd ['\r'] output

end Script
end Doctest
