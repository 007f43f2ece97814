import JobShell.Text.Lossy

/-!
# Commands

What a command line asks for, once it has been read: the words, at most one file for each of the
two redirected streams, and whether to wait for the end of the program.
-/

namespace JobShell

/-- The two operators that name a file. -/
inductive Redirection
  | output
  | input
deriving DecidableEq, Repr

namespace Redirection

def sign : Redirection → UInt8
  | .output => 62
  | .input => 60

def text : Redirection → String
  | .output => ">"
  | .input => "<"

end Redirection

/-- One command line. A blank line gives the command without words. -/
structure Command where
  argv : List Bytes := []
  stdout : Option Bytes := none
  stdin : Option Bytes := none
  background : Bool := false
deriving DecidableEq, Repr

namespace Command

def program (c : Command) : Option Bytes := c.argv.head?

def arguments (c : Command) : List Bytes := c.argv.tail

/-- The program as messages and the job list show it. -/
def name (c : Command) : String := (c.program.map Bytes.lossy).getD ""

def isBlank (c : Command) : Bool := c.argv.isEmpty

/-- Send a stream to a file; the last redirection of a stream counts. -/
def redirect (c : Command) : Redirection → Bytes → Command
  | .output, target => { c with stdout := some target }
  | .input, target => { c with stdin := some target }

/-- Whether the line asks for more than a plain run in the foreground. -/
def hasExtras (c : Command) : Bool := c.background || c.stdout.isSome || c.stdin.isSome

end Command

end JobShell
