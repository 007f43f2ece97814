import JobShell.Bytes

/-!
# Lines of text

A text is cut into lines at its newlines; the last line may have none.
-/

namespace JobShell.Machine.Lines

/-- The lines of a text without their newlines; a last line needs none. -/
def ofBytes (bs : Bytes) : List Bytes :=
  let parts := Bytes.splitOn Bytes.newline bs
  if parts.getLast? = some [] then parts.dropLast else parts

def toBytes (ls : List Bytes) : Bytes := ls.flatMap (· ++ [Bytes.newline])

end JobShell.Machine.Lines
