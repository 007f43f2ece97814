import JobShell.Machine.Script.Session
import JobShell.Machine.Utility
import JobShell.Machine.Utility.Calendar
import JobShell.Machine.Utility.Columns
import JobShell.Machine.Utility.Comparing
import JobShell.Machine.Utility.Copying
import JobShell.Machine.Utility.Counting
import JobShell.Machine.Utility.Differing
import JobShell.Machine.Utility.Dumping
import JobShell.Machine.Utility.Editing
import JobShell.Machine.Utility.Evaluating
import JobShell.Machine.Utility.Files
import JobShell.Machine.Utility.Finding
import JobShell.Machine.Utility.Listing
import JobShell.Machine.Utility.Portion
import JobShell.Machine.Utility.Records
import JobShell.Machine.Utility.Reshaping
import JobShell.Machine.Utility.Searching
import JobShell.Machine.Utility.Sorting
import JobShell.Machine.Utility.Testing
import JobShell.Machine.Utility.Transfer
import JobShell.Machine.Utility.Wrapping
import JobShell.Machine.Utility.Writing

/-!
# What the programs of the machine do
-/

namespace JobShell.Machine.Utility

/-- The exit code by which a program tells that something is wrong. -/
def failure : Utility → Nat
  | .sort | .ls | .dir | .vdir | .grep | .egrep | .fgrep | .test | .bracket | .expr | .cmp | .diff |
    .awk => 2
  | .env | .nice | .nohup | .timeout => 125
  | _ => 1

/-- What a program does that was called by some name with some arguments. -/
def program (u : Utility) (name : Bytes) (arguments : List Bytes) : Program Nat :=
  let run (main : Report.Caller → List Bytes → Program Nat) : Program Nat :=
    main { name, failure := u.failure, namesHelp := u = .cmp || u = .diff } arguments
  match u with
  | .shell => Session.main name arguments
  | .echo => run Writing.echo
  | .printf => run Writing.printf
  | .yes => run Writing.yes
  | .seq => run Writing.seq
  | .pwd => run Writing.pwd
  | .id => run Writing.id
  | .whoami => run Writing.whoami
  | .printenv => run Writing.printenv
  | .tty => run Writing.tty
  | .uname => run Writing.uname
  | .date => run Calendar.date
  | .true => .done 0
  | .false => .done 1
  | .cat => run Copying.cat
  | .tee => run Copying.tee
  | .dd => run Copying.dd
  | .head => run Portion.head
  | .tail => run Portion.tail
  | .wc => run Counting.wc
  | .sort => run Sorting.sort
  | .uniq => run Reshaping.uniq
  | .rev => run Reshaping.rev
  | .tac => run Reshaping.tac
  | .nl => run Reshaping.nl
  | .fold => run Reshaping.fold
  | .cut => run Columns.cut
  | .paste => run Columns.paste
  | .comm => run Columns.comm
  | .tr => run Columns.tr
  | .grep => run Searching.grep
  | .egrep => run (Searching.grepAs 'E')
  | .fgrep => run (Searching.grepAs 'F')
  | .sed => run Edit.sed
  | .awk => run Records.awk
  | .cmp => run Comparing.cmp
  | .diff => run Differing.diff
  | .od => run Dumping.od
  | .expr => run Evaluating.expr
  | .test => run (Testing.test Bool.false)
  | .bracket => run (Testing.test Bool.true)
  | .basename => run Files.basename
  | .dirname => run Files.dirname
  | .readlink => run Files.readlink
  | .realpath => run Files.realpath
  | .touch => run Files.touch
  | .mkdir => run Files.mkdir
  | .mkfifo => run Files.mkfifo
  | .rmdir => run Files.rmdir
  | .rm => run Files.rm
  | .ln => run Files.ln
  | .link => run Files.link
  | .unlink => run Files.unlink
  | .chmod => run Files.chmod
  | .cp => run Transfer.cp
  | .mv => run Transfer.mv
  | .ls => run (Listing.ls {})
  | .dir => run (Listing.ls { layout := .grid .downward, quotes := .bare })
  | .vdir => run (Listing.ls { layout := .long, quotes := .bare })
  | .stat => run Listing.stat
  | .find => run Finding.find
  | .sleep => run Wrapping.sleep
  | .env => run Wrapping.env
  | .nice => run Wrapping.nice
  | .nohup => run Wrapping.nohup
  | .setsid => run Wrapping.setsid
  | .timeout => run Wrapping.timeout
  | .xargs => run Wrapping.xargs

end JobShell.Machine.Utility
