/-!
# The programs of the machine
-/

namespace JobShell.Machine

/-- The programs that the machine has besides scripts. -/
inductive Utility
  | shell
  | echo | printf | yes | seq | pwd | id | whoami | printenv | tty | uname | date
  | true | false
  | cat | tee | dd | head | tail | wc | sort
  | uniq | rev | tac | nl | fold
  | cut | paste | comm | tr
  | grep | egrep | fgrep | sed | awk
  | cmp | diff | od
  | expr | test | bracket
  | basename | dirname | readlink | realpath
  | touch | mkdir | mkfifo | rmdir | rm | ln | link | unlink | chmod
  | cp | mv
  | ls | dir | vdir | stat | find
  | sleep | env | nice | nohup | setsid | timeout | xargs
deriving DecidableEq, Repr

namespace Utility

/-- All programs with the names under which they are installed. -/
def installed : List (String × Utility) := [
  ("sh", .shell), ("dash", .shell), ("bash", .shell),
  ("echo", .echo), ("printf", .printf), ("yes", .yes), ("seq", .seq), ("pwd", .pwd), ("id", .id),
  ("whoami", .whoami), ("printenv", .printenv), ("tty", .tty), ("uname", .uname), ("date", .date),
  ("true", .true), ("false", .false),
  ("cat", .cat), ("tee", .tee), ("dd", .dd), ("head", .head), ("tail", .tail), ("wc", .wc),
  ("sort", .sort), ("uniq", .uniq), ("rev", .rev), ("tac", .tac), ("nl", .nl), ("fold", .fold),
  ("cut", .cut), ("paste", .paste), ("comm", .comm), ("tr", .tr), ("grep", .grep),
  ("egrep", .egrep), ("fgrep", .fgrep), ("sed", .sed), ("awk", .awk), ("mawk", .awk),
  ("cmp", .cmp), ("diff", .diff), ("od", .od), ("expr", .expr), ("test", .test), ("[", .bracket),
  ("basename", .basename), ("dirname", .dirname), ("readlink", .readlink),
  ("realpath", .realpath), ("touch", .touch), ("mkdir", .mkdir), ("mkfifo", .mkfifo),
  ("rmdir", .rmdir), ("rm", .rm), ("ln", .ln), ("link", .link), ("unlink", .unlink),
  ("chmod", .chmod), ("cp", .cp), ("mv", .mv), ("ls", .ls), ("dir", .dir),
  ("vdir", .vdir), ("stat", .stat), ("find", .find),
  ("sleep", .sleep), ("env", .env), ("nice", .nice), ("nohup", .nohup), ("setsid", .setsid),
  ("timeout", .timeout), ("xargs", .xargs)]

end Utility

end JobShell.Machine
