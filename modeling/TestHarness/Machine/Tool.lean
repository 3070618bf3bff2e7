import TestHarness.Path

/-!
# Programs that the machine comes with

Each tool is known by one or more names; the machine has all of them in its two program directories.
-/

namespace TestHarness.Machine

inductive Tool where
  | sh | succeed | fail | echo | printf | test | bracket | rm | mkdir | rmdir | dirname | basename
  | grep | cat | touch | cp | mv | ln | ls | wc | sleep | pwd | chmod | kill | env
  deriving DecidableEq

namespace Tool

def name : Tool → String
  | sh => "sh" | succeed => "true" | fail => "false" | echo => "echo" | printf => "printf"
  | test => "test" | bracket => "[" | rm => "rm" | mkdir => "mkdir" | rmdir => "rmdir"
  | dirname => "dirname" | basename => "basename" | grep => "grep" | cat => "cat"
  | touch => "touch" | cp => "cp" | mv => "mv" | ln => "ln" | ls => "ls" | wc => "wc"
  | sleep => "sleep" | pwd => "pwd" | chmod => "chmod" | kill => "kill" | env => "env"

def all : List Tool :=
  [sh, succeed, fail, echo, printf, test, bracket, rm, mkdir, rmdir, dirname, basename, grep, cat,
   touch, cp, mv, ln, ls, wc, sleep, pwd, chmod, kill, env]

end Tool

end TestHarness.Machine
