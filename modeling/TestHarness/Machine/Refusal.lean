import TestHarness.Fault

/-!
# Refusals of the machine

The numbered errors with which a system call of the machine can fail.
-/

namespace TestHarness.Machine

inductive Refusal where
  | noEntry
  | noProcess
  | listTooLong
  | badFormat
  | accessDenied
  | taken
  | notDirectory
  | isDirectory
  | invalid
  | nameTooLong
  | notEmpty
  | linkLoop
  deriving DecidableEq

namespace Refusal

def number : Refusal → Nat
  | noEntry => 2
  | noProcess => 3
  | listTooLong => 7
  | badFormat => 8
  | accessDenied => 13
  | taken => 17
  | notDirectory => 20
  | isDirectory => 21
  | invalid => 22
  | nameTooLong => 36
  | notEmpty => 39
  | linkLoop => 40

def text : Refusal → String
  | noEntry => "No such file or directory"
  | noProcess => "No such process"
  | listTooLong => "Argument list too long"
  | badFormat => "Exec format error"
  | accessDenied => "Permission denied"
  | taken => "File exists"
  | notDirectory => "Not a directory"
  | isDirectory => "Is a directory"
  | invalid => "Invalid argument"
  | nameTooLong => "File name too long"
  | notEmpty => "Directory not empty"
  | linkLoop => "Too many levels of symbolic links"

def fault (refusal : Refusal) : Fault := .ofNumber refusal.number refusal.text

end Refusal

end TestHarness.Machine
