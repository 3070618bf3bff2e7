/-!
# Faults

A fault is what the system answers when it cannot list a directory or start a program: a class of
faults, on which decisions are made, and a text, which is only ever shown.
-/

namespace TestHarness

namespace Fault

inductive Kind where
  | notFound | permissionDenied | connectionRefused | connectionReset | hostUnreachable
  | networkUnreachable | connectionAborted | notConnected | addrInUse | addrNotAvailable
  | networkDown | brokenPipe | alreadyExists | wouldBlock | notADirectory | isADirectory
  | directoryNotEmpty | readOnlyFilesystem | filesystemLoop | staleNetworkFileHandle
  | invalidInput | invalidData | timedOut | writeZero | storageFull | notSeekable | quotaExceeded
  | fileTooLarge | resourceBusy | executableFileBusy | deadlock | crossesDevices | tooManyLinks
  | invalidFilename | argumentListTooLong | interrupted | unsupported | unexpectedEof
  | outOfMemory | inProgress | other | uncategorized
  deriving DecidableEq

/-- The class of a numbered system error. -/
def Kind.ofNumber (number : Int) : Kind :=
  match number with
  | 1 | 13 => .permissionDenied
  | 2 => .notFound
  | 4 => .interrupted
  | 7 => .argumentListTooLong
  | 11 => .wouldBlock
  | 12 => .outOfMemory
  | 16 => .resourceBusy
  | 17 => .alreadyExists
  | 18 => .crossesDevices
  | 20 => .notADirectory
  | 21 => .isADirectory
  | 22 => .invalidInput
  | 26 => .executableFileBusy
  | 27 => .fileTooLarge
  | 28 => .storageFull
  | 29 => .notSeekable
  | 30 => .readOnlyFilesystem
  | 31 => .tooManyLinks
  | 32 => .brokenPipe
  | 35 => .deadlock
  | 36 => .invalidFilename
  | 38 | 95 => .unsupported
  | 39 => .directoryNotEmpty
  | 40 => .filesystemLoop
  | 98 => .addrInUse
  | 99 => .addrNotAvailable
  | 100 => .networkDown
  | 101 => .networkUnreachable
  | 103 => .connectionAborted
  | 104 => .connectionReset
  | 107 => .notConnected
  | 110 => .timedOut
  | 111 => .connectionRefused
  | 113 => .hostUnreachable
  | 115 => .inProgress
  | 116 => .staleNetworkFileHandle
  | 122 => .quotaExceeded
  | _ => .uncategorized

end Fault

structure Fault where
  kind : Fault.Kind
  text : String
  deriving DecidableEq

namespace Fault

/-- A numbered system error shows its number after its text. -/
def ofNumber (number : Nat) (text : String) : Fault :=
  ⟨Kind.ofNumber number, text ++ " (os error " ++ toString number ++ ")"⟩

/-- A path to be looked up holds a zero octet. -/
def nulInPath : Fault := ⟨.invalidInput, "file name contained an unexpected NUL byte"⟩

/-- A word of a command to be started holds a zero octet. -/
def nulInCommand : Fault := ⟨.invalidInput, "nul byte found in provided data"⟩

end Fault

end TestHarness
