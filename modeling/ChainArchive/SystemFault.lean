import ChainArchive.Text.Quoted

namespace ChainArchive

/-! What the operating system refuses. -/

inductive SystemFault where
  | notFound
  | permissionDenied
  | notADirectory
  | isADirectory
  | noSpace
  | nameTooLong
  | connectionRefused
  | zeroInName
  | other (code : Nat) (reason : String)
  deriving DecidableEq, Repr

namespace SystemFault

/-- The system's number; a name with a zero byte never reaches the system. -/
def code? : SystemFault → Option Nat
  | .notFound => some 2
  | .permissionDenied => some 13
  | .notADirectory => some 20
  | .isADirectory => some 21
  | .noSpace => some 28
  | .nameTooLong => some 36
  | .connectionRefused => some 111
  | .other code _ => some code
  | .zeroInName => none

def ofCode (code : Nat) (reason : String) : SystemFault :=
  (([.notFound, .permissionDenied, .notADirectory, .isADirectory, .noSpace, .nameTooLong,
    .connectionRefused] : List SystemFault).find? (·.code? = some code)).getD
    (.other code reason)

def kind : SystemFault → String
  | .notFound => "NotFound"
  | .permissionDenied => "PermissionDenied"
  | .notADirectory => "NotADirectory"
  | .isADirectory => "IsADirectory"
  | .noSpace => "StorageFull"
  | .nameTooLong => "InvalidFilename"
  | .connectionRefused => "ConnectionRefused"
  | .zeroInName => "InvalidInput"
  | .other _ _ => "Uncategorized"

def reason : SystemFault → String
  | .notFound => "No such file or directory"
  | .permissionDenied => "Permission denied"
  | .notADirectory => "Not a directory"
  | .isADirectory => "Is a directory"
  | .noSpace => "No space left on device"
  | .nameTooLong => "File name too long"
  | .connectionRefused => "Connection refused"
  | .zeroInName => "file name contained an unexpected NUL byte"
  | .other _ reason => reason

def message (fault : SystemFault) : String :=
  match fault.code? with
  | some code => fault.reason ++ " (os error " ++ toString code ++ ")"
  | none => fault.reason

def details (fault : SystemFault) : String :=
  match fault.code? with
  | some code =>
      "Os \x7b code: " ++ toString code ++ ", kind: " ++ fault.kind ++
        ", message: " ++ Text.quoted fault.reason ++ " \x7d"
  | none =>
      "Error \x7b kind: " ++ fault.kind ++ ", message: " ++
        Text.quoted fault.reason ++ " \x7d"

end SystemFault

end ChainArchive
