/-!
# Errors of file operations

The reasons for which an operation on files can fail, with the code, the name and the wording that
the operating system gives each of them. The reasons that a plain tree of files and folders can give
have names; all others are known by their code.
-/

namespace RpcStubs

/-- Why an operation on a file or folder failed. -/
inductive FileError where
  | notFound
  | busy
  | alreadyExists
  | notAFolder
  | isAFolder
  | nameTooLong
  | nulInName
  | other (code : Nat) (description : String)
  deriving DecidableEq, Repr

namespace FileError

/-- The number of an error of the operating system; a name with a NUL never reaches it. -/
def code? : FileError → Option Nat
  | .notFound => some 2
  | .busy => some 16
  | .alreadyExists => some 17
  | .notAFolder => some 20
  | .isAFolder => some 21
  | .nameTooLong => some 36
  | .nulInName => none
  | .other code _ => some code

/-- The class of an error that is known by its code. -/
def kindOfCode (code : Nat) : String :=
  if code = 13 then "PermissionDenied"
  else if code = 22 then "InvalidInput"
  else if code = 26 then "ExecutableFileBusy"
  else if code = 27 then "FileTooLarge"
  else if code = 28 then "StorageFull"
  else if code = 30 then "ReadOnlyFilesystem"
  else if code = 40 then "FilesystemLoop"
  else "Uncategorized"

/-- The class of an error. -/
def kind : FileError → String
  | .notFound => "NotFound"
  | .busy => "ResourceBusy"
  | .alreadyExists => "AlreadyExists"
  | .notAFolder => "NotADirectory"
  | .isAFolder => "IsADirectory"
  | .nameTooLong => "InvalidFilename"
  | .nulInName => "InvalidInput"
  | .other code _ => kindOfCode code

def description : FileError → String
  | .notFound => "No such file or directory"
  | .busy => "Device or resource busy"
  | .alreadyExists => "File exists"
  | .notAFolder => "Not a directory"
  | .isAFolder => "Is a directory"
  | .nameTooLong => "File name too long"
  | .nulInName => "file name contained an unexpected NUL byte"
  | .other _ description => description

/-- The error with a number, in the given wording if it has no name here. -/
def ofCode (code : Nat) (description : String) : FileError :=
  if code = 2 then .notFound
  else if code = 16 then .busy
  else if code = 17 then .alreadyExists
  else if code = 20 then .notAFolder
  else if code = 21 then .isAFolder
  else if code = 36 then .nameTooLong
  else .other code description

/-- The wording of an error with its number, if it has one. -/
def message (e : FileError) : String :=
  match e.code? with
  | some code => e.description ++ " (os error " ++ toString code ++ ")"
  | none => e.description

end FileError

end RpcStubs
