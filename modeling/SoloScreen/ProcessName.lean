import SoloScreen.Text.Blank
import SoloScreen.Text.Lowercase

/-!
# Process names

A process is known by the name of its program file, in lower case and without the extension. A name
comes either from the path of the file (`ProcessName.ofImagePath`) or from the user
(`ProcessName.normalize`); the user's names are also checked (`ProcessName.check`).
-/

namespace SoloScreen.ProcessName

/-- A character that separates directories. -/
def isSeparator (c : Char) : Bool := c == '\\' || c == '/'

/-- The part of a path after its last separator. -/
def fileName (path : List Char) : List Char :=
  (path.reverse.takeWhile (!isSeparator ·)).reverse

/-- A file name up to its last dot; a name without a dot, or with none but its first character, is
its own stem. -/
def stem (file : List Char) : List Char :=
  match file.reverse.dropWhile (· != '.') with
  | [] => file
  | [_] => file
  | _ :: before => before.reverse

/-- The name of the process that runs the program at a path. -/
def ofImagePath (path : String) : String :=
  String.ofList (Text.lower (Text.trim (stem (fileName path.toList))))

/-- The extension that a user may write. -/
def extension : List Char := ['.', 'e', 'x', 'e']

/-- The text without the extension at its end, if it ends in it and is longer. -/
def dropExtension (name : List Char) : List Char :=
  if extension.isSuffixOf name && extension.length < name.length then
    name.take (name.length - extension.length)
  else name

/-- The name that a user means: blanks at the ends, case and the extension do not matter. -/
def normalize (name : String) : String :=
  String.ofList (dropExtension (Text.lower (Text.trim name.toList)))

/-! ## Checking -/

/-- Characters that no process name contains. -/
def forbidden : List Char := ['<', '>', ':', '"', '|', '?', '*', '\\', '/']

/-- The number of characters that a process name may have. -/
def maxLength : Nat := 100

/-- What is wrong with a name. -/
inductive Fault where
  /-- There is nothing but blanks. -/
  | empty
  /-- The name has more than `maxLength` characters. -/
  | tooLong (name : String)
  /-- The name contains a forbidden character; this is the first one. -/
  | forbidden (name : String) (c : Char)
  deriving DecidableEq, Repr

/-- What is reported for a fault. -/
def Fault.message : Fault → String
  | .empty => "имя процесса не может быть пустым"
  | .tooLong name => "имя процесса '" ++ name ++ "' длиннее " ++ toString maxLength ++ " символов"
  | .forbidden name c =>
    "имя процесса '" ++ name ++ "' содержит недопустимый символ '" ++ String.singleton c ++ "'"

/-- The first thing wrong with a name, blanks at its ends left out. -/
def fault? (name : String) : Option Fault :=
  let trimmed := Text.trim name.toList
  if trimmed.isEmpty then some .empty
  else if maxLength < trimmed.length then some (.tooLong (String.ofList trimmed))
  else (trimmed.find? forbidden.contains).map (.forbidden (String.ofList trimmed))

/-- A name passes, or its first fault is the error. -/
def check (name : String) : Except Fault Unit :=
  match fault? name with
  | none => .ok ()
  | some fault => .error fault

end SoloScreen.ProcessName
