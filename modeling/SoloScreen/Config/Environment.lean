import SoloScreen.Config.Literal

/-!
# Settings from environment variables

A variable whose name begins with `FSM_` sets a value. The rest of the name is a path: parts are
separated by two underscores or by a point. Case does not matter in names.
-/

namespace SoloScreen.Config

/-- Environment variables with their values, the oldest first. -/
abbrev Environment := List (String × String)

namespace Environment

/-- Set a variable; a new one comes last. -/
def set (name value : String) : Environment → Environment
  | [] => [(name, value)]
  | (other, old) :: rest =>
    if other = name then (name, value) :: rest else (other, old) :: set name value rest

/-- What the names of all variables that count begin with, in lower case. -/
def namePrefix : List Char := ['f', 's', 'm', '_']

/-- The parts of a path, separated by two underscores or by a point. `part` is the part begun, read
backwards. -/
def splitPath (part : List Char) : List Char → List (List Char)
  | '_' :: '_' :: cs => part.reverse :: splitPath [] cs
  | '.' :: cs => part.reverse :: splitPath [] cs
  | c :: cs => splitPath (c :: part) cs
  | [] => [part.reverse]

/-- The path that the name of a variable stands for, if it counts. No part may be empty. -/
def path? (name : String) : Option (List String) :=
  let cs := (Text.trim name.toList).map Char.toLower
  if namePrefix.isPrefixOf cs then
    let parts := splitPath [] (Text.trim (cs.drop namePrefix.length))
    if parts.any List.isEmpty then none else some (parts.map String.ofList)
  else none

/-- The values that the variables set; a later one is laid on an earlier one. -/
def layer (environment : Environment) : Value :=
  environment.foldl
    (fun below (name, text) =>
      match path? name with
      | some path => below.merge (Value.nest path (Literal.read text))
      | none => below)
    (.table [])

end Environment

end SoloScreen.Config
