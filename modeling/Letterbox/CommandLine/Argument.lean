import Letterbox.FileTree

/-!
# Arguments

What a command line may hold: options with a name and a value, and operands that stand by themselves.
Every argument says which texts it takes as values.
-/

namespace Letterbox.CommandLine

/-- What a person can have explained. -/
inductive HelpTopic where
  | program
  | command (name : String)
  /-- The subcommand that explains others. -/
  | help
deriving DecidableEq, Repr

/-- What is wrong with a command line, or why it is not carried out. -/
inductive UsageFault where
  | helpAsked (topic : HelpTopic)
  | versionAsked
  /-- Nothing was given at all. -/
  | nothingGiven
  | missingSubcommand
  | unknownSubcommand
  | unknownArgument
  | missingArgument
  | repeatedArgument
  /-- A value was given to something that takes none. -/
  | unneededValue
  /-- A value is missing or not among the possible ones. -/
  | badValue
  /-- A value cannot be read. -/
  | unreadableValue
deriving DecidableEq, Repr

/-- Whether the person only asked for information. -/
def UsageFault.isRequest : UsageFault → Bool
  | helpAsked _ | versionAsked => true
  | _ => false

/-- What texts are values. -/
inductive ValueShape where
  | text
  /-- A path, which is not empty. -/
  | path
  /-- A path at which no file is. -/
  | directory
  | truth
  | number
deriving DecidableEq, Repr

/-- An option or an operand. -/
structure Argument where
  name : String
  shape : ValueShape
  /-- It must have a value. -/
  isRequired : Bool := false
  /-- It may be given several times. -/
  isList : Bool := false
  /-- Each comma in its text separates values. -/
  isSplit : Bool := false
  /-- The variable of the environment that stands in for it. -/
  environmentName : Option String := none
  fallback : Option String := none
  about : String := ""
deriving DecidableEq, Repr

/-- The number below `2 ^ 64` that digits write, a plus sign before them allowed. -/
def number? (text : String) : Option Nat :=
  let digits :=
    match text.toList with
    | '+' :: rest => rest
    | letters => letters
  (Json.digits? digits).bind fun value => if value < UInt64.size then some value else none

/-- The truth value that a text names. -/
def truth? : String → Option Bool
  | "true" => some true
  | "false" => some false
  | _ => none

/-- Accepts the texts of a shape. -/
def ValueShape.check (files : FileTree) (value : String) : ValueShape → Except UsageFault Unit
  | text => .ok ()
  | path => if value = "" then .error .badValue else .ok ()
  | directory =>
    if files.exists? value ∧ ! files.isDirectory value then .error .unreadableValue else .ok ()
  | truth => if (truth? value).isSome then .ok () else .error .badValue
  | number => if (number? value).isSome then .ok () else .error .unreadableValue

/-- The values that a text gives to an argument. -/
def Argument.valuesOf (argument : Argument) (text : String) : List String :=
  if argument.isSplit then Text.splitString ',' text else [text]

/-- Accepts values that all have the shape of an argument. -/
def Argument.checkAll (argument : Argument) (files : FileTree) : List String → Except UsageFault Unit
  | [] => .ok ()
  | value :: rest =>
    match argument.shape.check files value with
    | .error fault => .error fault
    | .ok () => argument.checkAll files rest

end Letterbox.CommandLine
