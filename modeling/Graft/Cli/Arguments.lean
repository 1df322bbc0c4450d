import Graft.Config.Loading

/-! # Arguments

The flags of the configuration come first, right after the name of the program. What follows the
last of them is the command. An argument can hold bytes that are no text: flags are told by what it
reads as, and it is handed on as it is.
-/

namespace Graft.Cli

/-- Whether an argument is a flag of the configuration, and if so whether it takes the argument
after it. -/
def takesNext? (argument : String) : Option Bool :=
  match Flags.divide argument with
  | (name, value) =>
    if name = switchName then some false
    else if (ValueFlag.ofName? name).isSome then some value.isNone
    else none

structure Split (α : Type) where
  config : List α
  commandStart : Nat
deriving DecidableEq, Repr

section

variable {α : Type} (text : α → String)

/-- Goes on after the arguments that were taken for the configuration. So many of those ahead are
values of a flag, and are taken whatever they look like. -/
def splitFrom (taken : Array α) (commandStart pending : Nat) : List α → Split α
  | [] => ⟨taken.toList, commandStart⟩
  | argument :: rest =>
    match pending with
    | values + 1 => splitFrom (taken.push argument) (commandStart + 1) values rest
    | 0 =>
      match takesNext? (text argument) with
      | some takesNext => splitFrom (taken.push argument) (commandStart + 1) takesNext.toNat rest
      | none => ⟨taken.toList, commandStart⟩

def splitBy : List α → Split α
  | [] => ⟨[], 0⟩
  | program :: rest => splitFrom text #[program] 1 0 rest

/-- What the command is read from: the name of the program and what the configuration left. -/
def commandBy (arguments : List α) : List α :=
  arguments.take 1 ++ arguments.drop (splitBy text arguments).commandStart

end

/-! ## Arguments that are texts -/

def split (arguments : List String) : Split String :=
  splitBy id arguments

def commandArguments (arguments : List String) : List String :=
  commandBy id arguments

end Graft.Cli
