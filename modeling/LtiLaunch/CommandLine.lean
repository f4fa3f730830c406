import LtiLaunch.Files.Path
import LtiLaunch.Text.Blank

/-!
# The command line

One path may be given, bare or with `--config`; without it, a file in the current directory is
meant.
-/

namespace LtiLaunch.CommandLine

inductive UsageError
  | missingPath
  | unknownOption (option : String)
  | tooManyPaths
  | blankPath
  deriving DecidableEq, Repr

def usage : String := "usage: lms-launch [--config <path>]"

def defaultFile : String := "lms-launch.jsonc"

namespace UsageError

def reason : UsageError → String
  | missingPath => "--config expects a path"
  | unknownOption option => "unknown option '" ++ option ++ "'"
  | tooManyPaths => "expected at most one config path"
  | blankPath => "config path cannot be empty"

def message (e : UsageError) : String := e.reason ++ ". " ++ usage

end UsageError

/-- The path after `--config=`, if the argument has that form. -/
def inlinePath? (arg : String) : Option String :=
  let option := "--config=".toList
  if option.isPrefixOf arg.toList then some (String.ofList (arg.toList.drop option.length))
  else none

def takePath (first : String) (rest : List String) : Except UsageError (String × List String) :=
  if first = "--config" then
    match rest with
    | path :: rest => .ok (path, rest)
    | [] => .error .missingPath
  else
    match inlinePath? first with
    | some path => .ok (path, rest)
    | none =>
      if first.toList.head? = some '-' then .error (.unknownOption first) else .ok (first, rest)

def givenPath? : List String → Except UsageError (Option String)
  | [] => .ok none
  | first :: rest => do
    let (path, more) ← takePath first rest
    if !more.isEmpty then throw .tooManyPaths
    if Text.isBlank path then throw .blankPath
    return some path

def configPath (currentDirectory : String) (args : List String) : Except UsageError String := do
  return (← givenPath? args).getD (Path.join currentDirectory defaultFile)

end LtiLaunch.CommandLine
