import HttpScript.FileTree

/-!
# Problems

What is reported when the program cannot go on: a name and a code for programs, and a message for
readers.
-/

namespace HttpScript

/-- A reported problem. -/
structure Problem where
  name : String
  code : String
  message : String
  deriving DecidableEq, Repr

namespace Problem

/-- A problem of no particular kind. -/
def plain (code message : String) : Problem := ⟨"ReqchainError", code, message⟩

def environment (source reason : String) : Problem :=
  ⟨"EnvironmentError", "ENVIRONMENT_INVALID",
    "Invalid environment file '" ++ source ++ "': " ++ reason⟩

def config (source reason : String) : Problem :=
  ⟨"ConfigError", "CONFIG_INVALID", "Invalid config file '" ++ source ++ "': " ++ reason⟩

def requestNotFound (identifier : String) : Problem :=
  ⟨"RequestNotFoundError", "REQUEST_NOT_FOUND", "No request found with " ++ identifier⟩

end Problem

/-- Why a file gives nothing: it cannot be read, or what it holds is refused. -/
inductive LoadError where
  | unreadable (cause : ReadError)
  | refused (problem : Problem)
  deriving DecidableEq, Repr

def LoadError.message : LoadError → String
  | unreadable cause => cause.message
  | refused problem => problem.message

end HttpScript
