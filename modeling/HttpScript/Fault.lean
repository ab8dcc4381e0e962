import HttpScript.Json

/-!
# Faults

What a transport may fail with: an error, perhaps with a code and a cause, or any other value.
-/

namespace HttpScript

/-- Something that was thrown. `isType` marks the errors that a broken connection is reported as. -/
inductive Fault where
  | error (isType : Bool) (name message : String) (code : Option String) (cause : Option Fault)
  | value (v : Json Binary64)

namespace Fault

def plain (message : String) : Fault := .error false "Error" message none none

/-- The fault of a text that is no URL. -/
def invalidUrl : Fault := .error true "TypeError" "Invalid URL" (some "ERR_INVALID_URL") none

def abortName : String := "AbortError"

mutual

/-- A thrown value as text; `none` for one that cannot be written, because it has or contains a
member named `toString` that hides how an object is written. -/
def valueText? : Json Binary64 → Option String
  | .null => some "null"
  | .bool b => some (if b then "true" else "false")
  | .number n => some n.text
  | .text s => some s.text
  | .list xs => (valueTexts? xs).map (",".intercalate ·)
  | .object ms => if Record.has ms "toString" then none else some "[object Object]"

/-- The items of a thrown list as text; null leaves nothing. -/
def valueTexts? : List (Json Binary64) → Option (List String)
  | [] => some []
  | .null :: r => (valueTexts? r).map ("" :: ·)
  | x :: r => match valueText? x, valueTexts? r with
    | some s, some ss => some (s :: ss)
    | _, _ => none

end

/-- The fault of a value that cannot be written as text. -/
def unwritable : Fault :=
  .error true "TypeError" "Cannot convert object to primitive value" none none

/-- The message of an error, or the text of another value, if it can be written. -/
def message? : Fault → Option String
  | error _ _ message _ _ => some message
  | value v => valueText? v

/-- The error that a fault is reported as: a value that is no error becomes one. -/
def asError : Fault → Fault
  | value v => match valueText? v with
    | some s => plain s
    | none => unwritable
  | f => f

def message (f : Fault) : String :=
  match f.asError with
  | error _ _ message _ _ => message
  | value _ => ""

def code? : Fault → Option String
  | error _ _ _ code _ => code
  | value (.object ms) => match Record.get? ms "code" with
    | some (.text s) => some s.text
    | _ => none
  | value _ => none

def connectionCodes : List String :=
  ["ECONNREFUSED", "ECONNRESET", "ECONNABORTED", "ENOTFOUND", "EAI_AGAIN", "ETIMEDOUT",
    "EHOSTUNREACH", "ENETUNREACH", "EPIPE"]

/-- Whether a code says that the network failed: name resolution, connection or encryption. -/
def isNetworkCode (code : String) : Bool :=
  connectionCodes.contains code || Text.startsWith "UND_ERR_" code ||
    Text.startsWith "ERR_TLS_" code || Text.occursIn "CERT".toList code.toList

/-- Whether a fault comes from the network: it says so itself, or its cause does. -/
def isNetwork : Fault → Bool
  | value _ => false
  | error isType name message code cause =>
    (isType && message == "fetch failed") ||
      ((error isType name message code cause).code?.any isNetworkCode) ||
      ((cause.bind code?).any isNetworkCode)

/-- The message of an error, with that of its cause in parentheses when it says something else. -/
def describe : Fault → String
  | error _ _ message _ (some (error _ _ inner _ _)) =>
    if inner.isEmpty || inner == message then message else message ++ " (" ++ inner ++ ")"
  | f => f.message

end Fault

/-! ## Failures of a request -/

/-- Why a request failed. -/
inductive FailureKind where
  | cancelled
  | timeout
  | transport
  | unknown
  deriving DecidableEq, Repr

def FailureKind.text : FailureKind → String
  | cancelled => "cancelled"
  | timeout => "timeout"
  | transport => "transport"
  | unknown => "unknown"

/-- A failure and its wording. -/
structure Failure where
  kind : FailureKind
  message : String
  deriving DecidableEq, Repr

/-- The failure that a fault means, given whether the request was cancelled or timed out first. -/
def Failure.classify (fault : Fault) (cancelled timedOut : Bool) (timeoutMs : Binary64) :
    Failure :=
  if cancelled then ⟨.cancelled, "Request was cancelled"⟩
  else if timedOut then ⟨.timeout, "Request timed out after " ++ timeoutMs.text ++ "ms"⟩
  else if fault.isNetwork then ⟨.transport, "Transport error: " ++ fault.describe⟩
  else ⟨.unknown, "Error: " ++ fault.message⟩

/-- Whether a fault can be classified: what it was known for at first, or what it says. -/
def Fault.isClassified (fault : Fault) (cancelled timedOut : Bool) : Bool :=
  cancelled || timedOut || fault.isNetwork || fault.message?.isSome

end HttpScript
