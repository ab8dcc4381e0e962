import HttpScript.Query.Conversion

/-!
# Methods of values

The names of the methods that values have besides their own members, with the number of arguments
that each one states; and how a member is read.

    member v name    an own member, or a method bound to the value it was read from
-/

namespace HttpScript.Query

/-! ## Names -/

/-- Methods by the number of their arguments. -/
abbrev MethodNames := List (Nat × List String)

def arityOf? (names : MethodNames) (name : String) : Option Nat :=
  names.findSome? fun (n, ns) => if ns.contains name then some n else none

def textMethods : MethodNames :=
  [(0, ["big", "blink", "bold", "fixed", "isWellFormed", "italics", "normalize", "small", "strike",
      "sub", "sup", "toLocaleLowerCase", "toLocaleUpperCase", "toLowerCase", "toString",
      "toUpperCase", "toWellFormed", "trim", "trimEnd", "trimStart", "valueOf"]),
    (1, ["anchor", "at", "charAt", "charCodeAt", "codePointAt", "concat", "endsWith", "fontcolor",
      "fontsize", "includes", "indexOf", "lastIndexOf", "link", "localeCompare", "match",
      "matchAll", "repeat", "search", "startsWith"]),
    (2, ["padEnd", "padStart", "replace", "replaceAll", "slice", "split", "substr", "substring"])]

def textAliases : List (String × String) := [("trimLeft", "trimStart"), ("trimRight", "trimEnd")]

def listMethods : MethodNames :=
  [(0, ["entries", "flat", "keys", "pop", "reverse", "shift", "toLocaleString", "toReversed",
      "toString", "values"]),
    (1, ["at", "concat", "every", "fill", "filter", "find", "findIndex", "findLast",
      "findLastIndex", "flatMap", "forEach", "includes", "indexOf", "join", "lastIndexOf", "map",
      "push", "reduce", "reduceRight", "some", "sort", "toSorted", "unshift"]),
    (2, ["copyWithin", "slice", "splice", "toSpliced", "with"])]

def numberMethods : MethodNames :=
  [(0, ["toLocaleString", "valueOf"]), (1, ["toExponential", "toFixed", "toPrecision", "toString"])]

def wholeMethods : MethodNames := [(0, ["toLocaleString", "toString", "valueOf"])]

def plainMethods : MethodNames := [(0, ["toString", "valueOf"])]

def patternMethods : MethodNames :=
  [(0, ["toString"]), (1, ["exec", "test"]), (2, ["compile"])]

def callMethods : MethodNames := [(0, ["toString"]), (1, ["bind", "call"]), (2, ["apply"])]

def walkMethods : MethodNames :=
  [(0, ["next", "toArray"]), (1, ["drop", "every", "filter", "find", "flatMap", "forEach", "map",
    "reduce", "some", "take"])]

def objectMethods : MethodNames :=
  [(0, ["toLocaleString", "toString", "valueOf"]),
    (1, ["hasOwnProperty", "isPrototypeOf", "propertyIsEnumerable"])]

def Memory.methodsOf (m : Memory) (v : Value) : MethodNames :=
  match v with
  | .undefined | .null => []
  | .bool _ => plainMethods
  | .number _ => numberMethods
  | .whole _ => wholeMethods
  | .text _ => textMethods
  | .node _ (.number _) => plainMethods
  | .node _ (.object _) => []
  | .pattern .. => patternMethods
  | v => match m.cell? v with
    | some (.method ..) => callMethods
    | some (.walk ..) => walkMethods
    | some (.record ..) => []
    | _ => if m.isList v then listMethods else []

/-- Whether a value has the methods of all values. -/
def Memory.isStandard (m : Memory) (v : Value) : Bool :=
  match m.cell? v with
  | some (.record _ bare) => !bare
  | _ => v.isPresent

/-! ## Members -/

/-- The names of members that are never reached unless a value has them of its own. -/
def blockedNames : List String :=
  ["constructor", "__proto__", "__defineGetter__", "__defineSetter__", "__lookupGetter__",
    "__lookupSetter__"]

/-- What a pattern tells about itself. -/
def patternFact? (r : Regex.Compiled) (name : String) : Option Value :=
  match name with
  | "source" => some (.text (sourceText r.source))
  | "flags" => some (.ofString r.flags.text)
  | "hasIndices" => some (.bool r.flags.indices)
  | "global" => some (.bool r.flags.global)
  | "ignoreCase" => some (.bool r.flags.ignoreCase)
  | "multiline" => some (.bool r.flags.multiline)
  | "dotAll" => some (.bool r.flags.dotAll)
  | "unicode" => some (.bool r.flags.unicode)
  | "unicodeSets" => some (.bool false)
  | "sticky" => some (.bool r.flags.sticky)
  | _ => none

namespace Eval

/-- A method of a value, bound to it. -/
def method (owner : Value) (name : String) (arity : Nat) : Eval Value :=
  make (.method owner name [] ("bound " ++ name) arity)

/-- A member that was read; a method among them is bound anew. -/
def rebound (v : Value) : Eval Value := do
  match (← memory).cell? v with
  | some (.method owner name given label arity) =>
    make (.method owner name given ("bound " ++ label) arity)
  | _ => pure v

/-- The member of a value: its own, or else a method of its kind or of all values. An absent value
and null have none. -/
def inherited (v : Value) (name : String) : Eval Value := do
  let m ← memory
  match (m.pattern? v).bind fun p => patternFact? p.regex name with
  | some fact => pure fact
  | none =>
    if m.isMethod v && (name == "arguments" || name == "caller") then failure
    else
      let name := match v with
        | .text _ => (textAliases.lookup name).getD name
        | _ => name
      match (arityOf? (m.methodsOf v) name).or
          (if m.isStandard v then arityOf? objectMethods name else none) with
      | some arity => method v name arity
      | none => pure .undefined

def member (v : Value) (name : Wide) : Eval Value := do
  if !v.isPresent then failure
  match (← memory).own? v name with
  | some x => rebound x
  | none => if blockedNames.contains name.text then failure else inherited v name.text

end Eval

end HttpScript.Query
