/-!
Media types. A type, a slash and a subtype, perhaps with a suffix behind the last plus sign, and parameters behind
semicolons. JSON is `application/json` and every `application` type with the suffix `json`.
-/
namespace FeedFanout.Http

structure MediaType where
  type : List Char
  subtype : List Char
  suffix : Option (List Char)
deriving DecidableEq, Repr

namespace MediaType

/-- Letters, digits and the marks that names may hold. -/
def isToken (c : Char) : Bool := c.isAlphanum || "!#$%&'*+-.^_`|~".toList.contains c

/-- Behind the closing quote of a value: spaces up to the next parameter. -/
def afterQuote? : List Char → Option (List Char)
  | [] => some []
  | ' ' :: cs => afterQuote? cs
  | ';' :: cs => some cs
  | _ => none

/-- Inside a quoted value, which holds at least one character. -/
def quoted? (first : Bool) : List Char → Option (List Char)
  | [] => none
  | c :: cs =>
    if c = '"' && !first then afterQuote? cs
    else if 31 < c.toNat && c.toNat ≠ 127 then quoted? false cs
    else none

/-- A value, and what stands behind the semicolon that ends it. It may be empty at the end of the text only. -/
def value? (first : Bool) : List Char → Option (List Char)
  | [] => some []
  | c :: cs =>
    if c = '"' && first then quoted? true cs
    else if isToken c then value? false cs
    else if c = ';' && !first then some cs
    else none

/-- A name, and what stands behind its equals sign. -/
def name? (first : Bool) : List Char → Option (List Char)
  | [] => none
  | c :: cs =>
    if isToken c then name? false cs
    else if c = '=' && !first then some cs
    else none

/-- Parameters up to the end of the text, each perhaps behind spaces. -/
def parameters (fuel : Nat) (cs : List Char) : Bool :=
  match fuel, cs.dropWhile (· = ' ') with
  | _, [] => true
  | 0, _ => false
  | fuel + 1, cs =>
    match (name? true cs).bind (value? true) with
    | some rest => parameters fuel rest
    | none => false

/-- The subtype up to the last plus sign that does not begin it, and what follows that sign. -/
def splitSuffix (subtype : List Char) : List Char × Option (List Char) :=
  let tail := (subtype.reverse.takeWhile (· ≠ '+')).reverse
  if tail.length + 1 < subtype.length then (subtype.take (subtype.length - tail.length - 1), some tail)
  else (subtype, none)

def parse? (text : String) : Option MediaType :=
  let cs := text.toList.map Char.toLower
  let type := cs.takeWhile isToken
  match type, cs.dropWhile isToken with
  | _ :: _, '/' :: rest =>
    let subtype := rest.takeWhile isToken
    let (name, suffix) := splitSuffix subtype
    match rest.dropWhile isToken with
    | [] => some ⟨type, name, suffix⟩
    | ';' :: rest =>
      if !subtype.isEmpty && parameters rest.length rest then some ⟨type, name, suffix⟩ else none
    | _ => none
  | _, _ => none

def isJson (m : MediaType) : Bool :=
  m.type = "application".toList && (m.subtype = "json".toList || m.suffix = some "json".toList)

end MediaType

end FeedFanout.Http
