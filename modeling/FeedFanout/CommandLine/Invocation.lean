import FeedFanout.CommandLine.Help
import FeedFanout.Settings.Source

/-!
Command lines. The program takes a configuration file and a command; the command that runs the service takes an option
for every key of the settings. Words are read from left to right and the first fault is reported; an option is checked
once the next option, or the end, shows that it has all of its value.
-/
namespace FeedFanout.CommandLine

open Settings (Kind Draft)
open Text.Terminal (styled)

/-- What a command line asks for. -/
structure Invocation where
  configFile : Option String
  /-- The options of the service, if it is to run by name. -/
  serve : Option Draft

/-- Why a command line is not followed. Help and version are asked for, the others are faults. -/
inductive Refusal
  | help (text : String)
  | version
  | unknownCommand (word : String)
  | unknownArgument (word : String)
  | missingValue (choice : Choice)
  | invalidValue (choice : Choice) (value reason : String)
  | repeated (choice : Choice)
  /-- A value joined to an option that takes none. -/
  | unwantedValue (option value : String)

namespace Refusal

/-- The text in its styles. -/
def written : Refusal → String
  | .help text => text
  | .version => versionText
  | .unknownCommand word => s!"error: unrecognized subcommand '{styled word}'"
  | .unknownArgument word => s!"error: unexpected argument '{styled word}' found"
  | .missingValue choice => s!"error: a value is required for '{choice.shown}' but none was supplied"
  | .invalidValue choice value reason => s!"error: invalid value '{styled value}' for '{choice.shown}': {reason}"
  | .repeated choice => s!"error: the argument '{choice.shown}' cannot be used multiple times"
  | .unwantedValue option value =>
    s!"error: unexpected value '{styled value}' for '{option}' found; no more were expected"

def message (r : Refusal) : String := Text.Terminal.plain r.written

/-- Zero where no fault was made. -/
def exitCode : Refusal → Nat
  | .help _ => 0
  | .version => 0
  | _ => 2

end Refusal

/-! ### Values -/

def flagWord? (text : String) : Option Bool :=
  let word := Text.lower text
  if word ∈ ["y", "yes", "t", "true", "on", "1"] then some true
  else if word ∈ ["n", "no", "f", "false", "off", "0"] then some false
  else none

/-- A number up to `largest`, or the reason for refusing it. The shorter kinds are read as signed numbers first. -/
def count (largest : Nat) (text : String) : Except String (Fin (largest + 1)) :=
  let within (n : Int) : Except String (Fin (largest + 1)) :=
    if h : 0 ≤ n ∧ n.toNat < largest + 1 then .ok ⟨n.toNat, h.2⟩ else .error s!"{n} is not in 0..={largest}"
  let read : Except Decimal.IntegerError Int :=
    if largest < Decimal.largestInt64 then Decimal.parseInt Decimal.largestInt64 text.toList
    else (Decimal.parseNat largest text.toList).map fun n => (n : Int)
  match read with
  | .ok n => within n
  | .error e => .error e.message

/-- A text as a value of this kind. -/
def ofText : (kind : Kind) → String → Except String kind.Value
  | .text, text => .ok text
  | .flag, text =>
    match flagWord? text with
    | some flag => .ok flag
    | none => .error "value was not a boolean"
  | .count largest, text => count largest text

/-! ### Reading -/

/-- Where words are read: before the command, or behind the one that runs the service. -/
inductive Menu
  | program
  | serve
deriving DecidableEq, Repr

def Menu.choices : Menu → List Choice
  | .program => [.configFile]
  | .serve => Settings.Key.all.map .setting

/-- The values of the options so far, and the option that may still be given its value. -/
structure Reading where
  file : Option String
  draft : Draft
  pending : Option (Choice × Option String)

namespace Reading

def start : Reading := ⟨none, .empty, none⟩

/-- The last word was an option that has no value yet. -/
def awaits (r : Reading) : Bool :=
  match r.pending with
  | some (_, none) => true
  | _ => false

/-- Keeps the value of an option, once. -/
def keep (r : Reading) (choice : Choice) (value : String) : Except Refusal Reading :=
  match choice with
  | .configFile =>
    if r.file.isSome then .error (.repeated choice)
    else if value.isEmpty then .error (.missingValue choice)
    else .ok { r with file := some value }
  | .setting key =>
    if (r.draft key).isSome then .error (.repeated choice)
    else match ofText key.kind value with
      | .ok value => .ok { r with draft := r.draft.set key value }
      | .error reason => .error (.invalidValue choice value reason)

/-- Checks the option that was waiting. -/
def settle (r : Reading) : Except Refusal Reading :=
  match r.pending with
  | none => .ok r
  | some (choice, none) => .error (.missingValue choice)
  | some (choice, some value) => { r with pending := none }.keep choice value

end Reading

/-- The forms of a word. -/
inductive Word
  /-- Behind two hyphens, divided at the first equals sign. -/
  | long (name : String) (value : Option String)
  | short (letter : Char)
  /-- Two hyphens alone: what follows are no options. -/
  | divider
  | plain

def Word.ofText (text : String) : Word :=
  match text.toList with
  | ['-', '-'] => .divider
  | '-' :: '-' :: cs =>
    let name := cs.takeWhile (· ≠ '=')
    .long (String.ofList name) (match cs.drop name.length with
      | _ :: value => some (String.ofList value)
      | [] => none)
  | '-' :: letter :: _ => .short letter
  | _ => .plain

/-- The help of the help command's own words. -/
def helpFor (file : String) : List String → Refusal
  | [] => .help (programHelp file)
  | ["serve"] => .help serveHelp
  | ["help"] => .help helpHelp
  | "serve" :: word :: _ => .unknownCommand word
  | "help" :: word :: _ => .unknownCommand word
  | word :: _ => .unknownCommand word

/-- A plain word where none is expected. -/
def stray (menu : Menu) (word : String) : Refusal :=
  match menu with
  | .program => .unknownCommand word
  | .serve => .unknownArgument word

/-- A word behind the divider. Commands are known there, but not allowed. -/
def strayBehind (menu : Menu) (word : String) : Refusal :=
  if word = "serve" ∨ word = "help" then .unknownArgument word else stray menu word

def helpOf (menu : Menu) (file : String) : Refusal :=
  match menu with
  | .program => .help (programHelp file)
  | .serve => .help serveHelp

/-- An option that takes no value: help, and the version of the program. -/
def plainOption? (menu : Menu) (file name : String) : Option Refusal :=
  if name = "help" then some (helpOf menu file)
  else if name = "version" ∧ menu = .program then some .version
  else none

/-- Reads words up to the end, or up to the command that runs the service, whose words are then left over. `file` is
the value of the variable that names a file. -/
def scan (menu : Menu) (file : String) (r : Reading) : List String → Except Refusal (Reading × Option (List String))
  | [] => .ok (r, none)
  | word :: words =>
    if menu = .program ∧ !r.awaits ∧ word = "serve" then .ok (r, some words)
    else if menu = .program ∧ !r.awaits ∧ word = "help" then .error (helpFor file words)
    else match Word.ofText word with
    | .divider =>
      match words with
      | [] => .ok (r, none)
      | word :: _ => .error (strayBehind menu word)
    | .long name value =>
      match menu.choices.find? (·.name = name), value with
      | some choice, some value => do scan menu file (← (← r.settle).keep choice value) words
      | some choice, none => do scan menu file { ← r.settle with pending := some (choice, none) } words
      | none, value =>
        match plainOption? menu file name, value with
        | none, _ => .error (.unknownArgument s!"--{name}")
        | some _, some value => .error (.unwantedValue s!"--{name}" value)
        | some refusal, none => do
          let _ ← r.settle
          .error refusal
    | .short letter =>
      let name := if letter = 'h' then "help" else if letter = 'V' then "version" else ""
      match plainOption? menu file name with
      | none => .error (.unknownArgument s!"-{letter}")
      | some refusal => do
        let _ ← r.settle
        .error refusal
    | .plain =>
      match r.pending with
      | some (choice, none) => scan menu file { r with pending := some (choice, some word) } words
      | _ => .error (stray menu word)

/-- The options behind the command that runs the service. -/
def readServe (words : List String) : Except Refusal Draft := do
  let (r, _) ← scan .serve "" .start words
  return (← r.settle).draft

/-- A command line without the program's name. A file that no option names may be named by a variable. -/
def read (env : Settings.Environment) (words : List String) : Except Refusal Invocation := do
  let ambient := env.get? fileVariable
  let (r, rest) ← scan .program (ambient.getD "") .start words
  let serve ← match rest with
    | some words => (readServe words).map some
    | none => .ok none
  let r ← r.settle
  let r ← match r.file, ambient with
    | none, some file => r.keep .configFile file
    | _, _ => .ok r
  return ⟨r.file, serve⟩

/-- What the command line has to say about the settings. -/
def Invocation.overrides (i : Invocation) : Draft := i.serve.getD .empty

end FeedFanout.CommandLine
