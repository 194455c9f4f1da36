import FeedFanout.Decimal.Integer

/-!
Dates and times of TOML documents: a date, a time of day, or both with perhaps an offset. `Moment.text` writes them in
one form: a `T` between date and time, a capital `Z`, and no zeros at the end of a fraction.
-/
namespace FeedFanout.Document.Toml

structure Date where
  year : Nat
  month : Nat
  day : Nat
deriving DecidableEq, Repr

structure Clock where
  hour : Nat
  minute : Nat
  second : Option Nat
  /-- Nine digits at most. -/
  fraction : List Nat
deriving DecidableEq, Repr

/-- Distance from universal time. -/
inductive Offset
  | zulu
  | minutes (n : Int)
deriving DecidableEq, Repr

inductive Moment
  | date (date : Date)
  | time (clock : Clock)
  | both (date : Date) (clock : Clock) (offset : Option Offset)
deriving DecidableEq, Repr

/-! ### Reading -/

/-- Exactly `k` digits, as a number put behind `n`. -/
def fixed? : Nat → Nat → List Char → Option (Nat × List Char)
  | 0, n, cs => some (n, cs)
  | _ + 1, _, [] => none
  | k + 1, n, c :: cs =>
    match Decimal.digitValue? c with
    | some d => fixed? k (n * 10 + d) cs
    | none => none

def isLeap (year : Nat) : Bool := year % 4 = 0 && (year % 100 ≠ 0 || year % 400 = 0)

def daysIn (year month : Nat) : Nat :=
  if month = 2 then (if isLeap year then 29 else 28)
  else if month = 4 ∨ month = 6 ∨ month = 9 ∨ month = 11 then 30
  else 31

def date? (cs : List Char) : Option (Date × List Char) :=
  match fixed? 4 0 cs with
  | some (year, '-' :: cs) =>
    match fixed? 2 0 cs with
    | some (month, '-' :: cs) =>
      match fixed? 2 0 cs with
      | some (day, cs) =>
        if 1 ≤ month ∧ month ≤ 12 ∧ 1 ≤ day ∧ day ≤ daysIn year month then some (⟨year, month, day⟩, cs) else none
      | none => none
    | _ => none
  | _ => none

/-- Hours and minutes with a colon between them. -/
def hourMinute? (cs : List Char) : Option (Nat × Nat × List Char) :=
  match fixed? 2 0 cs with
  | some (hour, ':' :: cs) =>
    match fixed? 2 0 cs with
    | some (minute, cs) => if hour ≤ 23 ∧ minute ≤ 59 then some (hour, minute, cs) else none
    | none => none
  | _ => none

/-- The seconds may be missing; a fraction of them has at least one digit. -/
def clock? (cs : List Char) : Option (Clock × List Char) :=
  match hourMinute? cs with
  | none => none
  | some (hour, minute, ':' :: cs) =>
    match fixed? 2 0 cs with
    | none => none
    | some (second, cs) =>
      if 60 < second then none
      else match cs with
        | '.' :: cs =>
          let digits := cs.takeWhile fun c => (Decimal.digitValue? c).isSome
          if digits.isEmpty then none
          else some (⟨hour, minute, some second, (digits.filterMap Decimal.digitValue?).take 9⟩, cs.drop digits.length)
        | cs => some (⟨hour, minute, some second, []⟩, cs)
  | some (hour, minute, cs) => some (⟨hour, minute, none, []⟩, cs)

def offset? : List Char → Option (Option Offset)
  | [] => some none
  | ['Z'] => some (some .zulu)
  | ['z'] => some (some .zulu)
  | sign :: cs =>
    match hourMinute? cs with
    | some (hours, minutes, []) =>
      let n : Int := hours * 60 + minutes
      if sign = '+' then some (some (.minutes n)) else if sign = '-' then some (some (.minutes (-n))) else none
    | _ => none

/-- A text that is a date, a time, or both. -/
def moment? (cs : List Char) : Option Moment :=
  match date? cs with
  | some (date, []) => some (.date date)
  | some (date, mark :: cs) =>
    if mark = 'T' ∨ mark = 't' ∨ mark = ' ' then
      match clock? cs with
      | some (clock, cs) => (offset? cs).map (.both date clock)
      | none => none
    else none
  | none =>
    match clock? cs with
    | some (clock, []) => some (.time clock)
    | _ => none

/-! ### Writing -/

/-- At least `width` digits. -/
def padded (width n : Nat) : String :=
  let digits := Nat.toDigits 10 n
  String.ofList (List.replicate (width - digits.length) '0' ++ digits)

def Date.text (d : Date) : String := s!"{padded 4 d.year}-{padded 2 d.month}-{padded 2 d.day}"

def fractionText (digits : List Nat) : String :=
  if digits.isEmpty then ""
  else
    let kept := (digits.reverse.dropWhile (· = 0)).reverse
    "." ++ String.join ((if kept.isEmpty then [0] else kept).map (padded 1))

def Clock.text (c : Clock) : String :=
  let seconds := match c.second with
    | some second => ":" ++ padded 2 second
    | none => ""
  s!"{padded 2 c.hour}:{padded 2 c.minute}{seconds}{fractionText c.fraction}"

def Offset.text : Offset → String
  | .zulu => "Z"
  | .minutes n =>
    let sign := if n < 0 then "-" else "+"
    s!"{sign}{padded 2 (n.natAbs / 60)}:{padded 2 (n.natAbs % 60)}"

def Moment.text : Moment → String
  | .date d => d.text
  | .time c => c.text
  | .both d c offset =>
    let offsetText := (offset.map Offset.text).getD ""
    s!"{d.text}T{c.text}{offsetText}"

end FeedFanout.Document.Toml
