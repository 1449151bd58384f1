import UtilityClass.Construction.Arguments

/-!
# Dates and durations

A date has a year, a month and a day that exist, and a moment has a time of the day as well. Both
can also be made of a text with their packed form, which shows by a month at its place. A duration
adds up its parts, and only the number of its days is limited.

## Main definitions

* `Hierarchy.createDate`, `Hierarchy.createMoment`, `Hierarchy.createDuration`
-/

namespace UtilityClass

namespace Hierarchy

variable (h : Hierarchy)

/-! ## Dates -/

/-- Refuses a value that is no integer of thirty-two bits. -/
def checkSmallInteger (v : Value) : Except Fault Unit := do
  let n ← h.indexOf v
  checkWord "long" n
  if (Nat.pow 2 31 : Int) ≤ n then
    .error (overflowComplaint "signed integer is greater than maximum")
  if n < -(Nat.pow 2 31 : Int) then
    .error (overflowComplaint "signed integer is less than minimum")

/-- Whether a year has a day more. -/
def isLeapYear (year : Int) : Bool :=
  year % 4 = 0 && (year % 100 ≠ 0 || year % 400 = 0)

/-- The number of days of a month. -/
def daysOf (year month : Int) : Int :=
  if month = 2 then if isLeapYear year then 29 else 28
  else if [4, 6, 9, 11].contains month then 30
  else 31

/-- Refuses a date that does not exist. -/
def checkDate (year month day : Int) : Except Fault Unit := do
  if year < 1 ∨ 9999 < year then
    .error (valueComplaint ("year " ++ intText year ++ " is out of range"))
  if month < 1 ∨ 12 < month then .error (valueComplaint "month must be in 1..12")
  if day < 1 ∨ daysOf year month < day then
    .error (valueComplaint "day is out of range for month")

/-- What a text is that a date or a moment is made of, if it has the length of the packed form: its
third character tells a month. -/
def packedText? (length : Nat) (month : Char → Nat) (v : Value) : Option String :=
  match v.content? with
  | some (.str text) =>
    let chars := text.toList
    if chars.length = length ∧ chars[2]?.any fun c => 1 ≤ month c && month c ≤ 12 then some text
    else none
  | _ => none

/-- Refuses a packed form with a character that is no byte. -/
def checkPacked (kind text : String) : Except Fault Unit :=
  if text.toList.all fun c => c.toNat < 256 then .ok ()
  else .error (valueComplaint ("Failed to encode latin1 string when unpickling a " ++ kind ++
    " object. pickle.load(data, encoding='latin1') is assumed."))

/-- The integer that an argument is, or the usual one without it. -/
def integerOr (usual : Int) (v : Option Value) : Int :=
  ((v.bind Value.content?).bind Json.integer?).getD usual

/-- Refuses arguments that give no date. -/
def createDate (given : List Value) (named : List (String × Value)) : Except Fault Unit := do
  let packed? := match given with
    | [v] => packedText? 4 Char.toNat v
    | _ => none
  match packed? with
  | some text => checkPacked "date" text
  | none =>
    let parameters := NativeParameters.ofNames none ["year", "month", "day"] 3
    match ← parameters.take given named fun _ v => h.checkSmallInteger v with
    | [year, month, day] => checkDate (integerOr 0 year) (integerOr 0 month) (integerOr 0 day)
    | _ => return

/-! ## Moments -/

/-- The parameters of a moment. -/
def momentParameters : NativeParameters where
  function := none
  names := (["year", "month", "day", "hour", "minute", "second", "microsecond", "tzinfo",
    "fold"]).map some
  required := 3
  positional := 8

/-- Refuses a time of the day that does not exist. -/
def checkTime (hour minute second microsecond fold : Int) : Except Fault Unit := do
  let check (n largest : Int) (name : String) : Except Fault Unit :=
    if n < 0 ∨ largest < n then
      .error (valueComplaint (name ++ " must be in 0.." ++ intText largest))
    else .ok ()
  check hour 23 "hour"
  check minute 59 "minute"
  check second 59 "second"
  check microsecond 999999 "microsecond"
  if fold < 0 ∨ 1 < fold then .error (valueComplaint "fold must be either 0 or 1")

/-- Refuses arguments that give no moment. -/
def createMoment (given : List Value) (named : List (String × Value)) : Except Fault Unit := do
  let packed? := match given with
    | [v] | [v, _] => packedText? 10 (fun c => c.toNat % 128) v
    | _ => none
  match packed? with
  | some text =>
    checkPacked "datetime" text
    if (given[1]?).any fun zone => !zone.isNull then
      .error (typeComplaint "bad tzinfo state arg")
  | none =>
    let taken ← momentParameters.take given named fun place v =>
      if place = 7 then .ok () else h.checkSmallInteger v
    match taken with
    | [year, month, day, hour, minute, second, microsecond, zone, fold] =>
      checkDate (integerOr 0 year) (integerOr 0 month) (integerOr 0 day)
      checkTime (integerOr 0 hour) (integerOr 0 minute) (integerOr 0 second)
        (integerOr 0 microsecond) (integerOr 0 fold)
      match zone with
      | some zone =>
        if ¬zone.isNull then
          .error (typeComplaint
            ("tzinfo argument must be None or of a tzinfo subclass, not type '" ++
              zone.kind h ++ "'"))
      | none => return
    | _ => return

/-! ## Durations -/

/-- The parts of a duration in the order in which they are given. -/
def durationNames : List String :=
  ["days", "seconds", "microseconds", "milliseconds", "minutes", "hours", "weeks"]

/-- The parts of a duration in the order in which they are added up, with their places among the
arguments and their lengths in microseconds. -/
def durationUnits : List (String × Nat × Nat) :=
  [("microseconds", 2, 1), ("milliseconds", 3, 1000), ("seconds", 1, 1000000),
    ("minutes", 4, 60000000), ("hours", 5, 3600000000), ("days", 0, 86400000000),
    ("weeks", 6, 604800000000)]

/-- The length of a part of a duration, as a quotient. -/
def partOf (name : String) (unit : Nat) (v : Value) : Except Fault (Int × Nat) :=
  match v.content? with
  | some (.float .nan) => .error (valueComplaint "cannot convert float NaN to integer")
  | some (.float x) =>
    match x.toQuotient? with
    | some (num, den) => .ok (num * (unit : Int), den)
    | none => .error (overflowComplaint "cannot convert float infinity to integer")
  | content =>
    match content.bind Json.integer? with
    | some n => .ok (n * (unit : Int), 1)
    | none => .error (typeComplaint
        ("unsupported type for timedelta " ++ name ++ " component: " ++ v.kind h))

/-- The sum of two quotients. -/
def addQuotients (x y : Int × Nat) : Int × Nat :=
  (x.1 * (y.2 : Int) + y.1 * (x.2 : Int), x.2 * y.2)

/-- A quotient rounded to the nearest integer. -/
def roundedQuotient (x : Int × Nat) : Int :=
  let n : Int := roundQuotient x.1.natAbs x.2
  if x.1 < 0 then -n else n

/-- Refuses a number of days that a duration cannot have. -/
def checkDays (days : Int) : Except Fault Unit := do
  if days < -(Nat.pow 2 31 : Int) ∨ (Nat.pow 2 31 : Int) ≤ days then
    .error (overflowComplaint "Python int too large to convert to C int")
  if days < -999999999 ∨ 999999999 < days then
    .error (overflowComplaint ("days=" ++ intText days ++ "; must have magnitude <= 999999999"))

/-- Refuses arguments that give no duration. -/
def createDuration (given : List Value) (named : List (String × Value)) : Except Fault Unit := do
  let parameters := NativeParameters.ofNames (some "__new__") durationNames 0
  let taken ← parameters.take given named acceptAny
  let total ← durationUnits.foldlM (fun sum (name, place, unit) => do
    match taken[place]?.getD none with
    | some v => return addQuotients sum (← h.partOf name unit v)
    | none => return sum) ((0, 1) : Int × Nat)
  checkDays (roundedQuotient total / 86400000000)

end Hierarchy

end UtilityClass
