/-
Calendar intervals: so many years, months, days, hours, minutes and seconds.

The six components are kept apart, since a month has no fixed length, and none of them is ever
negative. A component is a 32-bit number: sums stop at the largest one, and a difference that would
go below zero is refused.
-/

namespace Metamodel

/-- The components of an interval, from the longest to the shortest. -/
inductive Component where
  | years
  | months
  | days
  | hours
  | minutes
  | seconds
deriving DecidableEq, Inhabited

namespace Component

def all : List Component := [years, months, days, hours, minutes, seconds]

def name : Component → String
  | years => "years"
  | months => "months"
  | days => "days"
  | hours => "hours"
  | minutes => "minutes"
  | seconds => "seconds"

/-- The component as a written interval names it. -/
def label : Component → String
  | years => "YEARS"
  | months => "MONTHS"
  | days => "DAYS"
  | hours => "HOURS"
  | minutes => "MINUTES"
  | seconds => "SECONDS"

theorem mem_all (component : Component) : component ∈ all := by cases component <;> decide

end Component

/-- The largest amount of a component. -/
def Interval.limit : Nat := 2147483647

structure Interval where
  amount : Component → Nat
  bounded : ∀ component, amount component ≤ Interval.limit

inductive IntervalError where
  /-- A component would be below zero. -/
  | negative (component : Component) (value : Int)
  /-- Moving a timestamp by the interval leaves the range of timestamps. -/
  | outOfRange (interval : Interval)

namespace Interval

theorem ext {first second : Interval} (same : ∀ component, first.amount component =
    second.amount component) : first = second := by
  cases first; cases second
  congr
  exact funext same

instance : DecidableEq Interval := fun first second =>
  decidable_of_iff (∀ component ∈ Component.all, first.amount component = second.amount component)
    ⟨fun same => ext fun component => same component (Component.mem_all component),
      fun same _ _ => same ▸ rfl⟩

def zero : Interval := ⟨fun _ => 0, fun _ => Nat.zero_le _⟩

instance : Inhabited Interval := ⟨zero⟩

/-- The interval with the given amounts; the first negative one is reported. -/
def make (amounts : Component → Int32) : Except IntervalError Interval :=
  match Component.all.find? (fun component => amounts component < 0) with
  | some component => .error (.negative component (amounts component).toInt)
  | none => .ok {
      amount := fun component => (amounts component).toInt.toNat
      bounded := fun component => by
        have below := Int32.toInt_lt (amounts component)
        unfold limit
        omega }

/-- The sum, component by component; one that would pass the limit stays at it. -/
def add (first second : Interval) : Interval where
  amount component := min (first.amount component + second.amount component) limit
  bounded _ := Nat.min_le_right _ _

/-- The amount of a component in the word that the host computes with. -/
def word (interval : Interval) (component : Component) : Int32 :=
  Int32.ofNat (interval.amount component)

/-- The difference, component by component; the first one below zero is reported. -/
def subtract (first second : Interval) : Except IntervalError Interval :=
  make fun component => first.word component - second.word component

/-- The components that are not zero, and the seconds in any case. -/
def display (interval : Interval) : String :=
  let part := fun component => toString (interval.amount component) ++ " " ++ component.label
  let shown := (Component.all.filter fun component =>
    component = .seconds ∨ interval.amount component ≠ 0)
  String.intercalate " " (shown.map part)

end Interval

def IntervalError.message : IntervalError → String
  | negative component value => "Invalid negative " ++ component.name ++ ": " ++ toString value
  | outOfRange interval =>
    "Timestamp out of range after applying interval " ++ interval.display

end Metamodel
