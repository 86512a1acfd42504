import OrderDesk.Log
import OrderDesk.Text.Integer

/-!
# Log thresholds

A threshold lets the records of the log through up to a level, or none of them. It is written
as the name of the level, in any case, or as a number.
-/

namespace OrderDesk

open OrderDesk.Text

/-- The levels that are let through: those up to the given one, or none at all. -/
abbrev LogThreshold : Type := Option LogLevel

namespace LogThreshold

/-- A record of the level is let through. -/
def admits (threshold : LogThreshold) (level : LogLevel) : Bool :=
  match threshold with
  | none => false
  | some most => level.rank ≤ most.rank

/-- All thresholds, from the one that lets nothing through on. A number stands for the
one at its place. -/
def all : List LogThreshold :=
  [none, some .error, some .warn, some .info, some .debug, some .trace]

/-- The name of a threshold. -/
def name : LogThreshold → String
  | none => "OFF"
  | some level => level.name

/-- The number that stands for a threshold, perhaps behind a plus. -/
def number? : List Char → Option Nat
  | '+' :: cs => decimalNat? cs
  | cs => decimalNat? cs

/-- Reads a threshold: its number, or its name in any case. -/
def ofChars? (cs : List Char) : Option LogThreshold :=
  match number? cs with
  | some n => all[n]?
  | none => all.find? fun threshold => threshold.name.toList == cs.map Char.toUpper

end LogThreshold

end OrderDesk
