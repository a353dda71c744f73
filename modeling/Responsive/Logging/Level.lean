import Responsive.Text.Decimal

/-!
# Log levels

An event has a level, from errors down to traces. A threshold lets the events of one level and of
all graver ones through, or none at all.

A threshold is written as a name in any case or as a number from 0, which lets nothing through, to
5, which lets everything through. The empty text stands for errors.
-/

set_option autoImplicit false
set_option relaxedAutoImplicit false

namespace Responsive.Logging

/-- How grave an event is, the gravest first. -/
inductive Level
  | error
  | warn
  | info
  | debug
  | trace
deriving DecidableEq, Repr, Inhabited

namespace Level

/-- All levels, the gravest first. -/
def all : List Level :=
  [error, warn, info, debug, trace]

/-- The place of a level in the order, from 1. -/
def rank : Level → Nat
  | error => 1
  | warn => 2
  | info => 3
  | debug => 4
  | trace => 5

/-- The name of a level. -/
def name : Level → String
  | error => "error"
  | warn => "warn"
  | info => "info"
  | debug => "debug"
  | trace => "trace"

/-- The name of a level in capitals. -/
def label (level : Level) : String :=
  level.name.map Char.toUpper

end Level

/-- The least grave level that is let through; `none` lets nothing through. -/
abbrev Threshold := Option Level

namespace Threshold

/-- Whether events of a level pass. -/
def allows (threshold : Threshold) (level : Level) : Bool :=
  match threshold with
  | none => false
  | some least => level.rank ≤ least.rank

/-- The name of a threshold. -/
def name : Threshold → String
  | none => "off"
  | some level => level.name

/-- All thresholds, the strictest first, so that each stands at the place of its number. -/
def all : List Threshold :=
  none :: Level.all.map some

/-- Reads a number as a threshold; a plus sign may stand before it. -/
def ofNumber? (s : List Char) : Option Threshold :=
  let digits := match s with
    | '+' :: digits => digits
    | digits => digits
  (Text.readNat? digits).bind (all[·]?)

/-- Reads a threshold. -/
def ofText? (s : List Char) : Option Threshold :=
  match ofNumber? s with
  | some threshold => some threshold
  | none =>
    if s.isEmpty then some (some .error)
    else all.find? fun threshold ↦ threshold.name.toList == s.map Char.toLower

/-- What is said about a text that is no threshold. -/
def refusal : String :=
  "error parsing level filter: expected one of \"off\", \"error\", \"warn\", " ++
    "\"info\", \"debug\", \"trace\", or a number 0-5"

/-- A threshold that lets a level through lets every graver level through. -/
theorem allows_of_rank_le {threshold : Threshold} {graver level : Level}
    (h : threshold.allows level = true) (hle : graver.rank ≤ level.rank) :
    threshold.allows graver = true := by
  cases threshold with
  | none => simp [allows] at h
  | some least =>
    simp only [allows, decide_eq_true_eq] at h ⊢
    omega

end Threshold

end Responsive.Logging
