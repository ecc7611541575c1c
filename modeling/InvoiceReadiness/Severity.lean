/-!
# Severities

Every check says how grave its findings are. The severity decides by when a
finding has to be settled, and what it costs in scores.
-/

namespace InvoiceReadiness

/-- How grave a finding is. -/
inductive Severity where
  | critical | high | medium | low
  deriving DecidableEq

def Severity.name : Severity → String
  | critical => "Critical"
  | high => "High"
  | medium => "Medium"
  | low => "Low"

/-- The severities from the gravest down. -/
def Severity.all : List Severity := [critical, high, medium, low]

def Severity.ofName? (name : String) : Option Severity :=
  all.find? fun severity => severity.name == name

/-- The hours in which a finding has to be settled. -/
def Severity.hours : Severity → Nat
  | critical => 4
  | high => 24
  | medium => 72
  | low => 168

/-- The weight of a finding in the risk of a run. -/
def Severity.riskWeight : Severity → Nat
  | critical => 10
  | high => 6
  | medium => 3
  | low => 1

/-- The points that a finding takes from a score of one hundred. -/
def Severity.penalty : Severity → Nat
  | critical => 25
  | high => 15
  | medium => 8
  | low => 3

end InvoiceReadiness
