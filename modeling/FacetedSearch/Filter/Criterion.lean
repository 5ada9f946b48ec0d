import FacetedSearch.Calendar.Date

/-!
Criteria: what one filter asks of the engine, and the clause that says so.

A text criterion looks for a piece of text within a field, for its absence, or for the exact value.
A range criterion has a lower and an upper bound, of which either may be open.
-/

namespace FacetedSearch

/-- How a text field is compared with a value. -/
inductive Operator where
  | contains
  | notContains
  | equals
deriving DecidableEq, Inhabited

namespace Operator

/-- All operators, in the order in which a toggle shows them. -/
def all : List Operator :=
  [.contains, .notContains, .equals]

def slug : Operator → String
  | .contains => "contem"
  | .notContains => "nao-contem"
  | .equals => "igual"

/-- The name of an operator on the screen. -/
def label : Operator → String
  | .contains => "Contém"
  | .notContains => "Não Contém"
  | .equals => "Igual"

/-- The name of an operator in stored data. -/
def name : Operator → String
  | .contains => "Contains"
  | .notContains => "NotContains"
  | .equals => "Equals"

def ofSlug? (slug : String) : Option Operator :=
  all.find? fun operator => operator.slug == slug

def ofName? (name : String) : Option Operator :=
  all.find? fun operator => operator.name == name

/-- The operator shown after one click on the toggle. -/
def next : Operator → Operator
  | .contains => .notContains
  | .notContains => .equals
  | .equals => .contains

end Operator

/-- A comparison of a text field with a value, which is kept as typed and as escaped. -/
structure TextCriterion where
  field : String
  operator : Operator
  raw : String
  escaped : String
deriving DecidableEq

/-- A range of days.  The day on which it was made closes it when there is no upper bound. -/
structure DateCriterion where
  field : String
  lower : Option String
  upper : Option String
  today : Calendar.Date
deriving DecidableEq

structure NumericCriterion where
  field : String
  lower : Option String
  upper : Option String
deriving DecidableEq

/-- What one filter asks of the engine. -/
inductive Criterion where
  | text (criterion : TextCriterion)
  | dateRange (criterion : DateCriterion)
  | numericRange (criterion : NumericCriterion)
deriving DecidableEq

/-- The bound of a range that is open on one side. -/
def openBound : String :=
  "*"

/-- What follows a day that opens a range: its first second. -/
def startOfDay : String :=
  "T00:00:00Z"

/-- What follows a day that closes a range: its last second. -/
def endOfDay : String :=
  "T23:59:59Z"

/-- The clause for a field within two bounds. -/
def rangeClause (field lower upper : String) : String :=
  field ++ ":[" ++ lower ++ " TO " ++ upper ++ "]"

def TextCriterion.fragment (criterion : TextCriterion) : String :=
  match criterion.operator with
  | .contains => criterion.field ++ ":*" ++ criterion.escaped ++ "*"
  | .notContains => "-" ++ criterion.field ++ ":*" ++ criterion.escaped ++ "*"
  | .equals => criterion.field ++ ":\"" ++ criterion.escaped ++ "\""

/-- The clause of a range of days, which is never open towards the future. -/
def DateCriterion.fragment (criterion : DateCriterion) : String :=
  rangeClause criterion.field
    (match criterion.lower with
      | some day => day ++ startOfDay
      | none => openBound)
    (criterion.upper.getD (String.ofList criterion.today.isoText) ++ endOfDay)

def NumericCriterion.fragment (criterion : NumericCriterion) : String :=
  rangeClause criterion.field (criterion.lower.getD openBound) (criterion.upper.getD openBound)

def Criterion.fragment : Criterion → String
  | .text criterion => criterion.fragment
  | .dateRange criterion => criterion.fragment
  | .numericRange criterion => criterion.fragment

def Criterion.field : Criterion → String
  | .text criterion => criterion.field
  | .dateRange criterion => criterion.field
  | .numericRange criterion => criterion.field

end FacetedSearch
