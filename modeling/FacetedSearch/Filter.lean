import FacetedSearch.Calendar.DateText
import FacetedSearch.Filter.Criterion
import FacetedSearch.Query.Escape
import FacetedSearch.Registry.Default

/-!
Filters as they are applied: what a removable tag shows, and the criterion behind it.

A filter is made from one input.  An input that holds nothing but blanks makes no filter; anything
else is passed on as it was typed, for the engine to judge.  A filter whose label has no field in
the registry is still shown but asks nothing of the engine.
-/

namespace FacetedSearch

structure Filter where
  label : String
  display : String
  operator : Option Operator
  kind : FieldKind
  criterion : Option Criterion
deriving DecidableEq

namespace Filter

/-- The clause of a filter, if it asks anything of the engine. -/
def fragment? (filter : Filter) : Option String :=
  filter.criterion.map (·.fragment)

def operatorLabel? (filter : Filter) : Option String :=
  filter.operator.map (·.label)

/-- Whether a filter is shown without asking anything of the engine. -/
def isDisplayOnly (filter : Filter) : Bool :=
  filter.criterion.isNone

def ofText? (registry : Registry) (label value : String) (operator : Operator) :
    Option Filter := do
  let value ← Text.filled? value
  let label := normalizeLabel label
  return {
    label
    display := value
    operator := some operator
    kind := .text
    criterion := (registry.text? label).map fun field =>
      .text ⟨field.engineField, operator, value, Query.escapeLiteral value⟩ }

/-- What is shown for a range of days; there is nothing to show without a bound. -/
def dateDisplay? : (lower upper : Option String) → Option String
  | none, none => none
  | some lower, some upper =>
      some (Calendar.displayText lower ++ " até " ++ Calendar.displayText upper)
  | some lower, none => some ("A partir de " ++ Calendar.displayText lower)
  | none, some upper => some ("Até " ++ Calendar.displayText upper)

/-- The filter of a date input on a given day. -/
def ofDates? (registry : Registry) (label : String) (lower upper : Option String)
    (today : Calendar.Date) : Option Filter := do
  let lower := lower.bind Text.filled?
  let upper := upper.bind Text.filled?
  let display ← dateDisplay? lower upper
  let label := Text.trimmed label
  return {
    label
    display
    operator := none
    kind := .date
    criterion := (registry.date? label).map fun field =>
      .dateRange ⟨field.engineField, lower, upper, today⟩ }

/-- What is shown for a range of values; there is nothing to show without a bound. -/
def valueDisplay? : (lower upper : Option String) → Option String
  | none, none => none
  | some lower, some upper => some ("R$" ++ lower ++ " até R$" ++ upper)
  | some lower, none => some ("Mínimo: R$" ++ lower)
  | none, some upper => some ("Máximo: R$" ++ upper)

/-- The filter of the value range. -/
def ofValues? (registry : Registry) (lower upper : Option String) : Option Filter := do
  let lower := lower.bind Text.filled?
  let upper := upper.bind Text.filled?
  let display ← valueDisplay? lower upper
  return {
    label := valueLabel
    display
    operator := none
    kind := .numeric
    criterion := registry.value?.map fun field =>
      .numericRange ⟨field.engineField, lower, upper⟩ }

end Filter

/-! ## The applied filters -/

structure FilterSet where
  filters : List Filter
deriving DecidableEq

namespace FilterSet

def empty : FilterSet :=
  ⟨[]⟩

/-- Appends filters; those already there keep their places. -/
def add (set : FilterSet) (filters : List Filter) : FilterSet :=
  ⟨set.filters ++ filters⟩

def at? (set : FilterSet) (position : Nat) : Option Filter :=
  set.filters[position]?

/-- The set without the filter at a position; later ones move up. -/
def removeAt (set : FilterSet) (position : Nat) : FilterSet :=
  ⟨set.filters.eraseIdx position⟩

/-- The clauses of the filters that have one, in order. -/
def fragments (set : FilterSet) : List String :=
  set.filters.filterMap (·.fragment?)

end FilterSet

end FacetedSearch
