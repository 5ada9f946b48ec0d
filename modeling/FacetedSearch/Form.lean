import FacetedSearch.Filter

/-!
The filter form: inputs as they stand on the screen, before they are applied.

The form of a registry has one blank row for each of its text and date fields, and a value range.
Setting a row that is not there adds it at the end.  `Form.collect` makes the filters of the rows
that hold anything, text rows first, then dates, then the value range.
-/

namespace FacetedSearch

structure TextRow where
  label : String
  value : String
  operator : Operator
deriving DecidableEq

structure DateRow where
  label : String
  lower : String
  upper : String
deriving DecidableEq

structure ValueRow where
  lower : String
  upper : String
deriving DecidableEq

def TextRow.blank (label : String) : TextRow :=
  ⟨label, "", .contains⟩

def DateRow.blank (label : String) : DateRow :=
  ⟨label, "", ""⟩

def ValueRow.blank : ValueRow :=
  ⟨"", ""⟩

structure Form where
  texts : List TextRow
  dates : List DateRow
  values : ValueRow
deriving DecidableEq

/-- Changes the first row with a label, or changes a blank row and appends it. -/
def editRow {Row : Type} (labelOf : Row → String) (blank : String → Row) (label : String)
    (edit : Row → Row) : List Row → List Row
  | [] => [edit (blank label)]
  | row :: rest =>
      if labelOf row = label then edit row :: rest
      else row :: editRow labelOf blank label edit rest

namespace Form

def empty : Form :=
  ⟨[], [], .blank⟩

/-- One blank row for each text and date field of a registry. -/
def ofRegistry (registry : Registry) : Form :=
  ⟨(registry.ofKind .text).map fun field => .blank field.label,
    (registry.ofKind .date).map fun field => .blank field.label,
    .blank⟩

def editText (form : Form) (label : String) (edit : TextRow → TextRow) : Form :=
  { form with texts := editRow TextRow.label .blank label edit form.texts }

def setText (form : Form) (label value : String) (operator : Operator) : Form :=
  form.editText label fun row => { row with value, operator }

/-- The operator of the text row with a label; a row that is not there has the first operator. -/
def operatorOf (form : Form) (label : String) : Operator :=
  match form.texts.find? fun row => row.label == label with
  | some row => row.operator
  | none => .contains

/-- Moves the operator of a text row on by one. -/
def cycleOperator (form : Form) (label : String) : Form :=
  form.editText label fun row => { row with operator := row.operator.next }

def setDates (form : Form) (label lower upper : String) : Form :=
  { form with
    dates := editRow DateRow.label .blank label (fun row => { row with lower, upper }) form.dates }

def setValues (form : Form) (lower upper : String) : Form :=
  { form with values := ⟨lower, upper⟩ }

/-- Empties every row and puts every operator back; the rows stay. -/
def reset (form : Form) : Form :=
  ⟨form.texts.map fun row => .blank row.label, form.dates.map fun row => .blank row.label, .blank⟩

def textFilter? (registry : Registry) (row : TextRow) : Option Filter :=
  Filter.ofText? registry row.label row.value row.operator

def dateFilter? (registry : Registry) (today : Calendar.Date) (row : DateRow) : Option Filter :=
  Filter.ofDates? registry row.label (some row.lower) (some row.upper) today

def collect (form : Form) (registry : Registry) (today : Calendar.Date) : List Filter :=
  form.texts.filterMap (textFilter? registry) ++
    form.dates.filterMap (dateFilter? registry today) ++
    (Filter.ofValues? registry (some form.values.lower) (some form.values.upper)).toList

end Form

/-- One change to the form. -/
inductive FormEdit where
  | setText (label value : String) (operator : Operator)
  | cycleOperator (label : String)
  | setDates (label lower upper : String)
  | setValues (lower upper : String)
  | reset
deriving DecidableEq

def Form.apply (form : Form) : FormEdit → Form
  | .setText label value operator => form.setText label value operator
  | .cycleOperator label => form.cycleOperator label
  | .setDates label lower upper => form.setDates label lower upper
  | .setValues lower upper => form.setValues lower upper
  | .reset => form.reset

end FacetedSearch
