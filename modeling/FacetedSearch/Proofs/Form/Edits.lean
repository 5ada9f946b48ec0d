import FacetedSearch.Proofs.Form.LabelledRows
import FacetedSearch.Proofs.Form.Rows
import FacetedSearch.Proofs.Registry
import FacetedSearch.Proofs.Selection.Replacing
import Mathlib.Data.List.DropRight
import Mathlib.Logic.Function.Iterate

/-!
# What edits leave in a form

Rows are found by their labels, which are never repeated, and a row is added at the end for a label
that has none.  So a form is settled by the history of its edits: each row holds what was put into
it last since the form was emptied, with its operator moved on as often as asked for later.
-/

namespace FacetedSearch

/-- The rows of a form, by their labels. -/
inductive FormRow where
  | text (label : String)
  | date (label : String)
  | values
deriving DecidableEq

namespace FormRow

def textLabel? : FormRow → Option String
  | text label => some label
  | _ => none

def dateLabel? : FormRow → Option String
  | date label => some label
  | _ => none

end FormRow

namespace FormEdit

/-- The row that an edit is about, which is none when the form is emptied. -/
def row? : FormEdit → Option FormRow
  | setText label _ _ => some (.text label)
  | cycleOperator label => some (.text label)
  | setDates label _ _ => some (.date label)
  | setValues _ _ => some .values
  | reset => none

/-- The value and the operator that an edit puts into the text row of a label. -/
def textFor? (label : String) : FormEdit → Option (String × Operator)
  | setText named value operator => if named = label then some (value, operator) else none
  | _ => none

/-- The bounds that an edit puts into the date row of a label. -/
def datesFor? (label : String) : FormEdit → Option (String × String)
  | setDates named lower upper => if named = label then some (lower, upper) else none
  | _ => none

/-- The bounds that an edit puts into the value range. -/
def values? : FormEdit → Option ValueRow
  | setValues lower upper => some ⟨lower, upper⟩
  | _ => none

end FormEdit

open FormEdit

/-! ## What the history says -/

/-- What the edits since the form was last emptied gave last. -/
def lastGiven? {Given : Type} (given? : FormEdit → Option Given) (edits : List FormEdit) :
    Option Given :=
  (edits.rtakeWhile (· ≠ reset)).reverse.findSome? given?

/-- How often the operator of a text row was moved on since the row was set or the form emptied. -/
def turns (label : String) (edits : List FormEdit) : Nat :=
  (edits.rtakeWhile fun edit => edit ≠ reset ∧ textFor? label edit = none).count
    (cycleOperator label)

/-- The text row that edits leave for a label. -/
def textRow (edits : List FormEdit) (label : String) : TextRow :=
  let given := (lastGiven? (textFor? label) edits).getD ("", .contains)
  ⟨label, given.1, Operator.next^[turns label edits] given.2⟩

/-- The date row that edits leave for a label. -/
def dateRow (edits : List FormEdit) (label : String) : DateRow :=
  let given := (lastGiven? (datesFor? label) edits).getD ("", "")
  ⟨label, given.1, given.2⟩

/-- The value range that edits leave. -/
def valueRow (edits : List FormEdit) : ValueRow :=
  (lastGiven? values? edits).getD .blank

/-- Labels with those that are used besides, in the order of their first use. -/
def labelsAfter (labels used : List String) : List String :=
  labels ++ used.eraseDups.filter fun label => label ∉ labels

/-! ## One more edit -/

theorem lastGiven?_append_singleton {Given : Type} (given? : FormEdit → Option Given)
    (edits : List FormEdit) (edit : FormEdit) :
    lastGiven? given? (edits ++ [edit]) =
      if edit = reset then none else (given? edit).or (lastGiven? given? edits) := by
  unfold lastGiven?
  rw [List.rtakeWhile_concat]
  by_cases emptied : edit = reset
  · simp only [emptied, ne_eq, not_true_eq_false, decide_false, Bool.false_eq_true, if_false,
      if_true, List.reverse_nil, List.findSome?_nil]
  · simp only [emptied, ne_eq, not_false_eq_true, decide_true, if_true, if_false,
      List.reverse_append, List.reverse_singleton, List.singleton_append, List.findSome?_cons]
    cases given? edit <;> rfl

theorem turns_append_singleton (label : String) (edits : List FormEdit) (edit : FormEdit) :
    turns label (edits ++ [edit]) =
      if edit ≠ reset ∧ textFor? label edit = none then
        turns label edits + [edit].count (cycleOperator label)
      else 0 := by
  unfold turns
  rw [List.rtakeWhile_concat]
  by_cases counts : edit ≠ reset ∧ textFor? label edit = none
  · rw [if_pos (decide_eq_true counts), if_pos counts, List.count_append]
  · rw [if_neg (by simpa using counts), if_neg counts, List.count_nil]

/-- What an edit makes of the text row that it is about. -/
def FormEdit.changeText : FormEdit → TextRow → TextRow
  | setText _ value operator, row => { row with value, operator }
  | cycleOperator _, row => { row with operator := row.operator.next }
  | _, row => row

theorem textRow_append_singleton (edits : List FormEdit) (edit : FormEdit) (label : String) :
    textRow (edits ++ [edit]) label =
      match edit.row? with
      | none => .blank label
      | some row =>
          if row.textLabel? = some label then edit.changeText (textRow edits label)
          else textRow edits label := by
  unfold textRow
  rw [lastGiven?_append_singleton, turns_append_singleton]
  cases edit with
  | setText named value operator =>
      by_cases same : named = label <;>
        simp [same, textFor?, row?, FormRow.textLabel?, changeText]
  | cycleOperator named =>
      by_cases same : named = label <;>
        simp [same, textFor?, row?, FormRow.textLabel?, changeText, Function.iterate_succ_apply']
  | setDates => simp [textFor?, row?, FormRow.textLabel?]
  | setValues => simp [textFor?, row?, FormRow.textLabel?]
  | reset => simp [row?, TextRow.blank]

/-- What an edit makes of the date row that it is about. -/
def FormEdit.changeDates : FormEdit → DateRow → DateRow
  | setDates _ lower upper, row => { row with lower, upper }
  | _, row => row

theorem dateRow_append_singleton (edits : List FormEdit) (edit : FormEdit) (label : String) :
    dateRow (edits ++ [edit]) label =
      match edit.row? with
      | none => .blank label
      | some row =>
          if row.dateLabel? = some label then edit.changeDates (dateRow edits label)
          else dateRow edits label := by
  unfold dateRow
  rw [lastGiven?_append_singleton]
  cases edit with
  | setDates named lower upper =>
      by_cases same : named = label <;>
        simp [same, datesFor?, row?, FormRow.dateLabel?, changeDates]
  | setText => simp [datesFor?, row?, FormRow.dateLabel?]
  | cycleOperator => simp [datesFor?, row?, FormRow.dateLabel?]
  | setValues => simp [datesFor?, row?, FormRow.dateLabel?]
  | reset => simp [row?, DateRow.blank]

@[simp]
theorem valueRow_append_singleton (edits : List FormEdit) (edit : FormEdit) :
    valueRow (edits ++ [edit]) =
      if edit = reset then .blank else (values? edit).getD (valueRow edits) := by
  unfold valueRow
  rw [lastGiven?_append_singleton]
  split
  next => rfl
  next => cases values? edit <;> rfl

@[simp]
theorem mem_labelsAfter {label : String} {labels used : List String} :
    label ∈ labelsAfter labels used ↔ label ∈ labels ∨ label ∈ used := by
  by_cases known : label ∈ labels <;>
    simp [labelsAfter, known]

@[simp]
theorem labelsAfter_append_singleton (labels used : List String) (label : String) :
    labelsAfter labels (used ++ [label]) = withLabel (labelsAfter labels used) label := by
  unfold withLabel
  simp only [mem_labelsAfter]
  unfold labelsAfter
  rw [eraseDups_append_singleton]
  by_cases again : label ∈ used
  · simp [again]
  · by_cases known : label ∈ labels <;> simp [again, known, List.filter_append]

namespace Form

variable {edit : FormEdit}

/-- The form after some edits. -/
def run (form : Form) (edits : List FormEdit) : Form :=
  edits.foldl apply form

/-- Changes the date row with a label. -/
def editDates (form : Form) (label : String) (edit : DateRow → DateRow) : Form :=
  { form with dates := editRow DateRow.label .blank label edit form.dates }

/-- Whether a form has a row. -/
def HasRow (form : Form) : FormRow → Prop
  | .text label => label ∈ form.textLabels
  | .date label => label ∈ form.dateLabels
  | .values => True

/-- Whether two forms differ at most in one row, which the second may have in addition. -/
def DiffersOnlyIn (form : Form) (row : FormRow) (after : Form) : Prop :=
  match row with
  | .text label =>
      OneRow TextRow.label label form.texts after.texts ∧ after.dates = form.dates ∧
        after.values = form.values
  | .date label =>
      after.texts = form.texts ∧ OneRow DateRow.label label form.dates after.dates ∧
        after.values = form.values
  | .values => after.texts = form.texts ∧ after.dates = form.dates

/-! ## One edit -/

@[simp]
theorem label_changeText (edit : FormEdit) (row : TextRow) :
    (edit.changeText row).label = row.label := by
  cases edit <;> rfl

@[simp]
theorem label_changeDates (edit : FormEdit) (row : DateRow) :
    (edit.changeDates row).label = row.label := by
  cases edit <;> rfl

theorem apply_of_text {label : String} (about : edit.row? = some (.text label)) (form : Form) :
    form.apply edit = form.editText label edit.changeText := by
  cases edit <;> cases about <;> rfl

theorem apply_of_date {label : String} (about : edit.row? = some (.date label)) (form : Form) :
    form.apply edit = form.editDates label edit.changeDates := by
  cases edit <;> cases about
  rfl

theorem apply_of_values (about : edit.row? = some .values) (form : Form) :
    form.apply edit = { form with values := (values? edit).getD form.values } := by
  cases edit <;> cases about
  rfl

theorem differsOnlyIn_apply {row : FormRow} (about : edit.row? = some row) (form : Form) :
    form.DiffersOnlyIn row (form.apply edit) := by
  cases row with
  | text label =>
      rw [apply_of_text about]
      exact ⟨oneRow_editRow (fun _ => rfl) label (label_changeText edit) form.texts, rfl, rfl⟩
  | date label =>
      rw [apply_of_date about]
      exact ⟨rfl, oneRow_editRow (fun _ => rfl) label (label_changeDates edit) form.dates, rfl⟩
  | values =>
      rw [apply_of_values about]
      exact ⟨rfl, rfl⟩

theorem apply_comm {form : Form} {first second : FormEdit} {row other : FormRow}
    (about : first.row? = some row) (otherAbout : second.row? = some other)
    (different : row ≠ other)
    (present : form.HasRow row) :
    (form.apply first).apply second = (form.apply second).apply first := by
  cases row with
  | text label =>
      cases other with
      | text otherLabel =>
          have apart : label ≠ otherLabel := fun same => different (congrArg FormRow.text same)
          simp only [apply_of_text about, apply_of_text otherAbout, editText]
          rw [editRow_comm (label_changeText first) (label_changeText second) apart present]
      | date => simp only [apply_of_text about, apply_of_date otherAbout]; rfl
      | values => simp only [apply_of_text about, apply_of_values otherAbout]; rfl
  | date label =>
      cases other with
      | text => simp only [apply_of_date about, apply_of_text otherAbout]; rfl
      | date otherLabel =>
          have apart : label ≠ otherLabel := fun same => different (congrArg FormRow.date same)
          simp only [apply_of_date about, apply_of_date otherAbout, editDates]
          rw [editRow_comm (label_changeDates first) (label_changeDates second) apart present]
      | values => simp only [apply_of_date about, apply_of_values otherAbout]; rfl
  | values =>
      cases other with
      | text => simp only [apply_of_values about, apply_of_text otherAbout]; rfl
      | date => simp only [apply_of_values about, apply_of_date otherAbout]; rfl
      | values => exact absurd rfl different

end Form

/-! ## All edits -/

/-- One kind of rows: where they stand in a form, which of them an edit is about and what it makes
of this one, and what a history of edits leaves for a label. -/
structure RowKind (Row : Type) where
  labelOf : Row → String
  blank : String → Row
  rows : Form → List Row
  label? : FormRow → Option String
  change : FormEdit → Row → Row
  content : List FormEdit → String → Row
  labelOf_blank : ∀ label, labelOf (blank label) = label
  labelOf_change : ∀ edit row, labelOf (change edit row) = labelOf row
  rows_apply : ∀ (form : Form) (edit : FormEdit), rows (form.apply edit) =
    match edit.row? with
    | none => (rows form).map fun row => blank (labelOf row)
    | some row =>
        match label? row with
        | none => rows form
        | some label => editRow labelOf blank label (change edit) (rows form)
  content_nil : content [] = blank
  content_append_singleton : ∀ (edits : List FormEdit) (edit : FormEdit) (label : String),
    content (edits ++ [edit]) label =
      match edit.row? with
      | none => blank label
      | some row =>
          if label? row = some label then change edit (content edits label)
          else content edits label

def textRows : RowKind TextRow where
  labelOf := TextRow.label
  blank := .blank
  rows := Form.texts
  label? := FormRow.textLabel?
  change := changeText
  content := textRow
  labelOf_blank _ := rfl
  labelOf_change := Form.label_changeText
  rows_apply _ edit := by cases edit <;> rfl
  content_nil := rfl
  content_append_singleton := textRow_append_singleton

def dateRows : RowKind DateRow where
  labelOf := DateRow.label
  blank := .blank
  rows := Form.dates
  label? := FormRow.dateLabel?
  change := changeDates
  content := dateRow
  labelOf_blank _ := rfl
  labelOf_change := Form.label_changeDates
  rows_apply _ edit := by cases edit <;> rfl
  content_nil := rfl
  content_append_singleton := dateRow_append_singleton

namespace Form

@[simp]
theorem run_append_singleton (form : Form) (edits : List FormEdit) (edit : FormEdit) :
    form.run (edits ++ [edit]) = (form.run edits).apply edit := by
  rw [run, List.foldl_append]
  rfl

end Form

namespace RowKind

variable {Row : Type} (kind : RowKind Row)

def labels (form : Form) : List String :=
  (kind.rows form).map kind.labelOf

/-- The labels of the rows that edits are about. -/
def used (edits : List FormEdit) : List String :=
  edits.filterMap fun edit => edit.row?.bind kind.label?

theorem rowsByLabel_run {start : Form}
    (blank : kind.rows start = (kind.labels start).map kind.blank)
    (distinct : (kind.labels start).Nodup) (edits : List FormEdit) :
    RowsByLabel kind.labelOf kind.blank (labelsAfter (kind.labels start) (kind.used edits))
      (kind.content edits) (kind.rows (start.run edits)) := by
  induction edits using List.reverseRecOn with
  | nil =>
      have unused : labelsAfter (kind.labels start) (kind.used []) = kind.labels start :=
        List.append_nil _
      rw [unused, kind.content_nil]
      exact ⟨blank, distinct, kind.labelOf_blank, fun _ _ => rfl⟩
  | append_singleton edits edit inductionHypothesis =>
      have content := funext (kind.content_append_singleton edits edit)
      have used : kind.used (edits ++ [edit]) =
          kind.used edits ++ (edit.row?.bind kind.label?).toList := by
        unfold RowKind.used
        rw [List.filterMap_append]
        cases named : edit.row?.bind kind.label? <;> simp [named]
      rw [Form.run_append_singleton, kind.rows_apply, content, used]
      -- The last edit empties the form, or is about a row of another kind, or of this one.
      cases edit.row? with
      | none =>
          rw [Option.bind_none, Option.toList_none, List.append_nil]
          exact inductionHypothesis.emptied kind.labelOf_blank
      | some row =>
          rw [Option.bind_some]
          cases named : kind.label? row with
          | none =>
              rw [Option.toList_none, List.append_nil]
              simpa [named] using inductionHypothesis
          | some label =>
              rw [Option.toList_some, labelsAfter_append_singleton]
              simpa [named] using inductionHypothesis.edited label (kind.labelOf_change edit)

/-- What a form is after some edits, as far as one kind of rows goes: no label is repeated, the new
labels are behind those of the start in the order of their first use, and each row has the content
that the edits leave for its label. -/
structure IsSettledBy (start : Form) (edits : List FormEdit) (form : Form) : Prop where
  distinct : (kind.labels form).Nodup
  labels_eq : kind.labels form = labelsAfter (kind.labels start) (kind.used edits)
  rows_eq : kind.rows form = (kind.labels form).map (kind.content edits)

theorem isSettledBy_run {start : Form}
    (blank : kind.rows start = (kind.labels start).map kind.blank)
    (distinct : (kind.labels start).Nodup) (edits : List FormEdit) :
    kind.IsSettledBy start edits (start.run edits) := by
  have known := kind.rowsByLabel_run blank distinct edits
  have labels : kind.labels (start.run edits) =
      labelsAfter (kind.labels start) (kind.used edits) := known.map_labelOf
  refine ⟨?_, labels, ?_⟩
  · rw [labels]
    exact known.distinct
  · rw [labels]
    exact known.rows_eq

end RowKind

namespace Form

theorem values_run {start : Form} (blank : start.values = .blank) (edits : List FormEdit) :
    (start.run edits).values = valueRow edits := by
  induction edits using List.reverseRecOn with
  | nil => exact blank
  | append_singleton edits edit inductionHypothesis =>
      rw [run_append_singleton, valueRow_append_singleton, ← inductionHypothesis]
      cases edit <;> rfl

theorem IsBlank.texts_eq {start : Form} (blank : start.IsBlank) :
    start.texts = start.textLabels.map .blank := by
  rw [textLabels, List.map_map]
  exact (List.map_id _).symm.trans (List.map_congr_left blank.texts)

theorem IsBlank.dates_eq {start : Form} (blank : start.IsBlank) :
    start.dates = start.dateLabels.map .blank := by
  rw [dateLabels, List.map_map]
  exact (List.map_id _).symm.trans (List.map_congr_left blank.dates)

/-- The rows of a form after some edits.  The rows of the registry come first, one for each label of
their kind in the order of the registry; new labels follow, and each row holds what the history
says.  Each edit changes one row or adds it, two edits of different rows commute where the first row
is there, and emptying the form leaves the labels and nothing to collect. -/
theorem rows_eq_of_history (fields : List Field) (facets : List Facet) {start : Form}
    (starts : start = .empty ∨ start = ofRegistry (.of fields facets)) (edits : List FormEdit) :
    let registry := Registry.of fields facets
    let form := start.run edits
    (∀ kind, (registry.ofKind kind).map (·.label) =
      ((fields.filter fun field => field.kind = kind).map (·.label)).eraseDups) ∧
    (ofRegistry registry).textLabels = (registry.ofKind .text).map (·.label) ∧
    (ofRegistry registry).dateLabels = (registry.ofKind .date).map (·.label) ∧
    empty.textLabels = [] ∧ empty.dateLabels = [] ∧
    textRows.IsSettledBy start edits form ∧ dateRows.IsSettledBy start edits form ∧
    form.values = valueRow edits ∧
    (∀ edit row, edit.row? = some row → form.DiffersOnlyIn row (form.apply edit)) ∧
    (∀ first second row other, first.row? = some row → second.row? = some other → row ≠ other →
      form.HasRow row →
      (form.apply first).apply second = (form.apply second).apply first) ∧
    (form.apply .reset).textLabels = form.textLabels ∧
    (form.apply .reset).dateLabels = form.dateLabels ∧
    ∀ registry today, (form.apply .reset).collect registry today = [] := by
  intro registry form
  have initial : start.IsBlank ∧ start.textLabels.Nodup ∧ start.dateLabels.Nodup := by
    rcases starts with rfl | rfl
    · refine ⟨⟨?_, ?_, rfl⟩, List.nodup_nil, List.nodup_nil⟩ <;>
        exact fun row membership => absurd membership List.not_mem_nil
    · rw [textLabels_ofRegistry, dateLabels_ofRegistry]
      exact ⟨isBlank_ofRegistry _, Registry.nodup_labels_ofKind fields facets .text,
        Registry.nodup_labels_ofKind fields facets .date⟩
  obtain ⟨blank, distinctTexts, distinctDates⟩ := initial
  exact ⟨Registry.labels_ofKind_of fields facets, textLabels_ofRegistry registry,
    dateLabels_ofRegistry registry, rfl, rfl,
    textRows.isSettledBy_run blank.texts_eq distinctTexts edits,
    dateRows.isSettledBy_run blank.dates_eq distinctDates edits, values_run blank.values edits,
    fun edit row about => differsOnlyIn_apply about form,
    fun first second row other about otherAbout different present =>
      apply_comm about otherAbout different present,
    textLabels_reset form, dateLabels_reset form,
    fun registry today => (isBlank_reset form).collect registry today⟩

/-- Text and date labels in turn, of which one of each kind is repeated and one is of both kinds. -/
def repeatedFields : List Field :=
  [⟨"Nome", "nome_s", .text⟩, ⟨"Prazo", "prazo_tdt", .date⟩, ⟨"Valor", "valor_d", .numeric⟩,
    ⟨"Assunto", "assunto_s", .text⟩, ⟨"Nome", "outro_s", .text⟩, ⟨"Data", "data_tdt", .date⟩,
    ⟨"Prazo", "outro_tdt", .date⟩, ⟨"Data", "data_s", .text⟩]

/-- Edits of known and of new rows, before and after the form is emptied. -/
def mixedEdits : List FormEdit :=
  [.setText "Obs" "x" .equals, .cycleOperator "Nome", .setDates "Data" "2024-01-01" "",
    .setValues "1" "", .reset, .setText "Nome" "a" .equals, .cycleOperator "Obs",
    .setText "Nome" "ACT" .notContains, .cycleOperator "Zona", .cycleOperator "Nome",
    .setDates "Entrada" "" "2024-05-31", .setDates "Prazo" "2024-02-01" ""]

theorem rows_eq_of_history_mixedEdits :
    let start := ofRegistry (.of repeatedFields [])
    let form := start.run mixedEdits
    (start = .empty ∨ start = ofRegistry (.of repeatedFields [])) ∧
    start.textLabels = ["Nome", "Assunto", "Data"] ∧ start.dateLabels = ["Prazo", "Data"] ∧
    form.texts = [⟨"Nome", "ACT", .equals⟩, ⟨"Assunto", "", .contains⟩, ⟨"Data", "", .contains⟩,
      ⟨"Obs", "", .notContains⟩, ⟨"Zona", "", .notContains⟩] ∧
    form.dates = [⟨"Prazo", "2024-02-01", ""⟩, ⟨"Data", "", ""⟩, ⟨"Entrada", "", "2024-05-31"⟩] ∧
    form.values = .blank ∧
    (FormEdit.cycleOperator "Obs").row? = some (.text "Obs") ∧
    (FormEdit.setText "Novo" "y" .contains).row? = some (.text "Novo") ∧
    form.HasRow (.text "Obs") ∧
    form.DiffersOnlyIn (.text "Novo") (form.setText "Novo" "y" .contains) ∧
    (form.cycleOperator "Obs").setText "Novo" "y" .contains =
      (form.setText "Novo" "y" .contains).cycleOperator "Obs" := by
  intro start form
  have starts : start = .empty ∨ start = ofRegistry (.of repeatedFields []) := .inr rfl
  obtain ⟨labels, textLabels, dateLabels, -, -, texts, dates, values, single, commute, -⟩ :=
    rows_eq_of_history repeatedFields [] starts mixedEdits
  have present : form.HasRow (.text "Obs") := by
    change "Obs" ∈ textRows.labels form
    rw [texts.labels_eq]
    decide +kernel
  refine ⟨starts, ?_, ?_, ?_, ?_, ?_, rfl, rfl, present,
    single (.setText "Novo" "y" .contains) _ rfl,
    commute (.cycleOperator "Obs") (.setText "Novo" "y" .contains) _ _ rfl rfl (by decide) present⟩
  · exact (textLabels.trans (labels .text)).trans (by decide +kernel)
  · exact (dateLabels.trans (labels .date)).trans (by decide +kernel)
  · refine texts.rows_eq.trans ?_
    rw [texts.labels_eq]
    decide +kernel
  · refine dates.rows_eq.trans ?_
    rw [dates.labels_eq]
    decide +kernel
  · exact values.trans (by decide +kernel)

end Form

end FacetedSearch
