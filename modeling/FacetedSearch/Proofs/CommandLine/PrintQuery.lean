import FacetedSearch.CommandLine.Report
import FacetedSearch.Proofs.Session.Composition

/-!
# Printing the expression, and searching for it

Whether only the expression is asked for has no part in how the other arguments are taken: the flag
takes no value and is never a value itself.  So a line of arguments has one set of options with the
flag and one without, and what is printed with the flag is the expression that the session of the
same line has without it, whatever the engine answers.  The session trims the text that a bookmark
brings, which a query does when it is compiled.
-/

namespace FacetedSearch

/-- A query may be opened at a bookmark with its text untrimmed. -/
theorem Query.compile_opened (query : Query) (bookmark : Bookmark) :
    (query.opened bookmark).compile =
      compile ⟨bookmark.freeText, query.filters, .ofTable bookmark.facets⟩ := by
  unfold opened compile base
  rw [Text.filled?_trimmed]

namespace CommandLine

/-! ## Arguments with the flag and without -/

/-- How the expression alone is asked for. -/
def printFlag : String :=
  "--print-query"

/-- The options with the expression alone asked for, or not. -/
def Options.printing (options : Options) (asked : Bool) : Options :=
  { options with printQuery := asked }

@[simp]
theorem read_printFlag : Argument.read printFlag = .long "print-query" none := by
  decide +kernel

@[simp]
theorem looksLikeOption_printFlag : looksLikeOption printFlag = true := by
  decide +kernel

/-- The flag is written in one way only. -/
theorem eq_printFlag_of_read {argument : String}
    (reading : Argument.read argument = .long "print-query" none) : argument = printFlag := by
  unfold Argument.read at reading
  split at reading
  next => cases reading
  next rest _ written =>
    split at reading
    next => exact absurd (Argument.long.inj reading).2 nofun
    next =>
      have name := (Argument.long.inj reading).1
      have letters : rest = "print-query".toList := by
        rw [← name, String.toList_ofList]
      apply String.toList_injective
      rw [written, letters]
      rfl
  next => cases reading
  next => cases reading

theorem Options.set?_printing (options : Options) (asked : Bool) (setting : Setting)
    (value : String) : (options.printing asked).set? setting value =
      (options.set? setting value).map (·.printing asked) := by
  cases setting with
  | query | text | facet | state =>
      simp only [set?, printing, Option.map_map]
      rfl
  | page =>
      cases reading : readWord? value.toList with
      | none => simp [set?, reading]
      | some page =>
          cases taking : setOnce options.page page <;>
            simp [set?, reading, taking, printing]

section

variable {options next : Options} {argument name value : String} {setting : Setting}
  {rest : List String}

theorem Options.set?_printing_of_eq_some (set : options.set? setting value = some next)
    (asked : Bool) : (options.printing asked).set? setting value = some (next.printing asked) := by
  rw [Options.set?_printing, set]
  rfl

theorem readArguments_printFlag (free : options.printQuery = false) :
    readArguments options (printFlag :: rest) = readArguments (options.printing true) rest := by
  conv => lhs; unfold readArguments
  simp only [read_printFlag, free, Bool.false_eq_true, if_false]
  rfl

theorem readArguments_attached (reading : Argument.read argument = .long name (some value))
    (known : settingNames.lookup name = some setting)
    (taken : options.set? setting value = some next) :
    readArguments options (argument :: rest) = readArguments next rest := by
  conv => lhs; unfold readArguments
  simp only [reading, known, taken]

theorem readArguments_separate (reading : Argument.read argument = .long name none)
    (known : settingNames.lookup name = some setting) (plain : looksLikeOption value = false)
    (taken : options.set? setting value = some next) :
    readArguments options (argument :: value :: rest) = readArguments next rest := by
  have notHelp : name ≠ "help" := by
    rintro rfl
    cases known
  have notFlag : name ≠ "print-query" := by
    rintro rfl
    cases known
  conv => lhs; unfold readArguments
  rw [reading]
  split
  next same => exact absurd (Argument.long.inj same).1 notHelp
  next same => cases same
  next same => exact absurd (Argument.long.inj same).1 notFlag
  next same =>
    obtain ⟨rfl, rfl⟩ := Argument.long.inj same
    simp only [known, plain, taken, Bool.false_eq_true, if_false]
  next same => cases same
  next other _ => exact absurd rfl (other name none)

theorem readArguments_end (reading : Argument.read argument = .endOfOptions) :
    readArguments options [argument] = .run options := by
  unfold readArguments
  simp only [reading, List.isEmpty_nil, if_true]

theorem ne_printFlag_of_read {reading : Argument} (taken : Argument.read argument = reading)
    (other : reading ≠ .long "print-query" none) : argument ≠ printFlag := by
  rintro rfl
  exact other (taken.symm.trans read_printFlag)

theorem ne_printFlag_of_plain (plain : looksLikeOption value = false) : value ≠ printFlag := by
  rintro rfl
  cases plain.symm.trans looksLikeOption_printFlag

def withoutFlag (arguments : List String) : List String :=
  arguments.filter (· != printFlag)

@[simp]
theorem withoutFlag_cons_printFlag : withoutFlag (printFlag :: rest) = withoutFlag rest :=
  List.filter_cons_of_neg (by simp)

theorem withoutFlag_cons (other : argument ≠ printFlag) :
    withoutFlag (argument :: rest) = argument :: withoutFlag rest :=
  List.filter_cons_of_pos (by simpa using other)

/-- Whether only the expression is asked for has no part in how the other arguments are taken. -/
theorem readArguments_withoutFlag {arguments : List String} {outcome : Options}
    (taken : readArguments options arguments = .run outcome) (asked : Bool) :
    readArguments (options.printing asked) (withoutFlag arguments) =
      .run (outcome.printing asked) := by
  fun_induction readArguments options arguments with
  | case1 options =>
      obtain rfl := Invocation.run.inj taken
      rfl
  | case5 options argument rest reading free inductionHypothesis =>
      -- The flag itself, after which the options agree again.
      rw [eq_printFlag_of_read reading, withoutFlag_cons_printFlag]
      exact inductionHypothesis taken
  | case6 options argument name setting value rest known next set _ _ reading
      inductionHypothesis =>
      -- A value behind an equals sign, whatever it is, makes another argument than the flag.
      have other : argument ≠ printFlag := ne_printFlag_of_read reading nofun
      have setPrinting := Options.set?_printing_of_eq_some set asked
      rw [withoutFlag_cons other, readArguments_attached reading known setPrinting]
      exact inductionHypothesis taken
  | case9 options argument name setting value rest known plain next set _ notFlag reading
      inductionHypothesis =>
      -- A value of its own cannot be the flag, which looks like an option.
      rw [Bool.not_eq_true] at plain
      have other : argument ≠ printFlag :=
        ne_printFlag_of_read reading fun same => notFlag (Argument.long.inj same).1 rfl
      have setPrinting := Options.set?_printing_of_eq_some set asked
      rw [withoutFlag_cons other, withoutFlag_cons (ne_printFlag_of_plain plain),
        readArguments_separate reading known plain setPrinting]
      exact inductionHypothesis taken
  | case12 options argument rest reading last =>
      obtain rfl := Invocation.run.inj taken
      obtain rfl := List.isEmpty_iff.mp last
      rw [withoutFlag_cons (ne_printFlag_of_read reading nofun)]
      exact readArguments_end reading
  | case2 | case3 | case4 | case7 | case8 | case10 | case11 | case13 | case14 => cases taken

end

/-! ## One query -/

/-- The query that is printed is the one that the session searches for. -/
theorem expression_session (options : Options) (registry : Registry) (settings : Settings)
    (world : Surroundings) (bookmark : Bookmark) :
    (options.session registry settings world bookmark).expression =
      (options.searchQuery registry world.now.date bookmark).compile := by
  unfold Options.session
  rw [Session.restoreWithForm_eq, Session.expression_restore, Query.compile_opened]
  rfl

/-- With the flag the expression is printed that the session of the same line has without it, on the
same day and whatever the engine answers; a token that is not taken is refused either way. -/
theorem run_printing_agrees {arguments : List String} {options : Options}
    (taken : read arguments = .run options) (registry : Registry) (settings : Settings)
    (printing searching : Surroundings) (sameDay : printing.now.date = searching.now.date) :
    let flagged := options.printing true
    let plain := options.printing false
    read (printFlag :: withoutFlag arguments) = .run flagged ∧
      read (withoutFlag arguments) = .run plain ∧
      match options.bookmark with
      | .error _ =>
          flagged.run registry settings printing = ⟨1, "", some "Error: invalid --state"⟩ ∧
            plain.run registry settings searching = ⟨1, "", some "Error: invalid --state"⟩
      | .ok bookmark =>
          let session := plain.session registry settings searching bookmark
          flagged.run registry settings printing = ⟨0, joinLines [session.expression.text], none⟩ ∧
            plain.run registry settings searching =
              ⟨0, joinLines (sessionLines session), none⟩ := by
  intro flagged plain
  have others (asked : Bool) := readArguments_withoutFlag taken asked
  refine ⟨(readArguments_printFlag rfl).trans (others true), others false, ?_⟩
  have sameFlagged : flagged.bookmark = options.bookmark := rfl
  have samePlain : plain.bookmark = options.bookmark := rfl
  cases opened : options.bookmark with
  | error fault =>
      unfold Options.run
      rw [sameFlagged, samePlain, opened]
      exact ⟨rfl, rfl⟩
  | ok bookmark =>
      have text := expression_session plain registry settings searching bookmark
      unfold Options.run
      rw [sameFlagged, samePlain, opened]
      refine ⟨?_, rfl⟩
      rw [text, ← sameDay]
      rfl

/-- Arguments with the flag between values that are untrimmed, given twice, and empty. -/
def printingLine : List String :=
  ["--query= multa", "--text", "tributo act=x", "--text=Tributo ACT = IRPF ", "--print-query",
    "--facet=situacao_s=Aberto", "--facet", "situacao_s=Aberto", "--facet=grupo_processo_s=",
    "--page=9"]

/-- The expression is printed where no search can be made, and the session has it on the last of its
pages. -/
theorem run_printing_agrees_printingLine :
    let options : Options :=
      ⟨some " multa", [("tributo act", "x"), ("Tributo ACT", " IRPF ")],
        [("situacao_s", "Aberto"), ("situacao_s", "Aberto"), ("grupo_processo_s", "")], some 9,
        none, true⟩
    let bookmark : Bookmark :=
      ⟨" multa", ⟨[("situacao_s", ["Aberto", "Aberto"]), ("grupo_processo_s", [""])], by decide⟩, 9⟩
    let text :=
      "multa tributo_act_s:*IRPF* AND ((situacao_s:\"Aberto\") AND (grupo_processo_s:\"\"))"
    let silent := Surroundings.still .epoch fun _ => none
    let searching := Surroundings.still .epoch Session.unevenEngine
    let session := (options.printing false).session .default .default searching bookmark
    read printingLine = .run options ∧
      read (withoutFlag printingLine) = .run (options.printing false) ∧
      options.run .default .default silent = ⟨0, joinLines [text], none⟩ ∧
      session.expression.text = text ∧ session.paging = ⟨2, 10, 25⟩ := by
  intro options bookmark text silent searching session
  have taken : read printingLine = .run options := by decide +kernel
  have opened : options.bookmark = .ok bookmark := by decide +kernel
  have flagged : options.printing true = options := rfl
  have searched : ((options.printing false).session .default .default searching
      bookmark).expression.text = text := by decide +kernel
  obtain ⟨-, plain, agrees⟩ := run_printing_agrees taken .default .default silent searching rfl
  rw [opened] at agrees
  obtain ⟨printed, -⟩ := agrees
  rw [searched, flagged] at printed
  exact ⟨taken, plain, printed, by decide +kernel, by decide +kernel⟩

end CommandLine

end FacetedSearch
