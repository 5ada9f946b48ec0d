import FacetedSearch.Engine.Answer
import Mathlib.Logic.Relation

/-!
# Stored values as one line

Joining lines is associative, and an empty line adds nothing.  So a list is the join of the texts of
its leaves, however deep they lie, and it stays the same when items are grouped in another way or
when items without any text come or go.
-/

namespace FacetedSearch

/-! ## Joining -/

/-- Two lines with a comma and a space between them, unless one of them is empty. -/
def joinTwo (first second : String) : String :=
  if first.isEmpty then second
  else if second.isEmpty then first
  else first ++ ", " ++ second

@[simp]
theorem joinTwo_empty (first : String) : joinTwo first "" = first := by
  unfold joinTwo
  split
  next empty => exact (String.isEmpty_iff.mp empty).symm
  next => rfl

@[simp]
theorem empty_joinTwo (second : String) : joinTwo "" second = second :=
  rfl

theorem joinTwo_assoc (first second third : String) :
    joinTwo (joinTwo first second) third = joinTwo first (joinTwo second third) := by
  by_cases firstEmpty : first.isEmpty
  · rw [String.isEmpty_iff.mp firstEmpty, empty_joinTwo, empty_joinTwo]
  · by_cases secondEmpty : second.isEmpty
    · rw [String.isEmpty_iff.mp secondEmpty, joinTwo_empty, empty_joinTwo]
    · by_cases thirdEmpty : third.isEmpty
      · rw [String.isEmpty_iff.mp thirdEmpty, joinTwo_empty, joinTwo_empty]
      · simp [joinTwo, firstEmpty, secondEmpty, thirdEmpty, String.append_assoc]

@[simp]
theorem joinFilled_nil : joinFilled [] = "" := by
  simp [joinFilled]

/-- A join is empty only where there is nothing to join. -/
theorem isEmpty_intercalate {text : String} (filled : text.isEmpty = false) (texts : List String) :
    (", ".intercalate (text :: texts)).isEmpty = false := by
  cases texts with
  | nil => rwa [String.intercalate_singleton]
  | cons next texts =>
      simp [String.intercalate_cons_cons]

@[simp]
theorem joinFilled_cons (text : String) (texts : List String) :
    joinFilled (text :: texts) = joinTwo text (joinFilled texts) := by
  unfold joinFilled
  cases empty : text.isEmpty with
  | true =>
      rw [String.isEmpty_iff.mp empty, empty_joinTwo]
      rfl
  | false =>
      rw [List.filter_cons_of_pos (by simp [empty])]
      cases kept : texts.filter fun text => !text.isEmpty with
      | nil => rw [String.intercalate_singleton, String.intercalate_nil, joinTwo_empty]
      | cons next rest =>
          -- What is kept behind the text is filled, so the join of the rest is not empty.
          have nextFilled : next.isEmpty = false := by
            have membership : next ∈ texts.filter fun text => !text.isEmpty :=
              kept ▸ List.mem_cons_self
            simpa using (List.mem_filter.mp membership).2
          rw [String.intercalate_cons_cons, joinTwo, empty, isEmpty_intercalate nextFilled]
          rfl

@[simp]
theorem joinFilled_singleton (text : String) : joinFilled [text] = text := by
  rw [joinFilled_cons, joinFilled_nil, joinTwo_empty]

@[simp]
theorem joinFilled_append (first second : List String) :
    joinFilled (first ++ second) = joinTwo (joinFilled first) (joinFilled second) := by
  induction first with
  | nil => rw [List.nil_append, joinFilled_nil, empty_joinTwo]
  | cons text first inductionHypothesis =>
      rw [List.cons_append, joinFilled_cons, joinFilled_cons, inductionHypothesis, joinTwo_assoc]

/-! ## Leaves -/

mutual

/-- The values that are no lists within a value, from left to right. -/
def JsonValue.leaves : JsonValue → List JsonValue
  | .array items => leavesOf items
  | value => [value]

/-- The leaves of the items of a list. -/
def leavesOf : List JsonValue → List JsonValue
  | [] => []
  | item :: items => item.leaves ++ leavesOf items

end

/-- The text of a leaf. -/
def JsonValue.leafText : JsonValue → String
  | .null => ""
  | .string text => text
  | value => value.text

/-- The join of the texts of the leaves of several items. -/
def joinLeaves (items : List JsonValue) : String :=
  joinFilled ((leavesOf items).map (·.leafText))

@[simp]
theorem leavesOf_append (first second : List JsonValue) :
    leavesOf (first ++ second) = leavesOf first ++ leavesOf second := by
  induction first with
  | nil => rfl
  | cons item first inductionHypothesis =>
      rw [List.cons_append, leavesOf, leavesOf, inductionHypothesis, List.append_assoc]

@[simp]
theorem joinLeaves_append (first second : List JsonValue) :
    joinLeaves (first ++ second) = joinTwo (joinLeaves first) (joinLeaves second) := by
  unfold joinLeaves
  rw [leavesOf_append, List.map_append, joinFilled_append]

@[simp]
theorem joinLeaves_array_cons (inside after : List JsonValue) :
    joinLeaves (.array inside :: after) = joinTwo (joinLeaves inside) (joinLeaves after) := by
  rw [← joinLeaves_append]
  unfold joinLeaves
  rw [leavesOf, JsonValue.leaves, leavesOf_append]

mutual

theorem JsonValue.flatten_eq (value : JsonValue) :
    value.flatten = joinFilled (value.leaves.map (·.leafText)) := by
  cases value with
  | array items => exact joinFilled_flattenItems items
  | _ => exact (joinFilled_singleton _).symm

@[simp]
theorem joinFilled_flattenItems (items : List JsonValue) :
    joinFilled (flattenItems items) = joinLeaves items := by
  cases items with
  | nil => rfl
  | cons item items =>
      unfold joinLeaves
      rw [flattenItems, joinFilled_cons, item.flatten_eq, joinFilled_flattenItems items, leavesOf,
        List.map_append, joinFilled_append]
      rfl

end

@[simp]
theorem flatten_array (items : List JsonValue) :
    (JsonValue.array items).flatten = joinLeaves items :=
  joinFilled_flattenItems items

/-! ## Regrouping -/

/-- An item without any text. -/
def JsonValue.IsVacant (item : JsonValue) : Prop :=
  item = .null ∨ item = .string "" ∨ item = .array []

/-- One step of grouping: neighbours become a list of their own, an item without any text comes in,
or a step is made within an item. -/
inductive Regroups : List JsonValue → List JsonValue → Prop
  | nest (before inside after) :
      Regroups (before ++ (inside ++ after)) (before ++ .array inside :: after)
  | fill (before after) {item : JsonValue} : item.IsVacant →
      Regroups (before ++ after) (before ++ item :: after)
  | within (before after) {items regrouped} : Regroups items regrouped →
      Regroups (before ++ .array items :: after) (before ++ .array regrouped :: after)

theorem JsonValue.IsVacant.joinLeaves_cons {item : JsonValue} (vacant : item.IsVacant)
    (items : List JsonValue) : joinLeaves (item :: items) = joinLeaves items := by
  rcases vacant with rfl | rfl | rfl
  · exact joinFilled_cons "" _
  · exact joinFilled_cons "" _
  · exact joinLeaves_array_cons [] items

theorem Regroups.joinLeaves {items regrouped : List JsonValue} (step : Regroups items regrouped) :
    joinLeaves items = joinLeaves regrouped := by
  induction step with
  | nest before inside after =>
      rw [joinLeaves_append, joinLeaves_append, joinLeaves_append, joinLeaves_array_cons]
  | fill before after vacant =>
      rw [joinLeaves_append, joinLeaves_append, vacant.joinLeaves_cons]
  | within before after _ inductionHypothesis =>
      rw [joinLeaves_append, joinLeaves_append, joinLeaves_array_cons, joinLeaves_array_cons,
        inductionHypothesis]

/-- Any number of steps in either direction leaves the line as it is. -/
theorem flatten_of_regroups {items regrouped : List JsonValue}
    (steps : Relation.EqvGen Regroups items regrouped) :
    (JsonValue.array items).flatten = (JsonValue.array regrouped).flatten := by
  rw [flatten_array, flatten_array]
  induction steps with
  | rel _ _ step => exact step.joinLeaves
  | refl _ => rfl
  | symm _ _ _ inductionHypothesis => exact inductionHypothesis.symm
  | trans _ _ _ _ _ firstHypothesis secondHypothesis =>
      exact firstHypothesis.trans secondHypothesis

end FacetedSearch
