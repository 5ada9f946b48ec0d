import FacetedSearch.Text.Lowercase
import Mathlib.Data.List.Basic

/-!
# Lower-casing within a longer text

Only a capital sigma looks at its neighbours, and on each side only at the first character that is
not passed over.  So a part of a text is lower-cased as it would be on its own, unless it opens or
closes with a sigma whose neighbour lies outside of the part.
-/

namespace FacetedSearch.Text

variable {before after otherBefore otherAfter text : List Char} {c : Char}

/-! ## Neighbours -/

/-- Whether the first character that is not passed over carries case, if there is one. -/
def neighbour? (text : List Char) : Option Bool :=
  (text.dropWhile isCaseIgnorable).head?.map isCased

@[simp]
theorem neighbour?_cons (c : Char) (text : List Char) :
    neighbour? (c :: text) = if isCaseIgnorable c then neighbour? text else some (isCased c) := by
  unfold neighbour?
  rw [List.dropWhile_cons]
  split <;> rfl

@[simp]
theorem neighbour?_append (first second : List Char) :
    neighbour? (first ++ second) = (neighbour? first).or (neighbour? second) := by
  induction first with
  | nil => rfl
  | cons c rest inductionHypothesis =>
      rw [List.cons_append, neighbour?_cons, neighbour?_cons, inductionHypothesis]
      split <;> simp

theorem meetsCased_eq_true_iff (text : List Char) :
    meetsCased text = true ↔ neighbour? text = some true := by
  unfold meetsCased neighbour?
  cases text.dropWhile isCaseIgnorable <;> simp

@[simp]
theorem meetsCased_append (first second : List Char) :
    meetsCased (first ++ second) = ((neighbour? first).getD (meetsCased second)) := by
  rw [Bool.eq_iff_iff, meetsCased_eq_true_iff, neighbour?_append]
  cases neighbour? first with
  | none => simp [meetsCased_eq_true_iff]
  | some cased => simp

theorem meetsCased_of_neighbour? {cased : Bool} (found : neighbour? text = some cased) :
    meetsCased text = cased := by
  rw [Bool.eq_iff_iff, meetsCased_eq_true_iff, found, Option.some.injEq]

theorem meetsCased_of_neighbour?_eq_none (passed : neighbour? text = none) :
    meetsCased text = false := by
  rw [← Bool.not_eq_true, meetsCased_eq_true_iff, passed]
  simp

theorem neighbour?_cons_of_isCased (cased : isCased c = true) (solid : isCaseIgnorable c = false)
    (text : List Char) : neighbour? (c :: text) = some true := by
  simp [solid, cased]

@[simp]
theorem neighbour?_sigma_cons (text : List Char) : neighbour? ('Σ' :: text) = some true :=
  neighbour?_cons_of_isCased (by decide +kernel) (by decide +kernel) text

/-- The characters before the first one that is not passed over hold no sigma. -/
theorem sigma_notMem_of_neighbour?_eq_none (passed : neighbour? text = none) : 'Σ' ∉ text := by
  intro present
  obtain ⟨first, second, rfl⟩ := List.append_of_mem present
  rw [neighbour?_append, neighbour?_sigma_cons] at passed
  cases found : neighbour? first <;> simp [found] at passed

/-! ## Parts -/

/-- The lower-case form of a capital sigma between the text before it, nearest first, and after it.
-/
def sigmaBetween (before after : List Char) : Char :=
  if meetsCased before && !meetsCased after then 'ς' else 'σ'

@[simp]
theorem lowerAt_sigma (before after : List Char) :
    lowerAt before 'Σ' after = [sigmaBetween before after] := by
  unfold lowerAt sigmaBetween
  rw [if_pos rfl]
  split <;> rfl

theorem lowerAt_of_ne (other : c ≠ 'Σ') (before after : List Char) :
    lowerAt before c after = lowerAt [] c [] := by
  unfold lowerAt
  rw [if_neg other, if_neg other]

/-- The lower-case form of a part between the text before it, nearest first, and after it. -/
def lowerBetween : (before part after : List Char) → List Char
  | _, [], _ => []
  | before, c :: part, after =>
      lowerAt before c (part ++ after) ++ lowerBetween (c :: before) part after

theorem lowerAfter_eq (before text : List Char) :
    lowerAfter before text = lowerBetween before text [] := by
  induction text generalizing before with
  | nil => rfl
  | cons c text inductionHypothesis =>
      simp [lowerAfter, lowerBetween, inductionHypothesis]

theorem lower_eq (text : List Char) : lower text = lowerBetween [] text [] :=
  lowerAfter_eq [] text

theorem lowerBetween_append (before first second after : List Char) :
    lowerBetween before (first ++ second) after =
      lowerBetween before first (second ++ after) ++
        lowerBetween (first.reverse ++ before) second after := by
  induction first generalizing before with
  | nil => rfl
  | cons c first inductionHypothesis =>
      simp [lowerBetween, inductionHypothesis]

/-- The text around a part matters only for the forms of its sigmas. -/
theorem lowerBetween_congr
    (same : ∀ first second, text = first ++ 'Σ' :: second →
      sigmaBetween (first.reverse ++ before) (second ++ after) =
        sigmaBetween (first.reverse ++ otherBefore) (second ++ otherAfter)) :
    lowerBetween before text after = lowerBetween otherBefore text otherAfter := by
  induction text generalizing before otherBefore with
  | nil => rfl
  | cons c rest inductionHypothesis =>
      have head :
          lowerAt before c (rest ++ after) = lowerAt otherBefore c (rest ++ otherAfter) := by
        by_cases sigma : c = 'Σ'
        · subst sigma
          rw [lowerAt_sigma, lowerAt_sigma]
          exact congrArg (fun form => [form]) (same [] rest rfl)
        · rw [lowerAt_of_ne sigma, lowerAt_of_ne sigma otherBefore]
      have tail := inductionHypothesis fun first second split => by
        simpa using same (c :: first) second (congrArg (c :: ·) split)
      simp only [lowerBetween, head, tail]

theorem lowerBetween_of_notMem (absent : 'Σ' ∉ text) :
    lowerBetween before text after = lowerBetween otherBefore text otherAfter := by
  apply lowerBetween_congr
  rintro first second rfl
  simp at absent

/-- The nearest neighbours outside of a part are all that counts. -/
theorem lowerBetween_of_neighbours (sameBefore : neighbour? before = neighbour? otherBefore)
    (sameAfter : neighbour? after = neighbour? otherAfter) :
    lowerBetween before text after = lowerBetween otherBefore text otherAfter := by
  apply lowerBetween_congr
  intro first second _
  have samePreceding : meetsCased (first.reverse ++ before) =
      meetsCased (first.reverse ++ otherBefore) := by
    rw [Bool.eq_iff_iff, meetsCased_eq_true_iff, meetsCased_eq_true_iff, neighbour?_append,
      neighbour?_append, sameBefore]
  have sameFollowing : meetsCased (second ++ after) = meetsCased (second ++ otherAfter) := by
    rw [Bool.eq_iff_iff, meetsCased_eq_true_iff, meetsCased_eq_true_iff, neighbour?_append,
      neighbour?_append, sameAfter]
  unfold sigmaBetween
  rw [samePreceding, sameFollowing]

/-- What stands on one side of a sigma does not reach what stands on the other. -/
theorem lowerBetween_sigma (before first second after : List Char) :
    lowerBetween before (first ++ 'Σ' :: second) after =
      lowerBetween before first ['Σ'] ++
        sigmaBetween (first.reverse ++ before) (second ++ after) ::
          lowerBetween ['Σ'] second after := by
  have firstPart : lowerBetween before first ('Σ' :: second ++ after) =
      lowerBetween before first ['Σ'] := by
    apply lowerBetween_of_neighbours rfl
    rw [List.cons_append, neighbour?_sigma_cons, neighbour?_sigma_cons]
  have secondPart : lowerBetween ('Σ' :: (first.reverse ++ before)) second after =
      lowerBetween ['Σ'] second after := by
    apply lowerBetween_of_neighbours _ rfl
    rw [neighbour?_sigma_cons, neighbour?_sigma_cons]
  rw [lowerBetween_append, firstPart, lowerBetween, lowerAt_sigma, secondPart]
  rfl

/-! ## Open ends -/

/-- A text whose first sigma has no neighbour before it, so that a letter in front of the text
would make it final. -/
def OpensWithSigma (text : List Char) : Prop :=
  ∃ first second, text = first ++ 'Σ' :: second ∧
    neighbour? first.reverse = none ∧ neighbour? second ≠ some true

/-- A text whose last sigma is final for want of a neighbour after it. -/
def ClosesWithSigma (text : List Char) : Prop :=
  ∃ first second, text = first ++ 'Σ' :: second ∧
    neighbour? first.reverse = some true ∧ neighbour? second = none

/-- A part is lower-cased as it is on its own, unless a letter stands at an open end of it. -/
theorem lowerBetween_eq_lower (opens : OpensWithSigma text → meetsCased before = false)
    (closes : ClosesWithSigma text → meetsCased after = false) :
    lowerBetween before text after = lower text := by
  rw [lower_eq]
  apply lowerBetween_congr
  intro first second split
  have nothing : meetsCased [] = false := rfl
  unfold sigmaBetween
  rw [meetsCased_append, meetsCased_append, meetsCased_append, meetsCased_append, nothing]
  -- Where a neighbour lies within the part it decides, and what is around the part does not count.
  cases preceding : neighbour? first.reverse with
  | none =>
      by_cases cased : neighbour? second = some true
      · simp [cased]
      · have plain := opens ⟨first, second, split, preceding, cased⟩
        simp [plain]
  | some casedBefore =>
      cases casedBefore with
      | false => simp
      | true =>
          cases following : neighbour? second with
          | none =>
              have plain := closes ⟨first, second, split, preceding, following⟩
              simp [plain]
          | some casedAfter => simp

/-! ## A letter at an open end -/

@[simp]
theorem neighbour?_letter (text : List Char) : neighbour? ('A' :: text) = some true :=
  neighbour?_cons_of_isCased (by decide +kernel) (by decide +kernel) text

theorem not_infix_of_count_lt {part : List Char} (fewer : text.count c < part.count c) :
    ¬part <:+: text := by
  intro inside
  exact absurd (inside.sublist.count_le c) (Nat.not_le.mpr fewer)

@[simp]
theorem lowerAt_letter (before after : List Char) : lowerAt before 'A' after = ['a'] := by
  rw [lowerAt_of_ne (by decide)]
  decide +kernel

theorem not_lower_infix_letter_cons (opens : OpensWithSigma text) :
    ¬lower text <:+: lower ('A' :: text) := by
  obtain ⟨first, second, rfl, preceding, following⟩ := opens
  have plain : meetsCased second = false := by
    rwa [← Bool.not_eq_true, meetsCased_eq_true_iff]
  have unmoved : lowerBetween ['A'] first ['Σ'] = lowerBetween [] first ['Σ'] :=
    lowerBetween_of_notMem (by simpa using sigma_notMem_of_neighbour?_eq_none preceding)
  have medial : sigmaBetween first.reverse second = 'σ' := by
    simp [sigmaBetween, meetsCased_of_neighbour?_eq_none preceding]
  have final : sigmaBetween (first.reverse ++ ['A']) second = 'ς' := by
    simp [sigmaBetween, preceding, plain,
      meetsCased_of_neighbour? (neighbour?_letter [])]
  have behind : lower ('A' :: (first ++ 'Σ' :: second)) =
      'a' :: lowerBetween ['A'] (first ++ 'Σ' :: second) [] := by
    rw [lower_eq, lowerBetween, lowerAt_letter]
    rfl
  -- The sigma at the open end becomes final, so the longer text has one `σ` less.
  apply not_infix_of_count_lt (c := 'σ')
  rw [behind, lower_eq, lowerBetween_sigma, lowerBetween_sigma]
  simp only [List.append_nil, unmoved, medial, final]
  simp

theorem not_lower_infix_append_letter (closes : ClosesWithSigma text) :
    ¬lower text <:+: lower (text ++ ['A']) := by
  obtain ⟨first, second, rfl, preceding, following⟩ := closes
  have unmoved : lowerBetween ['Σ'] second ['A'] = lowerBetween ['Σ'] second [] :=
    lowerBetween_of_notMem (sigma_notMem_of_neighbour?_eq_none following)
  have final : sigmaBetween first.reverse second = 'ς' := by
    simp [sigmaBetween, meetsCased_of_neighbour? preceding,
      meetsCased_of_neighbour?_eq_none following]
  have medial : sigmaBetween first.reverse (second ++ ['A']) = 'σ' := by
    simp [sigmaBetween, following, meetsCased_of_neighbour? (neighbour?_letter [])]
  have front : lower (first ++ 'Σ' :: second ++ ['A']) =
      lowerBetween [] (first ++ 'Σ' :: second) ['A'] ++ ['a'] := by
    rw [lower_eq, lowerBetween_append, lowerBetween, lowerAt_letter]
    rfl
  -- The final sigma comes to stand within a word, so the longer text has one `ς` less.
  apply not_infix_of_count_lt (c := 'ς')
  rw [front, lower_eq, lowerBetween_sigma, lowerBetween_sigma]
  simp only [List.append_nil, unmoved, medial, final]
  simp

end FacetedSearch.Text
