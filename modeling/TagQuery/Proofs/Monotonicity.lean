import TagQuery.Proofs.Recognition
import TagQuery.Proofs.Tags

namespace TagQuery

open TagQuery.Symbol (Kind)
open Grammar

theorem Operator.Joins.monotone {operator : Operator} {join : Bool → Bool → Bool}
    (joins : operator.Joins join) {left right other another : Bool}
    (first : left = true → other = true) (second : right = true → another = true)
    (joined : join left right = true) : join other another = true := by
  cases joins with
  | and =>
      obtain ⟨here, there⟩ := Bool.and_eq_true_iff.mp joined
      exact Bool.and_eq_true_iff.mpr ⟨first here, second there⟩
  | or =>
      apply Bool.or_eq_true_iff.mpr
      exact (Bool.or_eq_true_iff.mp joined).imp first second

namespace Grammar

section MoreFound

variable {text other : Text} {whole : List Kind}

/-- A row of symbols without negation has a value about the other text too, which is true if the
first one is. -/
theorem Derives.of_more_found (positive : .operator .not ∉ whole)
    (found : ∀ literal, .literal literal ∈ whole → literal <:+: text → literal <:+: other)
    {category : Category} {kinds : List Kind} {value : Bool}
    (derivation : Derives text category kinds value) (part : kinds ⊆ whole) :
    ∃ more, Derives other category kinds more ∧ (value = true → more = true) := by
  induction derivation with
  | @literal literal value spelled =>
      refine ⟨literal.occurs other, .literal Text.occurs_iff, ?_⟩
      intro shown
      apply Text.occurs_iff.mpr
      exact found literal (part (List.mem_singleton_self _)) (spelled.mp shown)
  | group inner ih =>
      have within := (List.append_subset.mp (List.cons_subset.mp part).2).1
      obtain ⟨more, phrase, kept⟩ := ih within
      exact ⟨more, .group phrase, kept⟩
  | single operand ih =>
      obtain ⟨more, operand, kept⟩ := ih part
      exact ⟨more, .single operand, kept⟩
  | joined joins operand phrase first second =>
      obtain ⟨before, behind⟩ := List.append_subset.mp part
      obtain ⟨left, operand, kept⟩ := first before
      obtain ⟨right, phrase, kept'⟩ := second (List.cons_subset.mp behind).2
      exact ⟨_, .joined joins operand phrase, joins.monotone kept kept'⟩
  | negated phrase ih => exact absurd (part (List.mem_cons_self ..)) positive

end MoreFound

end Grammar

namespace Text

theorem braced_prefix_more (first : Text) (others more : List Text) :
    braced (['}', ',', '{'].intercalate (first :: others)) <+:
      braced (['}', ',', '{'].intercalate (first :: (others ++ more))) := by
  induction others generalizing first with
  | nil =>
      cases more with
      | nil => exact List.prefix_rfl
      | cons second more =>
          rw [List.nil_append, braced_intercalate_cons_cons, List.intercalate_singleton]
          exact List.prefix_append ..
  | cons second others ih =>
      rw [List.cons_append, braced_intercalate_cons_cons, braced_intercalate_cons_cons]
      apply (List.prefix_append_right_inj _).mpr
      apply (List.prefix_append_right_inj _).mpr
      exact ih second

end Text

namespace Item

def tagged (item : Item) (more : List Text) : Item := { item with tags := item.tags ++ more }

theorem searchedText_prefix_tagged {item : Item} (some_tag : item.tags ≠ []) (more : List Text) :
    item.searchedText <+: (item.tagged more).searchedText := by
  obtain ⟨name, tags⟩ := item
  cases tags with
  | nil => exact absurd rfl some_tag
  | cons first others =>
      apply (List.prefix_append_right_inj _).mpr
      exact Text.braced_prefix_more first others more

end Item

namespace Query

theorem verdict_of_more_found {query text other : Text} (positive : .operator .not ∉ kinds query)
    (found : ∀ literal, .literal literal ∈ kinds query → literal <:+: text → literal <:+: other)
    (shown : verdict query text = .value true) : verdict query other = .value true := by
  by_cases scanned : query = everything
  · subst scanned
    rfl
  · have phrase := (verdict_value_iff scanned text true).mp shown
    obtain ⟨more, derived, kept⟩ := phrase.of_more_found positive found (List.Subset.refl _)
    rw [kept rfl] at derived
    exact (verdict_value_iff scanned other true).mpr derived

/-- A query without negation that is true of a text is true of every text with the same literals of
the query and perhaps more, and what it says of an item with a tag it says of that item with further
tags. -/
theorem monotone_without_negation {query : Text} (positive : .operator .not ∉ kinds query) :
    (∀ text other,
      (∀ literal, .literal literal ∈ kinds query → literal <:+: text → literal <:+: other) →
        verdict query text = .value true → verdict query other = .value true) ∧
      ∀ (item : Item) (more : List Text), item.tags ≠ [] → item.satisfies query = true →
        (item.tagged more).satisfies query = true := by
  constructor
  · intro text other found shown
    exact verdict_of_more_found positive found shown
  · intro item more some_tag selected
    have shown : verdict query item.searchedText = .value true := of_decide_eq_true selected
    have kept : item.searchedText <:+: (item.tagged more).searchedText :=
      (Item.searchedText_prefix_tagged some_tag more).isInfix
    apply decide_eq_true
    apply verdict_of_more_found positive ?_ shown
    intro literal _ infix_here
    exact infix_here.trans kept

theorem monotone_at_added_tags :
    let query := "({sans} or {mono}) And {ui}".toList
    let item : Item := ⟨"Iosevka".toList, ["mono".toList, "ui".toList]⟩
    let more := ["sans".toList, "ui".toList, "sans".toList]
    .operator .not ∉ kinds query ∧ item.tags ≠ [] ∧ item.satisfies query = true ∧
      (item.tagged more).satisfies query = true ∧
      verdict query "{ui}{mono}".toList = .value true ∧
      verdict query "{mono} {ui}".toList = .value true := by
  intro query item more
  have positive : .operator .not ∉ kinds query := by decide
  have some_tag : item.tags ≠ [] := by decide
  have selected : item.satisfies query = true := by decide +kernel
  have shown : verdict query "{ui}{mono}".toList = .value true := by decide +kernel
  have found : ∀ literal, .literal literal ∈ kinds query → literal <:+: "{ui}{mono}".toList →
      literal <:+: "{mono} {ui}".toList := by
    have all_found : (kinds query).all (fun kind => match kind with
        | .literal literal =>
          !literal.occurs "{ui}{mono}".toList || literal.occurs "{mono} {ui}".toList
        | _ => true) = true := by
      decide +kernel
    intro literal member here
    have kept : (!Text.occurs literal "{ui}{mono}".toList ||
        Text.occurs literal "{mono} {ui}".toList) = true :=
      List.all_eq_true.mp all_found _ member
    rw [Text.occurs_iff.mpr here] at kept
    exact Text.occurs_iff.mp kept
  obtain ⟨texts, items⟩ := monotone_without_negation positive
  exact ⟨positive, some_tag, selected, items item more some_tag selected, shown,
    texts _ _ found shown⟩

end Query
end TagQuery
