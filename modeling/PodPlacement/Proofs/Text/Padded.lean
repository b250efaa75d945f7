import Mathlib.Data.List.TakeWhile
import PodPlacement.Text.Blank
import PodPlacement.Text.Segments

/-!
# Padded and joined texts

White space around a text is taken off again, if the text itself begins and ends
with something else. Nothing but white space is ever taken off, and what is left is
empty or begins and ends with something else. Texts joined with a separator are cut
at it into the same texts, if none of them has the separator. White space around a
text with separators is white space around its segments.
-/

namespace PodPlacement.Text

/-! ## White space around a text -/

/-- A text that is not empty and has no white space at its two ends. -/
structure IsSolid (text : List Char) : Prop where
  nonempty : text ≠ []
  head : text.head?.any isBlank = false
  last : text.getLast?.any isBlank = false

instance (text : List Char) : Decidable (IsSolid text) :=
  decidable_of_iff
    (text ≠ [] ∧ text.head?.any isBlank = false ∧ text.getLast?.any isBlank = false)
    ⟨fun ⟨nonempty, head, last⟩ => ⟨nonempty, head, last⟩,
      fun solid => ⟨solid.nonempty, solid.head, solid.last⟩⟩

/-- One text is the other with any white space around it. -/
def Pads (padded text : List Char) : Prop :=
  ∃ before after : List Char, padded = before ++ text ++ after ∧
    before.all isBlank = true ∧ after.all isBlank = true

theorem isSolid_of_forall {text : List Char} (nonempty : text ≠ [])
    (noBlank : ∀ c ∈ text, isBlank c = false) : IsSolid text where
  nonempty := nonempty
  head := by
    rw [List.head?_eq_some_head nonempty]
    exact noBlank _ (List.head_mem nonempty)
  last := by
    rw [List.getLast?_eq_some_getLast nonempty]
    exact noBlank _ (List.getLast_mem nonempty)

namespace IsSolid

variable {text first second : List Char}

theorem ne_empty {text : String} (solid : IsSolid text.toList) : text ≠ "" := by
  rintro rfl
  exact solid.nonempty rfl

theorem reverse (solid : IsSolid text) : IsSolid text.reverse where
  nonempty := by simpa using solid.nonempty
  head := by rw [List.head?_reverse, solid.last]
  last := by rw [List.getLast?_reverse, solid.head]

/-- What lies between two solid texts does not count. -/
theorem append (solidFirst : IsSolid first) (middle : List Char) (solidSecond : IsSolid second) :
    IsSolid (first ++ middle ++ second) where
  nonempty := by simp [solidFirst.nonempty]
  head := by
    have found := List.head?_eq_some_head solidFirst.nonempty
    rw [List.append_assoc, List.head?_append, found, Option.some_or, ← found, solidFirst.head]
  last := by
    have found := List.getLast?_eq_some_getLast solidSecond.nonempty
    rw [List.getLast?_append, found, Option.some_or, ← found, solidSecond.last]

theorem dropWhile_append (solid : IsSolid text) (after : List Char) :
    (text ++ after).dropWhile isBlank = text ++ after := by
  cases text with
  | nil => exact absurd rfl solid.nonempty
  | cons c rest =>
      have visible : isBlank c = false := solid.head
      simp [visible]

end IsSolid

/-- White space around a solid text is taken off. -/
theorem trimmed_eq_of_pads {padded text : List Char} (solid : IsSolid text)
    (pads : Pads padded text) : trimmed padded = text := by
  rcases pads with ⟨before, after, rfl, blankBefore, blankAfter⟩
  have fromFront : (before ++ text ++ after).dropWhile isBlank = text ++ after := by
    rw [List.append_assoc, List.dropWhile_append_of_pos (List.all_eq_true.mp blankBefore),
      solid.dropWhile_append]
  have blankReversed : after.reverse.all isBlank = true := by
    rw [List.all_reverse, blankAfter]
  have fromBack : (text ++ after).reverse.dropWhile isBlank = text.reverse := by
    have kept := solid.reverse.dropWhile_append []
    rw [List.append_nil] at kept
    rw [List.reverse_append, List.dropWhile_append_of_pos (List.all_eq_true.mp blankReversed),
      kept]
  rw [trimmed, fromFront, fromBack, List.reverse_reverse]

theorem pads_self (text : List Char) : Pads text text :=
  ⟨[], [], by simp, rfl, rfl⟩

/-! ## Trimming -/

theorem Pads.trans {padded text core : List Char} (outer : Pads padded text)
    (inner : Pads text core) : Pads padded core := by
  rcases outer with ⟨outerBefore, outerAfter, rfl, blankOuterBefore, blankOuterAfter⟩
  rcases inner with ⟨before, after, rfl, blankBefore, blankAfter⟩
  exact ⟨outerBefore ++ before, after ++ outerAfter, by simp,
    by rw [List.all_append, blankOuterBefore, blankBefore]; rfl,
    by rw [List.all_append, blankAfter, blankOuterAfter]; rfl⟩

/-- What trimming leaves is followed by the white space that it takes off the end. -/
theorem trimmed_append_blank (text : List Char) :
    trimmed text ++ ((text.dropWhile isBlank).reverse.takeWhile isBlank).reverse =
      text.dropWhile isBlank := by
  rw [trimmed, ← List.reverse_append, List.takeWhile_append_dropWhile, List.reverse_reverse]

/-- Trimming takes off white space only. -/
theorem pads_trimmed (text : List Char) : Pads text (trimmed text) := by
  refine ⟨text.takeWhile isBlank, ((text.dropWhile isBlank).reverse.takeWhile isBlank).reverse,
    ?_, List.all_takeWhile, ?_⟩
  · rw [List.append_assoc, trimmed_append_blank, List.takeWhile_append_dropWhile]
  · rw [List.all_reverse, List.all_takeWhile]

theorem trimmed_eq_nil_iff (text : List Char) :
    trimmed text = [] ↔ text.all isBlank = true := by
  constructor
  · intro nothing
    obtain ⟨before, after, equal, blankBefore, blankAfter⟩ := pads_trimmed text
    rw [equal, nothing, List.append_nil, List.all_append, blankBefore, blankAfter]
    rfl
  · intro blank
    rw [trimmed, List.dropWhile_eq_nil_iff.mpr (List.all_eq_true.mp blank)]
    rfl

theorem any_head?_dropWhile_isBlank (text : List Char) :
    (text.dropWhile isBlank).head?.any isBlank = false := by
  have notBlank := List.head?_dropWhile_not isBlank text
  cases first : (text.dropWhile isBlank).head? with
  | none => rfl
  | some c => simpa [first] using notBlank

/-- No white space is left at the ends of what trimming leaves. -/
theorem isSolid_trimmed {text : List Char} (nonempty : trimmed text ≠ []) :
    IsSolid (trimmed text) where
  nonempty := nonempty
  head := by
    have found := List.head?_eq_some_head nonempty
    have first := any_head?_dropWhile_isBlank text
    rwa [← trimmed_append_blank, List.head?_append, found, Option.some_or, ← found] at first
  last := by
    rw [trimmed, List.getLast?_reverse]
    exact any_head?_dropWhile_isBlank _

/-- White space around a text makes no difference to what trimming leaves of it. -/
theorem trimmed_eq_trimmed_of_pads {padded text : List Char} (pads : Pads padded text) :
    trimmed padded = trimmed text := by
  by_cases nothing : trimmed text = []
  · rw [nothing, trimmed_eq_nil_iff]
    rw [trimmed_eq_nil_iff] at nothing
    obtain ⟨before, after, equal, blankBefore, blankAfter⟩ := pads
    rw [equal, List.all_append, List.all_append, blankBefore, nothing, blankAfter]
    rfl
  · exact trimmed_eq_of_pads (isSolid_trimmed nothing) (pads.trans (pads_trimmed text))

/-! ## Joined texts -/

theorem segments_of_not_mem {separator : Char} {text : List Char} (clear : separator ∉ text) :
    segments separator text = [text] := by
  induction text with
  | nil => rfl
  | cons c rest inductionHypothesis =>
      have different : c ≠ separator := Ne.symm (List.ne_of_not_mem_cons clear)
      rw [segments, if_neg different,
        inductionHypothesis (List.not_mem_of_not_mem_cons clear)]

/-- Joining the segments of a text gives the text back. -/
theorem intercalate_segments (separator : Char) (text : List Char) :
    [separator].intercalate (segments separator text) = text := by
  induction text with
  | nil => rfl
  | cons c text inductionHypothesis =>
      obtain ⟨first, others, cut⟩ := List.exists_cons_of_ne_nil (segments_ne_nil separator text)
      rw [cut] at inductionHypothesis
      by_cases isSeparator : c = separator
      · rw [segments, if_pos isSeparator, cut, List.intercalate_cons_cons, inductionHypothesis,
          isSeparator]
        rfl
      · rw [segments, if_neg isSeparator, cut]
        cases others with
        | nil =>
            rw [List.intercalate_singleton] at inductionHypothesis ⊢
            rw [inductionHypothesis]
        | cons second others =>
            rw [List.intercalate_cons_cons] at inductionHypothesis ⊢
            rw [List.cons_append, List.cons_append, inductionHypothesis]

/-- A text without separators in front of another one belongs to its first segment. -/
theorem exists_segments_clear_append {separator : Char} {clear : List Char}
    (isClear : separator ∉ clear) (text : List Char) :
    ∃ first others, segments separator text = first :: others ∧
      segments separator (clear ++ text) = (clear ++ first) :: others := by
  induction clear with
  | nil =>
      obtain ⟨first, others, cut⟩ := List.exists_cons_of_ne_nil (segments_ne_nil separator text)
      exact ⟨first, others, cut, cut⟩
  | cons c clear inductionHypothesis =>
      have different : c ≠ separator := Ne.symm (List.ne_of_not_mem_cons isClear)
      obtain ⟨first, others, cut, longer⟩ :=
        inductionHypothesis (List.not_mem_of_not_mem_cons isClear)
      refine ⟨first, others, cut, ?_⟩
      rw [List.cons_append, segments, if_neg different, longer]
      rfl

/-- A text without separators behind another one belongs to its last segment. -/
theorem exists_segments_append_clear {separator : Char} {clear : List Char}
    (isClear : separator ∉ clear) (text : List Char) :
    ∃ others last, segments separator text = others ++ [last] ∧
      segments separator (text ++ clear) = others ++ [last ++ clear] := by
  induction text with
  | nil => exact ⟨[], [], rfl, segments_of_not_mem isClear⟩
  | cons c text inductionHypothesis =>
      obtain ⟨others, last, cut, longer⟩ := inductionHypothesis
      by_cases isSeparator : c = separator
      · refine ⟨[] :: others, last, ?_, ?_⟩
        · rw [segments, if_pos isSeparator, cut]
          rfl
        · rw [List.cons_append, segments, if_pos isSeparator, longer]
          rfl
      · rw [List.cons_append, segments, segments, if_neg isSeparator, if_neg isSeparator, cut,
          longer]
        cases others with
        | nil => exact ⟨[], c :: last, rfl, rfl⟩
        | cons first others => exact ⟨(c :: first) :: others, last, rfl, rfl⟩

/-- White space around a text makes no difference to what trimming leaves of its
segments, if the separator is something else. -/
theorem map_trimmed_segments_of_pads {separator : Char} (visible : isBlank separator = false)
    {padded text : List Char} (pads : Pads padded text) :
    (segments separator padded).map trimmed = (segments separator text).map trimmed := by
  have clear {blank : List Char} (isBlank : blank.all isBlank = true) : separator ∉ blank := by
    intro member
    rw [List.all_eq_true.mp isBlank separator member] at visible
    cases visible
  obtain ⟨before, after, rfl, blankBefore, blankAfter⟩ := pads
  obtain ⟨others, last, cut, longer⟩ :=
    exists_segments_append_clear (clear blankAfter) (before ++ text)
  obtain ⟨first, rest, cutText, longerText⟩ :=
    exists_segments_clear_append (clear blankBefore) text
  have padsLast : Pads (last ++ after) last := ⟨[], after, rfl, rfl, blankAfter⟩
  have padsFirst : Pads (before ++ first) first := ⟨before, [], by simp, blankBefore, rfl⟩
  calc
    (segments separator (before ++ text ++ after)).map trimmed =
        (segments separator (before ++ text)).map trimmed := by
      rw [longer, cut, List.map_append, List.map_append, List.map_singleton,
        List.map_singleton, trimmed_eq_trimmed_of_pads padsLast]
    _ = (segments separator text).map trimmed := by
      rw [longerText, cutText, List.map_cons, List.map_cons,
        trimmed_eq_trimmed_of_pads padsFirst]

/-- Joined texts without separators are the segments of what they are joined to. -/
theorem segments_intercalate {separator : Char} {texts : List (List Char)}
    (nonempty : texts ≠ []) (clear : ∀ text ∈ texts, separator ∉ text) :
    segments separator ([separator].intercalate texts) = texts := by
  induction texts with
  | nil => exact absurd rfl nonempty
  | cons first rest inductionHypothesis =>
      have clearFirst := clear first List.mem_cons_self
      cases rest with
      | nil => rw [List.intercalate_singleton, segments_of_not_mem clearFirst]
      | cons second others =>
          have clearRest : ∀ text ∈ second :: others, separator ∉ text :=
            fun text member => clear text (List.mem_cons_of_mem first member)
          calc
            segments separator ([separator].intercalate (first :: second :: others)) =
                segments separator (first ++ separator ::
                  [separator].intercalate (second :: others)) := by
              rw [List.intercalate_cons_cons, List.append_assoc, List.singleton_append]
            _ = segments separator first ++
                segments separator ([separator].intercalate (second :: others)) :=
              segments_append_separator separator first _
            _ = first :: second :: others := by
              rw [segments_of_not_mem clearFirst, inductionHypothesis nofun clearRest]
              rfl

theorem isSolid_intercalate {texts : List (List Char)} (separator : List Char)
    (nonempty : texts ≠ []) (solid : ∀ text ∈ texts, IsSolid text) :
    IsSolid (separator.intercalate texts) := by
  induction texts with
  | nil => exact absurd rfl nonempty
  | cons first rest inductionHypothesis =>
      have solidFirst := solid first List.mem_cons_self
      cases rest with
      | nil => rwa [List.intercalate_singleton]
      | cons second others =>
          have solidRest : ∀ text ∈ second :: others, IsSolid text :=
            fun text member => solid text (List.mem_cons_of_mem first member)
          rw [List.intercalate_cons_cons]
          exact solidFirst.append separator (inductionHypothesis nofun solidRest)

end PodPlacement.Text
