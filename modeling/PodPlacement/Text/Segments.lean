/-!
# Segments of a text

A text with separators is the list of its segments, what lies before, between
and after them. There is one segment more than there are separators, and
joining the segments with the separator gives the text back.
-/

namespace PodPlacement.Text

/-- The segments of a text between separators. -/
def segments (separator : Char) : List Char → List (List Char)
  | [] => [[]]
  | c :: rest =>
      if c = separator then [] :: segments separator rest
      else
        match segments separator rest with
        | [] => [[c]]
        | first :: others => (c :: first) :: others

theorem segments_ne_nil (separator : Char) (text : List Char) :
    segments separator text ≠ [] := by
  cases text with
  | nil => simp [segments]
  | cons c rest =>
      simp only [segments]
      split
      · simp
      · split <;> simp

/-- A separator ends the segments before it. -/
theorem segments_append_separator (separator : Char) (first second : List Char) :
    segments separator (first ++ separator :: second) =
      segments separator first ++ segments separator second := by
  induction first with
  | nil => simp [segments]
  | cons c rest inductionHypothesis =>
      simp only [List.cons_append, segments, inductionHypothesis]
      split
      · rfl
      · cases cut : segments separator rest with
        | nil => exact absurd cut (segments_ne_nil separator rest)
        | cons head tail => rfl

/-- No segment has a separator. -/
theorem separator_not_mem_of_mem_segments {separator : Char} {text segment : List Char}
    (member : segment ∈ segments separator text) : separator ∉ segment := by
  induction text generalizing segment with
  | nil => simp_all [segments]
  | cons c rest inductionHypothesis =>
      simp only [segments] at member
      split at member
      · rcases List.mem_cons.mp member with rfl | member
        · simp
        · exact inductionHypothesis member
      · next different =>
          split at member
          · next cut => exact absurd cut (segments_ne_nil separator rest)
          · next head tail cut =>
              rcases List.mem_cons.mp member with rfl | member
              · have clear : separator ∉ head := inductionHypothesis (by simp [cut])
                simp [clear, Ne.symm different]
              · exact inductionHypothesis (by simp [cut, member])

end PodPlacement.Text
