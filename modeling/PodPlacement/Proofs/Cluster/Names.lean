import PodPlacement.Proofs.Cluster.Values

/-!
# Names in a list with commas

The valid priority classes are what stands between the commas of their variable. No
name gets lost, is joined to another one, or is blank, whatever white space stands
around the names and around the whole list, and however many commas follow each
other. So two lists with a comma between them have the names of both.
-/

namespace PodPlacement

open Text

/-! ## Names and segments -/

/-- The names in segments: of each one that is not blank, what stands there without the
white space around it. -/
inductive NamesIn : List (List Char) → List String → Prop
  | nil : NamesIn [] []
  | blank {segment : List Char} {segments : List (List Char)} {names : List String} :
      segment.all isBlank = true → NamesIn segments names → NamesIn (segment :: segments) names
  | name {segment : List Char} {segments : List (List Char)} {name : String}
      {names : List String} :
      IsSolid name.toList → Pads segment name.toList → NamesIn segments names →
      NamesIn (segment :: segments) (name :: names)

/-- The names in a text are those in the segments that its commas join. -/
def ListsNames (text : String) (names : List String) : Prop :=
  ∃ segments : List (List Char), segments ≠ [] ∧ (∀ segment ∈ segments, ',' ∉ segment) ∧
    text.toList = [','].intercalate segments ∧ NamesIn segments names

/-- Names that stand alone are the names in them. -/
theorem namesIn_map_toList {names : List String} (solid : ∀ name ∈ names, IsSolid name.toList) :
    NamesIn (names.map String.toList) names := by
  induction names with
  | nil => exact .nil
  | cons name names inductionHypothesis =>
      rw [List.forall_mem_cons] at solid
      exact .name solid.1 (pads_self name.toList) (inductionHypothesis solid.2)

/-- The names in segments, found by trimming. -/
def trimmedNames (segments : List (List Char)) : List String :=
  (segments.map fun segment => String.ofList (trimmed segment)).filter fun name => name ≠ ""

theorem trimmedNames_cons_of_blank {segment : List Char} (segments : List (List Char))
    (blank : segment.all isBlank = true) :
    trimmedNames (segment :: segments) = trimmedNames segments := by
  simp [trimmedNames, (trimmed_eq_nil_iff segment).mpr blank]

theorem trimmedNames_cons_of_pads {segment : List Char} {name : String}
    (segments : List (List Char)) (solid : IsSolid name.toList)
    (pads : Pads segment name.toList) :
    trimmedNames (segment :: segments) = name :: trimmedNames segments := by
  simp [trimmedNames, trimmed_eq_of_pads solid pads, solid.ne_empty]

theorem namesIn_trimmedNames (segments : List (List Char)) :
    NamesIn segments (trimmedNames segments) := by
  induction segments with
  | nil => exact .nil
  | cons segment segments inductionHypothesis =>
      by_cases nothing : trimmed segment = []
      · have blank := (trimmed_eq_nil_iff segment).mp nothing
        rw [trimmedNames_cons_of_blank segments blank]
        exact .blank blank inductionHypothesis
      · have solid : IsSolid (String.ofList (trimmed segment)).toList := by
          rw [String.toList_ofList]
          exact isSolid_trimmed nothing
        have pads : Pads segment (String.ofList (trimmed segment)).toList := by
          rw [String.toList_ofList]
          exact pads_trimmed segment
        rw [trimmedNames_cons_of_pads segments solid pads]
        exact .name solid pads inductionHypothesis

theorem NamesIn.eq_trimmedNames {segments : List (List Char)} {names : List String}
    (namesIn : NamesIn segments names) : names = trimmedNames segments := by
  induction namesIn with
  | nil => rfl
  | blank blank _ inductionHypothesis =>
      rw [inductionHypothesis, trimmedNames_cons_of_blank _ blank]
  | name solid pads _ inductionHypothesis =>
      rw [inductionHypothesis, trimmedNames_cons_of_pads _ solid pads]

/-- A text lists the names that are read from it, and no others. -/
theorem listsNames_iff {text : String} {names : List String} :
    ListsNames text names ↔ splitNames text = names := by
  constructor
  · rintro ⟨segments, nonempty, clear, joined, namesIn⟩
    rw [namesIn.eq_trimmedNames, splitNames, joined, segments_intercalate nonempty clear]
    rfl
  · rintro rfl
    exact ⟨segments ',' text.toList, segments_ne_nil ',' _,
      fun _ member => separator_not_mem_of_mem_segments member,
      (intercalate_segments ',' _).symm, namesIn_trimmedNames _⟩

/-! ## Lists in lists -/

/-- What trimming leaves of the segments decides which names are in them. -/
theorem trimmedNames_congr {first second : List (List Char)}
    (same : first.map trimmed = second.map trimmed) :
    trimmedNames first = trimmedNames second := by
  have fromTrimmed (segments : List (List Char)) : trimmedNames segments =
      ((segments.map trimmed).map String.ofList).filter fun name => name ≠ "" := by
    rw [List.map_map]
    rfl
  rw [fromTrimmed, fromTrimmed, same]

/-- White space around a list makes no difference to its names. -/
theorem splitNames_trim (text : String) : splitNames (trim text) = splitNames text := by
  have same : (segments ',' (trim text).toList).map trimmed =
      (segments ',' text.toList).map trimmed := by
    rw [toList_trim]
    exact (map_trimmed_segments_of_pads (by decide) (pads_trimmed text.toList)).symm
  exact trimmedNames_congr same

/-- Two lists with a comma between them have the names of both. -/
theorem splitNames_append_comma (first second : String) :
    splitNames (first ++ "," ++ second) = splitNames first ++ splitNames second := by
  have cut : segments ',' (first ++ "," ++ second).toList =
      segments ',' first.toList ++ segments ',' second.toList := by
    rw [← segments_append_separator]
    simp
  rw [splitNames, cut, List.map_append, List.filter_append]
  rfl

/-! ## Listed names -/

/-- Every name stands in a segment, with any white space around it. -/
theorem NamesIn.exists_of_mem {segments : List (List Char)} {names : List String} {name : String}
    (namesIn : NamesIn segments names) (member : name ∈ names) :
    IsSolid name.toList ∧ ∃ segment ∈ segments, Pads segment name.toList := by
  induction namesIn with
  | nil => cases member
  | @blank first _ _ _ _ inductionHypothesis =>
      obtain ⟨solid, segment, there, pads⟩ := inductionHypothesis member
      exact ⟨solid, segment, List.mem_cons_of_mem first there, pads⟩
  | @name first _ _ _ firstSolid firstPads _ inductionHypothesis =>
      rcases List.mem_cons.mp member with rfl | later
      · exact ⟨firstSolid, first, List.mem_cons_self, firstPads⟩
      · obtain ⟨solid, segment, there, pads⟩ := inductionHypothesis later
        exact ⟨solid, segment, List.mem_cons_of_mem first there, pads⟩

/-- No name has a comma, and none is empty or has white space at an end. -/
theorem ListsNames.isSolid_and_noComma {text : String} {names : List String}
    (lists : ListsNames text names) {name : String} (member : name ∈ names) :
    IsSolid name.toList ∧ ',' ∉ name.toList := by
  obtain ⟨segments, _, clear, _, namesIn⟩ := lists
  obtain ⟨solid, segment, there, before, after, equal, _⟩ := namesIn.exists_of_mem member
  refine ⟨solid, fun comma => clear segment there ?_⟩
  rw [equal]
  simp [comma]

namespace Cluster

/-- The valid classes are the names in the value of their variable, as it stands. -/
theorem valid_readClasses (environment : Environment) :
    (readClasses environment).valid =
      ((environment Setting.validClasses.name).map splitNames).getD [] := by
  have nothingNamed : splitNames "" = [] := rfl
  simp only [readClasses, Environment.value]
  cases environment Setting.validClasses.name with
  | none => rfl
  | some value =>
      rw [Option.map_some, Option.map_some, Option.filter_some, ← splitNames_trim value]
      by_cases nothing : trim value = ""
      · simp [nothing, nothingNamed]
      · simp [nothing]

theorem valid_readClasses_of_eq_some {environment : Environment} {value : String}
    (found : environment Setting.validClasses.name = some value) :
    (readClasses environment).valid = splitNames value := by
  rw [valid_readClasses, found]
  rfl

/-- The valid classes of a cluster are the names in the value of their variable and no
others. If it is silent there are none; every one is a name that can stand in a list;
and the names of two lists with a comma between them are those of both. The classes
of a cluster that is loaded are these. -/
theorem readClasses_lists (environment : Environment) :
    (∀ value ∈ environment Setting.validClasses.name, ∀ names : List String,
      ListsNames value names ↔ (readClasses environment).valid = names) ∧
    (environment.IsSilent .validClasses → (readClasses environment).valid = []) ∧
    (∀ name ∈ (readClasses environment).valid, IsSolid name.toList ∧ ',' ∉ name.toList) ∧
    (∀ (first second : Environment), ∀ a ∈ first Setting.validClasses.name,
      ∀ b ∈ second Setting.validClasses.name,
      environment Setting.validClasses.name = some (a ++ "," ++ b) →
      (readClasses environment).valid =
        (readClasses first).valid ++ (readClasses second).valid) ∧
    (∀ cluster, ofEnvironment environment = .ok cluster →
      cluster.classes = readClasses environment) := by
  refine ⟨?lists, ?silent, ?named, ?joined, ?loaded⟩
  case lists =>
    intro value found names
    rw [listsNames_iff, valid_readClasses_of_eq_some found]
  case silent =>
    intro silent
    rw [readClasses, Environment.value_eq_none_iff.mpr silent]
    rfl
  case named =>
    intro name member
    cases found : environment Setting.validClasses.name with
    | none =>
        rw [valid_readClasses, found] at member
        cases member
    | some value =>
        rw [valid_readClasses_of_eq_some found] at member
        exact (listsNames_iff.mpr rfl).isSolid_and_noComma member
  case joined =>
    intro first second a firstFound b secondFound joined
    rw [valid_readClasses_of_eq_some joined, valid_readClasses_of_eq_some firstFound,
      valid_readClasses_of_eq_some secondFound, splitNames_append_comma]
  case loaded =>
    intro cluster loaded
    exact (ofEnvironment_eq_ok_iff.mp loaded).2.2.2.symm

/-- Nothing is set but the valid classes. -/
def listing (text : String) : Environment := fun name =>
  if name = Setting.validClasses.name then some text else none

/-- One name between blanks and commas, then another one; a list of blanks has none. -/
theorem readClasses_lists_classes :
    (readClasses (listing "\u00a0standard,\u2003,")).valid = ["standard"] ∧
    (readClasses (listing ",night shift\t, ")).valid = ["night shift"] ∧
    (readClasses (listing ("\u00a0standard,\u2003," ++ "," ++ ",night shift\t, "))).valid =
      ["standard"] ++ ["night shift"] ∧
    (listing "\u2003\n").IsSilent .validClasses ∧
    (readClasses (listing "\u2003\n")).valid = [] := by
  have first : (readClasses (listing "\u00a0standard,\u2003,")).valid = ["standard"] := by
    decide +kernel
  have second : (readClasses (listing ",night shift\t, ")).valid = ["night shift"] := by
    decide +kernel
  have joined := (readClasses_lists
    (listing ("\u00a0standard,\u2003," ++ "," ++ ",night shift\t, "))).2.2.2.1
      (listing "\u00a0standard,\u2003,") (listing ",night shift\t, ") _ rfl _ rfl rfl
  have silent : (listing "\u2003\n").IsSilent .validClasses := by
    rintro value ⟨⟩
    decide +kernel
  rw [first, second] at joined
  exact ⟨first, second, joined, silent, (readClasses_lists _).2.1 silent⟩

end Cluster

end PodPlacement
