import PodPlacement.Json.Reader
import PodPlacement.Proofs.Json.Number
import PodPlacement.Proofs.Json.Quoted

/-!
# Reading what was printed

The text of a value, printed with whatever white space, says that value and
nothing else. Reading symbol by symbol is followed through the progress that
the symbols make: the text of a value takes the reading from where a value must
follow to where the value is complete, whatever containers are open around it.
-/

namespace PodPlacement.Json

open Text (Symbol symbols)

/-! ## What a value says -/

mutual

/-- The draft of a value. An integer beyond sixty-four bits is the number that
its digits are read as. -/
def toDraft : Json → Draft
  | .null => .null
  | .bool value => .bool value
  | .int n => .number (Numeral.ofInt n).value?
  | .string text => .string (some text)
  | .array items => .array (toItems items)
  | .object members => .object (toMembers members)

/-- The items of an array. -/
def toItems : List Json → Items
  | [] => .close
  | item :: items => .item item.toDraft (toItems items)

/-- The members of an object. -/
def toMembers : List (String × Json) → Members
  | [] => .close
  | (key, value) :: members => .member (some key) value.toDraft (toMembers members)

end

theorem toItems_eq_prepend (items : List Json) :
    toItems items = .prepend (items.map toDraft) .close := by
  induction items with
  | nil => rfl
  | cons item items inductionHypothesis =>
      rw [toItems, inductionHypothesis]
      rfl

theorem toMembers_eq_prepend (members : List (String × Json)) :
    toMembers members =
      .prepend (members.map fun (key, value) => (some key, value.toDraft)) .close := by
  induction members with
  | nil => rfl
  | cons member members inductionHypothesis =>
      rw [toMembers, inductionHypothesis]
      rfl

theorem symbols_nil : symbols [] = [] :=
  rfl

theorem symbols_cons (c : Char) (text : List Char) :
    symbols (c :: text) = some c :: symbols text :=
  rfl

theorem symbols_append (first second : List Char) :
    symbols (first ++ second) = symbols first ++ symbols second :=
  List.map_append

/-! ## White space -/

/-- A layout puts nothing but white space between the parts of a value. -/
structure Layout.IsBlank (layout : Layout) : Prop where
  lineBreak : ∀ depth, ∀ c ∈ layout.lineBreak depth, isGap c = true
  gap : ∀ c ∈ layout.gap, isGap c = true

theorem Layout.isBlank_compact : compact.IsBlank :=
  ⟨fun _ _ member => absurd member List.not_mem_nil,
    fun _ member => absurd member List.not_mem_nil⟩

theorem Layout.isBlank_indented : indented.IsBlank := by
  constructor
  · intro depth c member
    rcases List.mem_cons.mp member with rfl | member
    · rfl
    · rw [(List.mem_replicate.mp member).2]
      rfl
  · intro c member
    rw [List.mem_singleton.mp member]
    rfl

theorem isGap_eq_true_iff (c : Char) :
    isGap c = true ↔ c = ' ' ∨ c = '\t' ∨ c = '\n' ∨ c = '\r' := by
  simp [isGap, or_assoc]

theorem endsNumeral_of_gaps {gaps : List Char} (blank : ∀ c ∈ gaps, isGap c = true)
    {rest : List Symbol} (ends : EndsNumeral rest) : EndsNumeral (symbols gaps ++ rest) := by
  cases gaps with
  | nil => exact ends
  | cons c gaps =>
      apply endsNumeral_cons
      rcases (isGap_eq_true_iff c).mp (blank c List.mem_cons_self) with
        rfl | rfl | rfl | rfl <;> decide

/-! ## Reading symbols -/

section Marks

variable (rest : List Symbol)

theorem scanToken_openArray : scanToken (some '[' :: rest) = (.openArray, rest) :=
  rfl

theorem scanToken_closeArray : scanToken (some ']' :: rest) = (.closeArray, rest) :=
  rfl

theorem scanToken_openObject : scanToken (some '\x7b' :: rest) = (.openObject, rest) :=
  rfl

theorem scanToken_closeObject : scanToken (some '\x7d' :: rest) = (.closeObject, rest) :=
  rfl

theorem scanToken_colon : scanToken (some ':' :: rest) = (.colon, rest) :=
  rfl

theorem scanToken_comma : scanToken (some ',' :: rest) = (.comma, rest) :=
  rfl

theorem scanToken_null : scanToken (symbols ['n', 'u', 'l', 'l'] ++ rest) = (.null, rest) :=
  rfl

theorem scanToken_true :
    scanToken (symbols ['t', 'r', 'u', 'e'] ++ rest) = (.bool true, rest) :=
  rfl

theorem scanToken_false :
    scanToken (symbols ['f', 'a', 'l', 's', 'e'] ++ rest) = (.bool false, rest) :=
  rfl

end Marks

/-- A numeral is a token: no other token begins like one. -/
theorem scanToken_of_scanNumeral {input rest : List Symbol} {numeral : Numeral}
    (scanned : scanNumeral input = some (numeral, rest)) :
    scanToken input = (.number numeral.value?, rest) := by
  have other {c : Char} {tail : List Symbol} (equal : input = some c :: tail)
      (notDigit : c.isDigit = false) (notMinus : c ≠ '-') : False := by
    rw [equal, scanNumeral] at scanned
    · simp [scanUnsigned, scanWhole, digitRun, notDigit] at scanned
    · rintro _ isMinus
      cases isMinus
      exact notMinus rfl
  unfold scanToken
  split
  all_goals try exact (other rfl (by decide) (by decide)).elim
  rw [scanned]

namespace Progress

/-- The progress after further symbols. -/
def advance (progress : Progress) (input : List Symbol) : Progress :=
  (tokens input).foldl step progress

@[simp]
theorem advance_nil (progress : Progress) : progress.advance [] = progress := by
  rw [advance, tokens]
  rfl

/-- A token is one step. -/
theorem advance_token {c : Char} {input rest : List Symbol} {token : Token}
    (solid : isGap c = false) (scanned : scanToken (some c :: input) = (token, rest))
    (progress : Progress) :
    progress.advance (some c :: input) = (progress.step token).advance rest := by
  rw [advance, tokens, solid, scanned]
  rfl

/-- White space is no progress. -/
theorem advance_gaps {gaps : List Char} (blank : ∀ c ∈ gaps, isGap c = true)
    (rest : List Symbol) (progress : Progress) :
    progress.advance (symbols gaps ++ rest) = progress.advance rest := by
  induction gaps with
  | nil => rfl
  | cons c gaps inductionHypothesis =>
      have skipped : tokens (some c :: (symbols gaps ++ rest)) = tokens (symbols gaps ++ rest) := by
        rw [tokens, if_pos (blank c List.mem_cons_self)]
      rw [symbols, List.map_cons, List.cons_append, advance, ← symbols, skipped]
      exact inductionHypothesis fun other member => blank other (List.mem_cons_of_mem c member)

theorem advance_string (text : String) (rest : List Symbol) (progress : Progress) :
    progress.advance (symbols (writeString text) ++ rest) =
      (progress.step (.string (some text))).advance rest := by
  have written : symbols (writeString text) ++ rest =
      some '"' :: (symbols (text.toList.flatMap escape) ++ some '"' :: rest) := by
    simp [writeString, symbols]
  rw [written]
  apply advance_token rfl
  rw [scanToken, scanString_flatMap_escape]

theorem advance_int (n : Int) {rest : List Symbol} (ends : EndsNumeral rest)
    (progress : Progress) :
    progress.advance (symbols (writeInt n) ++ rest) =
      (progress.step (.number (Numeral.ofInt n).value?)).advance rest := by
  have scanned := scanNumeral_writeInt n ends
  obtain ⟨first, tail, equal, begins⟩ := exists_writeInt_eq_cons n
  have solid : isGap first = false := by
    rw [← Bool.not_eq_true, isGap_eq_true_iff]
    rintro (rfl | rfl | rfl | rfl) <;> revert begins <;> decide
  rw [equal] at scanned ⊢
  exact advance_token solid (scanToken_of_scanNumeral scanned) progress

/-! ## Reading values -/

/-- A value must follow, and the containers around it are open. -/
def Awaits (progress : Progress) (frames : List Frame) : Prop :=
  ∀ token, token ≠ .closeArray → progress.step token = begin frames token

theorem awaits_awaitValue (frames : List Frame) : (awaitValue frames).Awaits frames :=
  fun _ _ => rfl

theorem awaits_awaitFirstItem (frames : List Frame) :
    (awaitFirstItem frames).Awaits (.array [] :: frames) := by
  intro token notClose
  cases token <;> first | rfl | exact absurd rfl notClose

/-- The first token of a value begins it. -/
theorem Awaits.advance_token {progress : Progress} {frames : List Frame}
    (awaits : progress.Awaits frames) {c : Char} {input rest : List Symbol} {token : Token}
    (scanned : scanToken (some c :: input) = (token, rest)) (solid : isGap c = false)
    (notClose : token ≠ .closeArray) :
    progress.advance (some c :: input) = (begin frames token).advance rest := by
  rw [Progress.advance_token solid scanned, awaits token notClose]

section Containers

variable {layout : Layout} (blank : layout.IsBlank) (depth : Nat) (frames : List Frame)

theorem endsNumeral_writeItems (items : List Json) {rest : List Symbol}
    (ends : EndsNumeral rest) :
    EndsNumeral (symbols (writeItems layout depth items) ++ rest) := by
  cases items with
  | nil => exact ends
  | cons item items => exact endsNumeral_cons _ (by decide)

theorem endsNumeral_writeMembers (members : List (String × Json)) {rest : List Symbol}
    (ends : EndsNumeral rest) :
    EndsNumeral (symbols (writeMembers layout depth members) ++ rest) := by
  cases members with
  | nil => exact ends
  | cons member members => exact endsNumeral_cons _ (by decide)

include blank

theorem endsNumeral_lineBreak {c : Char} (rest : List Symbol)
    (other : c.isDigit = false ∧ c ≠ '.' ∧ c ≠ 'e' ∧ c ≠ 'E') :
    EndsNumeral (symbols (layout.lineBreak depth) ++ some c :: rest) :=
  endsNumeral_of_gaps (blank.lineBreak depth) (endsNumeral_cons rest other)

theorem advance_closeArray (items : List Draft) (rest : List Symbol) :
    (afterItem items frames).advance
        (symbols (layout.lineBreak depth) ++ some ']' :: rest) =
      (resume (.array (.prepend items.reverse .close)) frames).advance rest := by
  rw [advance_gaps (blank.lineBreak depth), advance_token rfl (scanToken_closeArray rest)]
  rfl

theorem advance_closeObject (members : List (Option String × Draft)) (rest : List Symbol) :
    (afterMember members frames).advance
        (symbols (layout.lineBreak depth) ++ some '\x7d' :: rest) =
      (resume (.object (.prepend members.reverse .close)) frames).advance rest := by
  rw [advance_gaps (blank.lineBreak depth), advance_token rfl (scanToken_closeObject rest)]
  rfl

/-- A key and its colon, with the white space after it. -/
theorem advance_key (before : List (Option String × Draft)) {progress : Progress} (key : String)
    (awaits : progress.step (.string (some key)) = .awaitColon before (some key) frames)
    (rest : List Symbol) :
    progress.advance (symbols (writeString key) ++
        some ':' :: (symbols layout.gap ++ rest)) =
      (awaitValue (.object before (some key) :: frames)).advance rest := by
  rw [advance_string, awaits, advance_token rfl (scanToken_colon _), advance_gaps blank.gap]
  rfl

end Containers

mutual

/-- The text of a value completes it where a value must follow. -/
theorem advance_write {layout : Layout} (blank : layout.IsBlank) (depth : Nat)
    {progress : Progress} {frames : List Frame} (awaits : progress.Awaits frames)
    {rest : List Symbol} (ends : EndsNumeral rest) : (value : Json) →
    progress.advance (symbols (write layout depth value) ++ rest) =
      (resume value.toDraft frames).advance rest
  | .null => by
      rw [write]
      exact awaits.advance_token (scanToken_null rest) rfl (by simp)
  | .bool true => by
      rw [write]
      exact awaits.advance_token (scanToken_true rest) rfl (by simp)
  | .bool false => by
      rw [write]
      exact awaits.advance_token (scanToken_false rest) rfl (by simp)
  | .int n => by
      rw [write, advance_int n ends, awaits _ (by simp)]
      rfl
  | .string text => by
      rw [write, advance_string, awaits _ (by simp)]
      rfl
  | .array [] => by
      rw [write, symbols_cons, List.cons_append,
        awaits.advance_token (scanToken_openArray _) rfl (by simp)]
      exact advance_token rfl (scanToken_closeArray rest) _
  | .array (item :: items) => by
      have endsItems : EndsNumeral (symbols (layout.lineBreak depth) ++ some ']' :: rest) :=
        endsNumeral_lineBreak blank depth rest (by decide)
      rw [toDraft, toItems_eq_prepend]
      simp only [write, symbols_nil, symbols_cons, symbols_append, List.nil_append,
        List.cons_append, List.append_assoc]
      rw [awaits.advance_token (scanToken_openArray _) rfl (by simp),
        advance_gaps (blank.lineBreak (depth + 1)), begin,
        advance_write blank (depth + 1) (awaits_awaitFirstItem frames)
          (endsNumeral_writeItems _ items endsItems) item, resume]
      refine (advance_writeItems blank (depth + 1) _ frames endsItems items).trans ?_
      refine (advance_closeArray blank depth frames _ rest).trans ?_
      simp
  | .object [] => by
      rw [write, symbols_cons, List.cons_append,
        awaits.advance_token (scanToken_openObject _) rfl (by simp)]
      exact advance_token rfl (scanToken_closeObject rest) _
  | .object ((key, value) :: members) => by
      have endsMembers : EndsNumeral (symbols (layout.lineBreak depth) ++ some '\x7d' :: rest) :=
        endsNumeral_lineBreak blank depth rest (by decide)
      rw [toDraft, toMembers_eq_prepend]
      simp only [write, symbols_nil, symbols_cons, symbols_append, List.nil_append,
        List.cons_append, List.append_assoc]
      rw [awaits.advance_token (scanToken_openObject _) rfl (by simp),
        advance_gaps (blank.lineBreak (depth + 1)), begin, advance_key blank frames [] key rfl,
        advance_write blank (depth + 1) (awaits_awaitValue _)
          (endsNumeral_writeMembers _ members endsMembers) value, resume]
      refine (advance_writeMembers blank (depth + 1) _ frames endsMembers members).trans ?_
      refine (advance_closeObject blank depth frames _ rest).trans ?_
      simp

/-- Every further item is added to the open array. -/
theorem advance_writeItems {layout : Layout} (blank : layout.IsBlank) (depth : Nat)
    (before : List Draft) (frames : List Frame) {rest : List Symbol}
    (ends : EndsNumeral rest) : (items : List Json) →
    (afterItem before frames).advance (symbols (writeItems layout depth items) ++ rest) =
      (afterItem ((items.map toDraft).reverse ++ before) frames).advance rest
  | [] => rfl
  | item :: items => by
      simp only [writeItems, symbols_cons, symbols_append, List.cons_append, List.append_assoc]
      rw [advance_token rfl (scanToken_comma _), advance_gaps (blank.lineBreak depth), step,
        advance_write blank depth (awaits_awaitValue _)
          (endsNumeral_writeItems depth items ends) item, resume,
        advance_writeItems blank depth _ frames ends items]
      simp

/-- Every further member is added to the open object. -/
theorem advance_writeMembers {layout : Layout} (blank : layout.IsBlank) (depth : Nat)
    (before : List (Option String × Draft)) (frames : List Frame) {rest : List Symbol}
    (ends : EndsNumeral rest) : (members : List (String × Json)) →
    (afterMember before frames).advance (symbols (writeMembers layout depth members) ++ rest) =
      (afterMember ((members.map fun (key, value) => (some key, value.toDraft)).reverse ++
        before) frames).advance rest
  | [] => rfl
  | (key, value) :: members => by
      simp only [writeMembers, symbols_cons, symbols_append, List.cons_append, List.append_assoc]
      rw [advance_token rfl (scanToken_comma _), advance_gaps (blank.lineBreak depth), step,
        advance_key blank frames before key rfl,
        advance_write blank depth (awaits_awaitValue _)
          (endsNumeral_writeMembers depth members ends) value, resume,
        advance_writeMembers blank depth _ frames ends members]
      simp

end

end Progress

/-! ## Whole texts -/

/-- A printed value, with white space after it, says that value and ends. -/
theorem Reading.ofSymbols_write {layout : Layout} (blank : layout.IsBlank) (depth : Nat)
    (value : Json) {after : List Char} (blankAfter : ∀ c ∈ after, isGap c = true) :
    Reading.ofSymbols (symbols (write layout depth value ++ after)) = ⟨value.toDraft, true⟩ := by
  have ends : EndsNumeral (symbols after) := by
    rw [← List.append_nil (symbols after)]
    exact endsNumeral_of_gaps blankAfter endsNumeral_nil
  have reached : (tokens (symbols (write layout depth value ++ after))).foldl Progress.step
      (.awaitValue []) = .done value.toDraft := by
    have written := Progress.advance_write blank depth (Progress.awaits_awaitValue []) ends value
    have skipped := Progress.advance_gaps blankAfter [] (.done value.toDraft)
    rw [List.append_nil, Progress.advance_nil] at skipped
    rw [symbols_append]
    exact written.trans skipped
  rw [ofSymbols, ofTokens, reached]

/-- A printed value is read as what the reader makes of its draft. -/
theorem readText_write {layout : Layout} (blank : layout.IsBlank) (depth : Nat) (value : Json)
    {after : String} (blankAfter : ∀ c ∈ after.toList, isGap c = true) {α : Type}
    (read : Reader α) :
    readText read (String.ofList (write layout depth value) ++ after) = read value.toDraft := by
  rw [readText, readSymbols, String.toList_append, String.toList_ofList,
    Reading.ofSymbols_write blank depth value blankAfter, Reading.value]
  cases read value.toDraft <;> rfl

/-- The same of a value that nothing follows. -/
theorem readText_ofList_write {layout : Layout} (blank : layout.IsBlank) (value : Json)
    {α : Type} (read : Reader α) :
    readText read (String.ofList (write layout 0 value)) = read value.toDraft := by
  have blankAfter : ∀ c ∈ "".toList, isGap c = true :=
    fun _ member => absurd member List.not_mem_nil
  have isRead := readText_write blank 0 value blankAfter read
  rw [String.append_empty] at isRead
  exact isRead

/-- A value without white space is read as what the reader makes of its draft. -/
theorem readText_compact (value : Json) {α : Type} (read : Reader α) :
    readText read value.compact = read value.toDraft :=
  readText_ofList_write Layout.isBlank_compact value read

/-- So is a value with a line for every item. -/
theorem readText_pretty (value : Json) {α : Type} (read : Reader α) :
    readText read value.pretty = read value.toDraft :=
  readText_ofList_write Layout.isBlank_indented value read

/-- What a command prints is read as what the reader makes of the value. -/
theorem readText_pretty_line (value : Json) {α : Type} (read : Reader α) :
    readText read (value.pretty ++ "\n") = read value.toDraft := by
  apply readText_write Layout.isBlank_indented
  intro c member
  have lineFeed : c = '\n' := List.mem_singleton.mp member
  rw [lineFeed]
  rfl

end PodPlacement.Json
