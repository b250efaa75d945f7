import PodPlacement.Text.Utf8

/-!
# String literals

A string literal is scanned in two steps. The first one finds its end: it
takes the characters between the quotation marks apart into pieces and refuses
control characters and malformed escapes. The second one joins the pieces into
a text, which fails when a piece is a stray byte or a surrogate without its
partner. A literal whose pieces make no text still ends where it ends, so it
may stand where nothing uses its text.
-/

namespace PodPlacement.Json

open Text (Symbol)

/-- A part of a string literal. -/
inductive Piece where
  /-- A character. -/
  | char (c : Char)
  /-- A UTF-16 code unit, written by an escape with four hexadecimal digits. -/
  | unit (code : Nat)
  /-- A byte that belongs to no character. -/
  | stray
  deriving DecidableEq, Repr

/-- The value of a hexadecimal digit in either case. -/
def hexDigit? : Symbol → Option Nat
  | none => none
  | some c =>
      if c.isDigit then some (c.toNat - '0'.toNat)
      else if 'a' ≤ c ∧ c ≤ 'f' then some (c.toNat - 'a'.toNat + 10)
      else if 'A' ≤ c ∧ c ≤ 'F' then some (c.toNat - 'A'.toNat + 10)
      else none

/-- The code unit written by four hexadecimal digits. -/
def codeUnit? (first second third fourth : Symbol) : Option Nat :=
  match hexDigit? first, hexDigit? second, hexDigit? third, hexDigit? fourth with
  | some a, some b, some c, some d => some (((a * 16 + b) * 16 + c) * 16 + d)
  | _, _, _, _ => none

/-- The character written by a backslash and one letter. -/
def unescape? (letter : Char) : Option Char :=
  match letter with
  | '"' => some '"'
  | '\\' => some '\\'
  | '/' => some '/'
  | 'b' => some '\x08'
  | 'f' => some '\x0c'
  | 'n' => some '\n'
  | 'r' => some '\r'
  | 't' => some '\t'
  | _ => none

/-- The pieces of a literal after its opening quotation mark, and what follows
its closing one; none when the literal does not end, or is malformed. -/
def scanPieces : List Symbol → Option (List Piece × List Symbol)
  | [] => none
  | none :: rest => (scanPieces rest).map fun (pieces, after) => (.stray :: pieces, after)
  | some '"' :: rest => some ([], rest)
  | some '\\' :: some 'u' :: first :: second :: third :: fourth :: rest =>
    match codeUnit? first second third fourth with
    | none => none
    | some code => (scanPieces rest).map fun (pieces, after) => (.unit code :: pieces, after)
  | some '\\' :: some letter :: rest =>
    match unescape? letter with
    | none => none
    | some c => (scanPieces rest).map fun (pieces, after) => (.char c :: pieces, after)
  | some '\\' :: _ => none
  | some c :: rest =>
      if c.toNat < 0x20 then none
      else (scanPieces rest).map fun (pieces, after) => (.char c :: pieces, after)

/-- A literal takes at least its closing quotation mark. -/
theorem scanPieces_length {input rest : List Symbol} {pieces : List Piece}
    (scanned : scanPieces input = some (pieces, rest)) :
    rest.length < input.length := by
  fun_induction scanPieces input generalizing pieces with
  | case1 => simp at scanned
  | case2 tail inductionHypothesis =>
      simp only [Option.map_eq_some_iff, Prod.exists, Prod.mk.injEq] at scanned
      obtain ⟨before, after, run, _, rfl⟩ := scanned
      have := inductionHypothesis run
      simp only [List.length_cons]
      omega
  | case3 tail => simp_all
  | case4 => simp at scanned
  | case5 first second third fourth tail code _ inductionHypothesis =>
      simp only [Option.map_eq_some_iff, Prod.exists, Prod.mk.injEq] at scanned
      obtain ⟨before, after, run, _, rfl⟩ := scanned
      have := inductionHypothesis run
      simp only [List.length_cons]
      omega
  | case6 => simp at scanned
  | case7 letter tail _ c _ inductionHypothesis =>
      simp only [Option.map_eq_some_iff, Prod.exists, Prod.mk.injEq] at scanned
      obtain ⟨before, after, run, _, rfl⟩ := scanned
      have := inductionHypothesis run
      simp only [List.length_cons]
      omega
  | case8 => simp at scanned
  | case9 => simp at scanned
  | case10 c tail _ _ _ _ _ inductionHypothesis =>
      simp only [Option.map_eq_some_iff, Prod.exists, Prod.mk.injEq] at scanned
      obtain ⟨before, after, run, _, rfl⟩ := scanned
      have := inductionHypothesis run
      simp only [List.length_cons]
      omega

/-- Whether a code unit is the first of a surrogate pair. -/
def isHighSurrogate (code : Nat) : Bool :=
  0xD800 ≤ code && code ≤ 0xDBFF

/-- Whether a code unit is the second of a surrogate pair. -/
def isLowSurrogate (code : Nat) : Bool :=
  0xDC00 ≤ code && code ≤ 0xDFFF

/-- The text that pieces make: a surrogate pair is one character. -/
def joinPieces : List Piece → Option (List Char)
  | [] => some []
  | .stray :: _ => none
  | .char c :: rest => (joinPieces rest).map (c :: ·)
  | .unit high :: .unit low :: rest =>
      if isHighSurrogate high then
        if isLowSurrogate low then
          (joinPieces rest).map
            (Char.ofNat (0x10000 + (high - 0xD800) * 0x400 + (low - 0xDC00)) :: ·)
        else none
      else if isLowSurrogate high then none
      else (joinPieces (.unit low :: rest)).map (Char.ofNat high :: ·)
  | .unit code :: rest =>
      if isHighSurrogate code || isLowSurrogate code then none
      else (joinPieces rest).map (Char.ofNat code :: ·)

/-- The text of a literal whose opening quotation mark has been read, if its
pieces make one, and what follows its closing quotation mark. -/
def scanString (input : List Symbol) : Option (Option String × List Symbol) :=
  (scanPieces input).map fun (pieces, rest) => ((joinPieces pieces).map String.ofList, rest)

theorem scanString_length {input rest : List Symbol} {text : Option String}
    (scanned : scanString input = some (text, rest)) :
    rest.length < input.length := by
  simp only [scanString, Option.map_eq_some_iff, Prod.exists, Prod.mk.injEq] at scanned
  obtain ⟨pieces, after, run, _, rfl⟩ := scanned
  exact scanPieces_length run

end PodPlacement.Json
