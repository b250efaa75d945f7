import PodPlacement.Json.Number
import PodPlacement.Json.Quoted

/-!
# Tokens

A JSON text is cut into tokens without looking at how they fit together. A
place where no token begins, or where one begins and does not end, is the token
`damage`, and nothing after it is read. A string whose text cannot be used and
a number beyond every floating-point number are still tokens, since they may
stand where nothing uses them.
-/

namespace PodPlacement.Json

open Text (Symbol)

/-- A token of a JSON text. -/
inductive Token where
  | openArray
  | closeArray
  | openObject
  | closeObject
  | colon
  | comma
  | null
  | bool (value : Bool)
  | number (value : Option Number)
  | string (text : Option String)
  | damage
  deriving DecidableEq, Repr

/-- The white space that may stand between tokens. -/
def isGap (c : Char) : Bool :=
  c = ' ' || c = '\t' || c = '\n' || c = '\r'

/-- The token at the beginning of a text that does not begin with white space,
and what follows it. -/
def scanToken : List Symbol → Token × List Symbol
  | some '[' :: rest => (.openArray, rest)
  | some ']' :: rest => (.closeArray, rest)
  | some '\x7b' :: rest => (.openObject, rest)
  | some '\x7d' :: rest => (.closeObject, rest)
  | some ':' :: rest => (.colon, rest)
  | some ',' :: rest => (.comma, rest)
  | some 'n' :: some 'u' :: some 'l' :: some 'l' :: rest => (.null, rest)
  | some 't' :: some 'r' :: some 'u' :: some 'e' :: rest => (.bool true, rest)
  | some 'f' :: some 'a' :: some 'l' :: some 's' :: some 'e' :: rest => (.bool false, rest)
  | some '"' :: rest =>
    match scanString rest with
    | some (text, rest) => (.string text, rest)
    | none => (.damage, [])
  | input =>
    match scanNumeral input with
    | some (numeral, rest) => (.number numeral.value?, rest)
    | none => (.damage, [])

/-- A token takes at least one symbol. -/
theorem scanToken_length (first : Symbol) (rest : List Symbol) :
    (scanToken (first :: rest)).2.length ≤ rest.length := by
  unfold scanToken
  split <;> simp_all only [List.cons.injEq, List.length_cons]
  all_goals try omega
  · split
    · next scanned => exact Nat.le_of_lt (scanString_length scanned)
    · simp
  · split
    · next scanned => exact Nat.le_of_lt_succ (scanNumeral_length scanned)
    · simp

/-- The tokens of a text. -/
def tokens : List Symbol → List Token
  | [] => []
  | none :: _ => [.damage]
  | some c :: rest =>
      if isGap c then tokens rest
      else (scanToken (some c :: rest)).1 :: tokens (scanToken (some c :: rest)).2
termination_by input => input.length
decreasing_by
  · simp
  · have := scanToken_length (some c) rest
    simp only [List.length_cons]
    omega

end PodPlacement.Json
