/-!
# Base64

Bytes are written in groups of three by four symbols of the standard alphabet.
A last group of one or two bytes is filled up to four characters with the
padding mark. Only what encoding produces can be decoded: padding is needed,
and the bits of the last symbol that belong to no byte are zero. An error says
what is wrong and at which offset.
-/

namespace PodPlacement.Base64

/-- Why bytes are not the encoding of anything. -/
inductive DecodeError where
  /-- A byte is no symbol, or padding where none may stand. -/
  | invalidSymbol (byte : UInt8) (offset : Nat)
  /-- The last group has a single symbol. -/
  | invalidLength (length : Nat)
  /-- The last group is not filled up. -/
  | invalidPadding
  /-- The last symbol has bits that belong to no byte. -/
  | invalidLastSymbol (byte : UInt8) (offset : Nat)
  deriving DecidableEq, Repr

/-- The message of an error. -/
def DecodeError.message : DecodeError → String
  | invalidSymbol byte offset =>
      "Invalid symbol " ++ toString byte.toNat ++ ", offset " ++ toString offset ++ "."
  | invalidLength length => "Invalid input length: " ++ toString length
  | invalidPadding => "Invalid padding"
  | invalidLastSymbol byte offset =>
      "Invalid last symbol " ++ toString byte.toNat ++ ", offset " ++ toString offset ++ "."

/-- The symbol of a value below sixty-four. -/
def symbol (value : Nat) : Char :=
  if value < 26 then Char.ofNat ('A'.toNat + value)
  else if value < 52 then Char.ofNat ('a'.toNat + (value - 26))
  else if value < 62 then Char.ofNat ('0'.toNat + (value - 52))
  else if value = 62 then '+'
  else '/'

/-- The padding mark. -/
def padding : UInt8 := '='.toUInt8

/-- The value of a byte that is a symbol. -/
def value? (byte : UInt8) : Option Nat :=
  let n := byte.toNat
  if 'A'.toNat ≤ n ∧ n ≤ 'Z'.toNat then some (n - 'A'.toNat)
  else if 'a'.toNat ≤ n ∧ n ≤ 'z'.toNat then some (n - 'a'.toNat + 26)
  else if '0'.toNat ≤ n ∧ n ≤ '9'.toNat then some (n - '0'.toNat + 52)
  else if n = '+'.toNat then some 62
  else if n = '/'.toNat then some 63
  else none

/-- The encoding of bytes. -/
def encode : List UInt8 → List Char
  | a :: b :: c :: rest =>
      symbol (a.toNat / 4) :: symbol (a.toNat % 4 * 16 + b.toNat / 16) ::
        symbol (b.toNat % 16 * 4 + c.toNat / 64) :: symbol (c.toNat % 64) :: encode rest
  | [a, b] =>
      [symbol (a.toNat / 4), symbol (a.toNat % 4 * 16 + b.toNat / 16),
        symbol (b.toNat % 16 * 4), '=']
  | [a] => [symbol (a.toNat / 4), symbol (a.toNat % 4 * 16), '=', '=']
  | [] => []

/-- The three bytes of four values. -/
def threeBytes (a b c d : Nat) : List UInt8 :=
  [UInt8.ofNat (a * 4 + b / 16), UInt8.ofNat (b % 16 * 16 + c / 4),
    UInt8.ofNat (c % 4 * 64 + d)]

/-- The value of the byte at an offset. -/
def valueAt (byte : UInt8) (offset : Nat) : Except DecodeError Nat :=
  match value? byte with
  | some value => .ok value
  | none => .error (.invalidSymbol byte offset)

/-- A group that is not the last one: four symbols. -/
def decodeGroup (offset : Nat) (a b c d : UInt8) : Except DecodeError (List UInt8) := do
  let a ← valueAt a offset
  let b ← valueAt b (offset + 1)
  let c ← valueAt c (offset + 2)
  let d ← valueAt d (offset + 3)
  return threeBytes a b c d

/-- The symbols of the last group, each with its value, and the number of
padding marks after them. The group begins at `offset`, of which `position`
bytes are read; `padded` of these are padding. -/
def scanLast (offset position padded : Nat) :
    List UInt8 → Except DecodeError (List (UInt8 × Nat) × Nat)
  | [] => .ok ([], padded)
  | byte :: rest =>
      if byte = padding then
        if position < 2 then .error (.invalidSymbol padding (offset + position))
        else scanLast offset (position + 1) (padded + 1) rest
      else if padded ≠ 0 then
        .error (.invalidSymbol padding (offset + position - padded))
      else do
        let value ← valueAt byte (offset + position)
        let (symbols, padded) ← scanLast offset (position + 1) padded rest
        return ((byte, value) :: symbols, padded)

/-- The last group, which may be padded. -/
def decodeLast (offset : Nat) (group : List UInt8) : Except DecodeError (List UInt8) := do
  let (symbols, padded) ← scanLast offset 0 0 group
  if symbols.length < 2 then throw (.invalidLength (offset + symbols.length))
  if symbols.length + padded ≠ 4 then throw .invalidPadding
  match symbols with
  | [(_, a), (last, b)] =>
      if b % 16 = 0 then return (threeBytes a b 0 0).take 1
      else throw (.invalidLastSymbol last (offset + 1))
  | [(_, a), (_, b), (last, c)] =>
      if c % 4 = 0 then return (threeBytes a b c 0).take 2
      else throw (.invalidLastSymbol last (offset + 2))
  | [(_, a), (_, b), (_, c), (_, d)] => return threeBytes a b c d
  | _ => throw .invalidPadding

/-- The groups from an offset on. -/
def decodeFrom (offset : Nat) : List UInt8 → Except DecodeError (List UInt8)
  | a :: b :: c :: d :: e :: rest => do
      let group ← decodeGroup offset a b c d
      let others ← decodeFrom (offset + 4) (e :: rest)
      return group ++ others
  | [] => .ok []
  | group => decodeLast offset group

/-- The last byte, if it stands alone in its group and is neither a symbol nor
padding. Such a byte is reported before all others. -/
def trailing? (input : List UInt8) : Option UInt8 :=
  if input.length % 4 = 1 then
    input.getLast?.filter fun byte => byte ≠ padding && (value? byte).isNone
  else none

/-- The bytes that an encoding stands for. -/
def decode (input : List UInt8) : Except DecodeError (List UInt8) :=
  match trailing? input with
  | some byte => .error (.invalidSymbol byte (input.length - 1))
  | none => decodeFrom 0 input

example : (decode ("aGk=".toList.map Char.toUInt8)).toOption = some [104, 105] := by
  decide +kernel

end PodPlacement.Base64
