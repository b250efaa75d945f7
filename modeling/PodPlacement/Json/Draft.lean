import PodPlacement.Json.Token

/-!
# Drafts

A draft is what a text says up to the first place where it stops being JSON.
It is a tree like a JSON value, except that a value may be damaged, a list of
items or members may break off instead of being closed, and strings and numbers
that cannot be used are kept as such.

The tokens of a text are assembled from left to right. The containers that are
still open are kept as frames, innermost first, so that each token is one step;
at the first token that does not fit, the open containers break off. A reader
that walks through a draft in the order of the text therefore meets the first
problem of the text first, be it damage or a value that it does not want.
-/

namespace PodPlacement.Json

open Text (Symbol)

mutual

/-- A value as far as its text goes. -/
inductive Draft where
  | null
  | bool (value : Bool)
  /-- A number, without a value when it is beyond every floating-point number. -/
  | number (value : Option Number)
  /-- A string, without a text when its literal does not make one. -/
  | string (text : Option String)
  | array (items : Items)
  | object (members : Members)
  /-- No value stands where one should. -/
  | damage

/-- The items of an array as far as its text goes. -/
inductive Items where
  /-- The closing bracket. -/
  | close
  /-- Neither a closing bracket nor another item. -/
  | breakOff
  | item (first : Draft) (rest : Items)

/-- The members of an object as far as its text goes. -/
inductive Members where
  /-- The closing bracket. -/
  | close
  /-- Neither a closing bracket nor another member. -/
  | breakOff
  | member (key : Option String) (value : Draft) (rest : Members)

end

/-- The items of a list, in front of others. -/
def Items.prepend (items : List Draft) (rest : Items) : Items :=
  items.foldr .item rest

/-- The members of a list, in front of others. -/
def Members.prepend (members : List (Option String × Draft)) (rest : Members) : Members :=
  members.foldr (fun member rest => .member member.1 member.2 rest) rest

/-- An open container whose next value is awaited: the items read so far, or
the members read so far and the key of the value. What was read last stands
first. -/
inductive Frame where
  | array (before : List Draft)
  | object (before : List (Option String × Draft)) (key : Option String)

/-- What the tokens read so far amount to. -/
inductive Progress where
  /-- A value must follow. -/
  | awaitValue (frames : List Frame)
  /-- An array was opened: an item or its end must follow. -/
  | awaitFirstItem (frames : List Frame)
  /-- An item was read: a comma or the array's end must follow. -/
  | afterItem (items : List Draft) (frames : List Frame)
  /-- An object was opened: a key or its end must follow. -/
  | awaitFirstKey (frames : List Frame)
  /-- A comma was read in an object: a key must follow. -/
  | awaitKey (before : List (Option String × Draft)) (frames : List Frame)
  /-- A key was read: a colon must follow. -/
  | awaitColon (before : List (Option String × Draft)) (key : Option String)
      (frames : List Frame)
  /-- A member was read: a comma or the object's end must follow. -/
  | afterMember (members : List (Option String × Draft)) (frames : List Frame)
  /-- The value is complete, and nothing must follow. -/
  | done (draft : Draft)
  /-- Something follows the complete value. -/
  | overrun (draft : Draft)

namespace Progress

/-- A value is complete: the innermost open container goes on. -/
def resume (draft : Draft) : List Frame → Progress
  | [] => .done draft
  | .array before :: frames => .afterItem (draft :: before) frames
  | .object before key :: frames => .afterMember ((key, draft) :: before) frames

/-- The value that breaks off with `draft` inside the open containers. -/
def abandon (draft : Draft) : List Frame → Draft
  | [] => draft
  | .array before :: frames =>
      abandon (.array (.prepend before.reverse (.item draft .breakOff))) frames
  | .object before key :: frames =>
      abandon (.object (.prepend before.reverse (.member key draft .breakOff))) frames

/-- What the text read so far says, if it says no more. -/
def draft : Progress → Draft
  | .awaitValue frames => abandon .damage frames
  | .awaitFirstItem frames => abandon (.array .breakOff) frames
  | .afterItem items frames => abandon (.array (.prepend items.reverse .breakOff)) frames
  | .awaitFirstKey frames => abandon (.object .breakOff) frames
  | .awaitKey before frames => abandon (.object (.prepend before.reverse .breakOff)) frames
  | .awaitColon before key frames =>
      abandon (.object (.prepend before.reverse (.member key .damage .breakOff))) frames
  | .afterMember members frames =>
      abandon (.object (.prepend members.reverse .breakOff)) frames
  | .done draft => draft
  | .overrun draft => draft

/-- A token where a value must follow. -/
def begin (frames : List Frame) : Token → Progress
  | .openArray => .awaitFirstItem frames
  | .openObject => .awaitFirstKey frames
  | .null => resume .null frames
  | .bool value => resume (.bool value) frames
  | .number value => resume (.number value) frames
  | .string text => resume (.string text) frames
  | _ => .overrun (abandon .damage frames)

/-- One more token. -/
def step (progress : Progress) (token : Token) : Progress :=
  match progress, token with
  | .awaitValue frames, token => begin frames token
  | .awaitFirstItem frames, .closeArray => resume (.array .close) frames
  | .awaitFirstItem frames, token => begin (.array [] :: frames) token
  | .afterItem items frames, .comma => .awaitValue (.array items :: frames)
  | .afterItem items frames, .closeArray =>
      resume (.array (.prepend items.reverse .close)) frames
  | .awaitFirstKey frames, .closeObject => resume (.object .close) frames
  | .awaitFirstKey frames, .string key => .awaitColon [] key frames
  | .awaitKey before frames, .string key => .awaitColon before key frames
  | .awaitColon before key frames, .colon => .awaitValue (.object before key :: frames)
  | .afterMember members frames, .comma => .awaitKey members frames
  | .afterMember members frames, .closeObject =>
      resume (.object (.prepend members.reverse .close)) frames
  | progress, _ => .overrun progress.draft

end Progress

/-- What a text says: its draft, and whether the text ends with it. -/
structure Reading where
  draft : Draft
  ends : Bool

/-- What a list of tokens says. -/
def Reading.ofTokens (tokens : List Token) : Reading :=
  match tokens.foldl Progress.step (.awaitValue []) with
  | .done draft => ⟨draft, true⟩
  | progress => ⟨progress.draft, false⟩

/-- What a list of symbols says. -/
def Reading.ofSymbols (input : List Symbol) : Reading :=
  .ofTokens (tokens input)

end PodPlacement.Json
