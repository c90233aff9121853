import Mathlib.Control.Basic
import Mathlib.Data.List.Basic
import Mathlib.Data.List.Infix

/-!
# JSON documents as streams of elements

A pull parser reports a document element by element, and fails at what it knows nothing of:
at a literal, or at the sign of a number. A scanner that looks at the names only, and at no
more than the element that begins a value, does not see how the document is nested: it reads
the pairs of all objects as one list, in the order in which they stand, up to the first
failure.
-/

namespace IotgoFirmware.Library.JsonDocuments

set_option autoImplicit false

/-- What a call for the next element gives: one with its value, or a failure. -/
inductive JsonToken where
  | object
  | objectEnd
  | array
  | arrayEnd
  | comma
  | pairName (name : List UInt8)
  | pair
  | string (text : List UInt8)
  | number (value : Int)
  | failed
deriving DecidableEq

/-- A literal or a number is taken piece by piece: digits with the value that is read of them,
or another character. -/
inductive Piece where
  | number (value : Int)
  | other
deriving DecidableEq

inductive Json where
  | scalar (first : Piece) (later : List Piece)
  | string (text : List UInt8)
  | array (items : List Json)
  | object (members : List (List UInt8 × Json))

@[match_pattern]
def Json.number (value : Int) : Json :=
  .scalar (.number value) []

/-- `true` and `null`, of which no letter is known. -/
def Json.word : Json :=
  .scalar .other [.other, .other, .other]

/-- The names are compared as far as the one that is read goes. -/
def Matches (name key : List UInt8) : Prop :=
  name <+: key

instance (name key : List UInt8) : Decidable (Matches name key) :=
  inferInstanceAs (Decidable (name <+: key))

def Piece.token : Piece → JsonToken
  | .number value => .number value
  | .other => .failed

def Piece.isNumber : Piece → Bool
  | .number _ => true
  | .other => false

def Json.head : Json → JsonToken
  | .scalar first _ => first.token
  | .string text => .string text
  | .array _ => .array
  | .object _ => .object

section Tokens

/-- What stands behind an item: nothing, or a comma and the next ones. -/
def behindComma {Element : Type} (comma : Element) : List Element → List Element
  | [] => []
  | element :: rest => comma :: element :: rest

mutual

/-- The elements of a document, where the parser fails at scalars only. -/
def Json.tokens : Json → List JsonToken
  | .scalar first later => (first :: later).map Piece.token
  | .string text => [.string text]
  | .array items => .array :: (itemTokens items ++ [.arrayEnd])
  | .object members => .object :: (memberTokens members ++ [.objectEnd])

def itemTokens : List Json → List JsonToken
  | [] => []
  | item :: rest => item.tokens ++ behindComma .comma (itemTokens rest)

def memberTokens : List (List UInt8 × Json) → List JsonToken
  | [] => []
  | member :: rest => pairTokens member ++ behindComma .comma (memberTokens rest)

def pairTokens : List UInt8 × Json → List JsonToken
  | (name, value) => .pairName name :: .pair :: value.tokens

end

theorem tokens_head (value : Json) : ∃ rest, value.tokens = value.head :: rest := by
  cases value <;> exact ⟨_, rfl⟩

end Tokens

/-- What a scanner for names meets: a name with the element that begins its value, or a
failure. -/
inductive ScanItem where
  | pair (name : List UInt8) (head : JsonToken)
  | failure
deriving DecidableEq

section Items

def pieceItems : List Piece → List ScanItem
  | [] => []
  | .number _ :: later => pieceItems later
  | .other :: later => .failure :: pieceItems later

mutual

/-- Whether the parser holds an atom behind a value; `held` tells it of before, for a scalar. -/
def Json.holds (held : Bool) : Json → Bool
  | .scalar first later => held || (first :: later).any Piece.isNumber
  | .string _ => true
  | .array items => itemsHold false items
  | .object members => !members.isEmpty

def itemsHold (held : Bool) : List Json → Bool
  | [] => held
  | item :: rest => itemsHold (item.holds held) rest

end

/-- Behind a value of an object the parser fails where it holds no atom. -/
def closingItems (held : Bool) : List ScanItem :=
  if held then [] else [.failure]

mutual

/-- The pairs of all the objects of a document, and its failures. -/
def Json.items : Json → List ScanItem
  | .scalar first later => pieceItems (first :: later)
  | .string _ => []
  | .array items => arrayItems items
  | .object members => memberItems members

/-- Those behind the element that begins the value. -/
def Json.inner : Json → List ScanItem
  | .scalar _ later => pieceItems later
  | .string _ => []
  | .array items => arrayItems items
  | .object members => memberItems members

def arrayItems : List Json → List ScanItem
  | [] => []
  | item :: rest => item.items ++ arrayItems rest

def memberItems : List (List UInt8 × Json) → List ScanItem
  | [] => []
  | member :: rest => pairItems member ++ memberItems rest

def pairItems : List UInt8 × Json → List ScanItem
  | (name, value) => .pair name value.head :: (value.inner ++ closingItems (value.holds false))

end

theorem member_items_append (front back : List (List UInt8 × Json)) :
    memberItems (front ++ back) = memberItems front ++ memberItems back := by
  induction front with
  | nil => rfl
  | cons member front ih =>
      rw [List.cons_append, memberItems, memberItems, ih, List.append_assoc]

end Items

section Scanner

variable {State : Type*}

/-- At a name `take` sees what follows; it stops the scan, or changes the state and
consumes some elements. A failure that is not consumed ends the scan. -/
def scanNames (take : State → List UInt8 → List JsonToken → Except State (State × Nat)) :
    State → Nat → List JsonToken → Except State State
  | state, _, [] => .ok state
  | state, skip + 1, _ :: rest => scanNames take state skip rest
  | state, 0, .failed :: _ => .error state
  | state, 0, .pairName name :: rest =>
      match take state name rest with
      | .ok (next, consumed) => scanNames take next consumed rest
      | .error last => .error last
  | state, 0, _ :: rest => scanNames take state 0 rest

/-- The state when the scan ends, at the last element, at a failure or by itself. -/
def scanLast (take : State → List UInt8 → List JsonToken → Except State (State × Nat))
    (state : State) (tokens : List JsonToken) : State :=
  match scanNames take state 0 tokens with
  | .ok last => last
  | .error last => last

/-- `take` sees the element that begins the value, and consumes no other. -/
structure ReadsHead
    (take : State → List UInt8 → List JsonToken → Except State (State × Nat)) : Prop where
  sees : ∀ state name head more, take state name (.pair :: head :: more) =
    take state name [.pair, head]
  consumes : ∀ state name tokens next consumed,
    take state name tokens = .ok (next, consumed) → consumed ≤ 2

/-- A failure that begins a value is passed where it is consumed. -/
def takeItem (take : State → List UInt8 → List JsonToken → Except State (State × Nat))
    (state : State) : ScanItem → Except State State
  | .failure => .error state
  | .pair name head =>
      match take state name [.pair, head] with
      | .error last => .error last
      | .ok (next, consumed) =>
          if head = .failed ∧ consumed < 2 then .error next else .ok next

variable {take : State → List UInt8 → List JsonToken → Except State (State × Nat)}

theorem scan_skips {token : JsonToken} (state : State) (rest : List JsonToken)
    (unnamed : ∀ name, token ≠ .pairName name) (reported : token ≠ .failed) :
    scanNames take state 0 (token :: rest) = scanNames take state 0 rest := by
  cases token with
  | pairName name => exact absurd rfl (unnamed name)
  | failed => exact absurd rfl reported
  | _ => rfl

theorem head_not_name (value : Json) (name : List UInt8) : value.head ≠ .pairName name := by
  cases value with
  | scalar first later => cases first <;> exact JsonToken.noConfusion
  | _ => exact JsonToken.noConfusion

end Scanner

end IotgoFirmware.Library.JsonDocuments
