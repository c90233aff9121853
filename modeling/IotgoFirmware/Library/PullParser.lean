import IotgoFirmware.Library.JsonDocuments

/-!
# A pull parser with a stack

The parser keeps what is open on a stack, and whether it holds an atom since something was
opened last. Behind a value of an object it wants one: where the value is empty, or a literal,
the parser fails at the comma or the brace, and takes the names behind it for strings. A scan
for names reads a document as its items.
-/

namespace IotgoFirmware.Library.PullParser

open IotgoFirmware.Library.JsonDocuments

set_option autoImplicit false

/-- The parts of a text, between which blanks may stand. -/
inductive Lexeme where
  | object
  | objectEnd
  | array
  | arrayEnd
  | comma
  | pair
  | quoted (text : List UInt8)
  | piece (piece : Piece)

/-- What is open. -/
inductive Level where
  | object
  | array
  | pair
deriving DecidableEq

structure ParserState where
  stack : List Level
  held : Bool

section Parser

variable (state : ParserState)

def pushed (level : Level) : ParserState :=
  ⟨level :: state.stack, false⟩

/-- A pair that holds an atom is closed by the next comma or brace. -/
def pairClosed : List Level :=
  match state.stack with
  | .pair :: outer => if state.held then outer else state.stack
  | _ => state.stack

/-- A call for the next element. -/
def parseNext : Lexeme → JsonToken × ParserState
  | .object => (.object, pushed state .object)
  | .pair => (.pair, pushed state .pair)
  | .array =>
      match state.stack with
      | [] => (.failed, state)
      | _ :: _ => (.array, pushed state .array)
  | .objectEnd =>
      match pairClosed state with
      | .object :: outer => (.objectEnd, ⟨outer, state.held⟩)
      | stack => (.failed, ⟨stack, state.held⟩)
  | .arrayEnd =>
      match state.stack with
      | .array :: outer => (.arrayEnd, ⟨outer, state.held⟩)
      | _ => (.failed, state)
  | .comma =>
      match state.stack with
      | .pair :: outer => if state.held then (.comma, ⟨outer, true⟩) else (.failed, state)
      | .array :: _ => (.comma, state)
      | _ => (.failed, state)
  | .quoted text =>
      match state.stack with
      | [] => (.failed, state)
      | .object :: _ => (.pairName text, ⟨state.stack, true⟩)
      | _ :: _ => (.string text, ⟨state.stack, true⟩)
  | .piece .other => (.failed, state)
  | .piece (.number value) =>
      match state.stack with
      | .array :: _ => (.number value, ⟨state.stack, true⟩)
      | .pair :: _ => (.number value, ⟨state.stack, true⟩)
      | _ => (.failed, state)

end Parser

def reports : ParserState → List Lexeme → List JsonToken
  | _, [] => []
  | state, lexeme :: rest =>
      (parseNext state lexeme).1 :: reports (parseNext state lexeme).2 rest

section Texts

mutual

def lexemes : Json → List Lexeme
  | .scalar first later => (first :: later).map .piece
  | .string text => [.quoted text]
  | .array items => .array :: (arrayLexemes items ++ [.arrayEnd])
  | .object members => .object :: (memberLexemes members ++ [.objectEnd])

def arrayLexemes : List Json → List Lexeme
  | [] => []
  | item :: rest => lexemes item ++ behindComma .comma (arrayLexemes rest)

def memberLexemes : List (List UInt8 × Json) → List Lexeme
  | [] => []
  | member :: rest => pairLexemes member ++ behindComma .comma (memberLexemes rest)

def pairLexemes : List UInt8 × Json → List Lexeme
  | (name, value) => .quoted name :: .pair :: lexemes value

end

/-- What is reported of a document, call by call. -/
def reported (document : Json) : List JsonToken :=
  reports ⟨[], false⟩ (lexemes document)

end Texts

section Whole

mutual

/-- Every value of an object leaves an atom with the parser. -/
def whole : Json → Bool
  | .scalar _ _ => true
  | .string _ => true
  | .array items => itemsWhole items
  | .object members => membersWhole members

def itemsWhole : List Json → Bool
  | [] => true
  | item :: rest => whole item && itemsWhole rest

def membersWhole : List (List UInt8 × Json) → Bool
  | [] => true
  | member :: rest => pairWhole member && membersWhole rest

def pairWhole : List UInt8 × Json → Bool
  | (_, value) => value.holds false && whole value

end

/-- A value may begin: an array is open, or a pair. -/
def ValueLevel : List Level → Prop
  | .array :: _ => True
  | .pair :: _ => True
  | _ => False

theorem reports_piece {stack : List Level} (level : ValueLevel stack) (held : Bool) (piece : Piece)
    (rest : List Lexeme) :
    reports ⟨stack, held⟩ (.piece piece :: rest) =
      piece.token :: reports ⟨stack, held || piece.isNumber⟩ rest := by
  cases piece with
  | other =>
      rw [Piece.isNumber, Bool.or_false]
      rfl
  | number value =>
      rw [Piece.isNumber, Bool.or_true]
      cases stack with
      | nil => exact level.elim
      | cons top outer =>
          cases top with
          | object => exact level.elim
          | array => rfl
          | pair => rfl

theorem reports_pieces {stack : List Level} (level : ValueLevel stack) (pieces : List Piece)
    (held : Bool) (rest : List Lexeme) :
    reports ⟨stack, held⟩ (pieces.map .piece ++ rest) =
      pieces.map Piece.token ++ reports ⟨stack, held || pieces.any Piece.isNumber⟩ rest := by
  induction pieces generalizing held with
  | nil =>
      rw [List.any_nil, Bool.or_false]
      rfl
  | cons piece pieces ih =>
      rw [List.map_cons, List.cons_append, reports_piece level, ih, List.any_cons, Bool.or_assoc]
      rfl

theorem lexemes_head (value : Json) : ∃ first rest, lexemes value = first :: rest := by
  cases value <;> exact ⟨_, _, rfl⟩

/-- The members of an object and its brace. -/
def ReportsMembers (members : List (List UInt8 × Json)) : Prop :=
  membersWhole members = true → ∀ stack held rest,
    reports ⟨.object :: stack, held⟩ (memberLexemes members ++ .objectEnd :: rest) =
      memberTokens members ++ .objectEnd :: reports ⟨stack, held || !members.isEmpty⟩ rest

def ReportsPair (member : List UInt8 × Json) : Prop :=
  pairWhole member = true → ∀ stack held rest,
    reports ⟨.object :: stack, held⟩ (pairLexemes member ++ rest) =
      pairTokens member ++ reports ⟨.pair :: .object :: stack, true⟩ rest

theorem reports_members_cons {member : List UInt8 × Json} {members : List (List UInt8 × Json)}
    (first : ReportsPair member) (later : ReportsMembers members) :
    ReportsMembers (member :: members) := by
  intro known stack held rest
  rw [membersWhole, Bool.and_eq_true] at known
  have behind := later known.2 stack true rest
  have closed : (held || !(member :: members).isEmpty) = true := by
    rw [List.isEmpty_cons, Bool.not_false, Bool.or_true]
  rw [Bool.true_or] at behind
  rw [memberLexemes, memberTokens, List.append_assoc, first known.1, closed, List.append_assoc]
  congr 1
  cases members with
  | nil => rfl
  | cons other members =>
      obtain ⟨name, value⟩ := other
      exact congrArg (JsonToken.comma :: ·) behind

/-- The parser reports the elements of a document in which it keeps its place. -/
theorem reports_tokens (value : Json) (known : whole value = true) :
    ∀ stack held rest, ValueLevel stack →
      reports ⟨stack, held⟩ (lexemes value ++ rest) =
        value.tokens ++ reports ⟨stack, value.holds held⟩ rest := by
  revert known
  apply @Json.rec
    (fun value => whole value = true → ∀ stack held rest, ValueLevel stack →
      reports ⟨stack, held⟩ (lexemes value ++ rest) =
        value.tokens ++ reports ⟨stack, value.holds held⟩ rest)
    (fun items => itemsWhole items = true → ∀ stack held rest,
      reports ⟨.array :: stack, held⟩ (arrayLexemes items ++ rest) =
        itemTokens items ++ reports ⟨.array :: stack, itemsHold held items⟩ rest)
    ReportsMembers ReportsPair
  · exact fun first later _ stack held rest level =>
      reports_pieces level (first :: later) held rest
  · intro text _ stack held rest level
    cases stack with
    | nil => exact level.elim
    | cons top outer =>
        cases top with
        | object => exact level.elim
        | array => rfl
        | pair => rfl
  · intro items ih known stack held rest level
    have inside := ih known stack false (.arrayEnd :: rest)
    simp only [lexemes, Json.tokens, List.cons_append, List.append_assoc, List.nil_append]
    cases stack with
    | nil => exact level.elim
    | cons top outer => exact congrArg (JsonToken.array :: ·) inside
  · intro members ih known stack held rest level
    simp only [lexemes, Json.tokens, List.cons_append, List.append_assoc, List.nil_append]
    exact congrArg (JsonToken.object :: ·) (ih known stack false rest)
  · exact fun _ stack held rest => rfl
  · intro item items first later known stack held rest
    rw [itemsWhole, Bool.and_eq_true] at known
    rw [arrayLexemes, itemTokens, List.append_assoc, first known.1 (.array :: stack) held _ trivial,
      List.append_assoc]
    congr 1
    have behind := later known.2 stack (item.holds held) rest
    cases items with
    | nil => exact behind
    | cons other items =>
        obtain ⟨first, more, begins⟩ := lexemes_head other
        obtain ⟨tail, tokens⟩ := tokens_head other
        rw [arrayLexemes, itemTokens, begins, tokens] at behind ⊢
        exact congrArg (JsonToken.comma :: ·) behind
  · intro _ stack held rest
    have closed : (held || !([] : List (List UInt8 × Json)).isEmpty) = held := by
      rw [List.isEmpty_nil, Bool.not_true, Bool.or_false]
    rw [closed]
    rfl
  · exact fun member members first later => reports_members_cons first later
  · intro name value nested known stack held rest
    rw [pairWhole, Bool.and_eq_true] at known
    have reported := nested known.2 (.pair :: .object :: stack) false rest trivial
    rw [known.1] at reported
    exact congrArg (JsonToken.pairName name :: JsonToken.pair :: ·) reported

end Whole

section Scan

variable {State : Type*}
  {take : State → List UInt8 → List JsonToken → Except State (State × Nat)}

/-- A failure that begins a value. -/
def headItems (value : Json) : List ScanItem :=
  if value.head = .failed then [.failure] else []

theorem items_head (value : Json) : value.items = headItems value ++ value.inner := by
  cases value with
  | scalar first later => cases first <;> rfl
  | string text => rfl
  | array items => rfl
  | object members => rfl

/-- The scan reads the items, and goes on in what is reported of the rest. -/
def ScansTo (take : State → List UInt8 → List JsonToken → Except State (State × Nat))
    (tokens : List JsonToken) (items : List ScanItem) (rest : List JsonToken) : Prop :=
  ∀ state, scanNames take state 0 tokens =
    items.foldlM (takeItem take) state >>= fun next => scanNames take next 0 rest

theorem scans_nil (tokens : List JsonToken) : ScansTo take tokens [] tokens :=
  fun _ => rfl

theorem scans_append {tokens middle rest : List JsonToken} {front back : List ScanItem}
    (first : ScansTo take tokens front middle) (later : ScansTo take middle back rest) :
    ScansTo take tokens (front ++ back) rest := by
  intro state
  rw [first, List.foldlM_append, bind_assoc]
  exact congrArg (front.foldlM (takeItem take) state >>= ·) (funext later)

theorem scans_skip {token : JsonToken} {tokens rest : List JsonToken} {items : List ScanItem}
    (unnamed : ∀ name, token ≠ .pairName name) (known : token ≠ .failed)
    (scans : ScansTo take tokens items rest) : ScansTo take (token :: tokens) items rest := by
  intro state
  rw [scan_skips state tokens unnamed known, scans]

theorem scans_failure (tokens rest : List JsonToken) :
    ScansTo take (.failed :: tokens) [.failure] rest :=
  fun _ => rfl

/-- Behind its first element a value is scanned to its end. -/
def ScansValue (take : State → List UInt8 → List JsonToken → Except State (State × Nat))
    (value : Json) : Prop :=
  ∀ stack held rest, ValueLevel stack →
    ∃ tail, reports ⟨stack, held⟩ (lexemes value ++ rest) = value.head :: tail ∧
      ScansTo take tail value.inner (reports ⟨stack, value.holds held⟩ rest)

theorem scans_pieces {stack : List Level} (level : ValueLevel stack) (pieces : List Piece)
    (held : Bool) (rest : List Lexeme) :
    ScansTo take (reports ⟨stack, held⟩ (pieces.map .piece ++ rest)) (pieceItems pieces)
      (reports ⟨stack, held || pieces.any Piece.isNumber⟩ rest) := by
  induction pieces generalizing held with
  | nil =>
      rw [List.any_nil, Bool.or_false]
      exact scans_nil _
  | cons piece pieces ih =>
      rw [List.map_cons, List.cons_append, reports_piece level, List.any_cons, ← Bool.or_assoc]
      cases piece with
      | number value =>
          exact scans_skip (fun _ => JsonToken.noConfusion) JsonToken.noConfusion (ih _)
      | other => exact scans_append (scans_failure _ _) (ih _)

theorem scans_comma {stack : List Level} {held : Bool} (tokens rest : List Lexeme)
    {items : List ScanItem} {behind : List JsonToken}
    (scans : ScansTo take (reports ⟨.array :: stack, held⟩ (tokens ++ rest)) items behind) :
    ScansTo take (reports ⟨.array :: stack, held⟩ (behindComma .comma tokens ++ rest)) items behind := by
  cases tokens with
  | nil => exact scans
  | cons token tokens =>
      exact scans_skip (fun _ => JsonToken.noConfusion) JsonToken.noConfusion scans

/-- A comma or the brace of the object follows. -/
def PairEnds : List Lexeme → Prop
  | .comma :: _ => True
  | .objectEnd :: _ => True
  | _ => False

/-- Where no atom is held the parser fails behind a value. -/
theorem scans_closing {rest : List Lexeme} (ends : PairEnds rest) (stack : List Level)
    (held : Bool) :
    ScansTo take (reports ⟨.pair :: .object :: stack, held⟩ rest) (closingItems held)
      (reports ⟨.pair :: .object :: stack, true⟩ rest) := by
  cases held with
  | true => exact scans_nil _
  | false =>
      cases rest with
      | nil => exact ends.elim
      | cons lexeme rest =>
          cases lexeme with
          | comma => exact scans_failure _ _
          | objectEnd => exact scans_failure _ _
          | _ => exact ends.elim

/-- A scanner passes `:` and the beginning of a value whether it has consumed them or not, but
for a failure. -/
theorem scan_consumed {head : JsonToken} {consumed : Nat} (state : State) (tail : List JsonToken)
    (unnamed : ∀ name, head ≠ .pairName name) (few : consumed ≤ 2) :
    scanNames take state consumed (.pair :: head :: tail) =
      if head = .failed ∧ consumed < 2 then .error state else scanNames take state 0 tail := by
  have two : consumed = 2 ∨ scanNames take state consumed (.pair :: head :: tail) =
      scanNames take state 0 (head :: tail) ∧ consumed < 2 := by
    obtain rfl | rfl | rfl : consumed = 0 ∨ consumed = 1 ∨ consumed = 2 := by omega
    · exact .inr ⟨rfl, by omega⟩
    · exact .inr ⟨rfl, by omega⟩
    · exact .inl rfl
  rcases two with rfl | ⟨same, less⟩
  · rw [if_neg fun both => absurd both.2 (Nat.lt_irrefl 2)]
    rfl
  · rw [same]
    by_cases failed : head = .failed
    · rw [if_pos ⟨failed, less⟩, failed]
      rfl
    · rw [if_neg fun both => failed both.1]
      exact scan_skips state tail unnamed failed

theorem scans_pair (reads : ReadsHead take) (name : List UInt8) {value : Json}
    (nested : ScansValue take value) (stack : List Level) (held : Bool) {rest : List Lexeme}
    (ends : PairEnds rest) :
    ScansTo take (reports ⟨.object :: stack, held⟩ (pairLexemes (name, value) ++ rest))
      (pairItems (name, value)) (reports ⟨.pair :: .object :: stack, true⟩ rest) := by
  obtain ⟨tail, begins, scans⟩ := nested (.pair :: .object :: stack) false rest trivial
  have inner := scans_append scans (scans_closing ends stack (value.holds false))
  have tokens : reports ⟨.object :: stack, held⟩ (pairLexemes (name, value) ++ rest) =
      .pairName name :: .pair :: value.head :: tail := by
    rw [← begins]
    rfl
  intro state
  rw [tokens, pairItems, List.foldlM_cons, bind_assoc, takeItem, scanNames, reads.sees]
  cases taken : take state name [.pair, value.head] with
  | error last => rfl
  | ok result =>
      obtain ⟨next, consumed⟩ := result
      dsimp only
      rw [scan_consumed next tail (head_not_name value) (reads.consumes _ _ _ _ _ taken)]
      split
      · rfl
      · exact inner next

/-- The members of an object and its brace. -/
def ScansMembers (take : State → List UInt8 → List JsonToken → Except State (State × Nat))
    (members : List (List UInt8 × Json)) : Prop :=
  ∀ stack held rest,
    ScansTo take (reports ⟨.object :: stack, held⟩ (memberLexemes members ++ .objectEnd :: rest))
      (memberItems members) (reports ⟨stack, held || !members.isEmpty⟩ rest)

theorem scans_members_nil : ScansMembers take [] := by
  intro stack held rest
  have closed : (held || !([] : List (List UInt8 × Json)).isEmpty) = held := by
    rw [List.isEmpty_nil, Bool.not_true, Bool.or_false]
  rw [closed]
  exact scans_skip (fun _ => JsonToken.noConfusion) JsonToken.noConfusion (scans_nil _)

theorem scans_members_cons {member : List UInt8 × Json} {members : List (List UInt8 × Json)}
    (first : ∀ stack held rest, PairEnds rest →
      ScansTo take (reports ⟨.object :: stack, held⟩ (pairLexemes member ++ rest))
        (pairItems member) (reports ⟨.pair :: .object :: stack, true⟩ rest))
    (later : ScansMembers take members) : ScansMembers take (member :: members) := by
  intro stack held rest
  rw [memberLexemes, memberItems, List.append_assoc]
  have more := later stack true rest
  cases listed : memberLexemes members with
  | nil =>
      rw [listed] at more
      have empty : members = [] := by
        cases members with
        | nil => rfl
        | cons other members =>
            obtain ⟨name, value⟩ := other
            cases listed
      subst empty
      refine scans_append (first stack held _ trivial) ?_
      have closed : (held || !(member :: ([] : List (List UInt8 × Json))).isEmpty) = true := by
        rw [List.isEmpty_cons, Bool.not_false, Bool.or_true]
      rw [closed]
      exact scans_skip (fun _ => JsonToken.noConfusion) JsonToken.noConfusion (scans_nil _)
  | cons lexeme lexemes =>
      rw [listed] at more
      refine scans_append (first stack held _ trivial) ?_
      have closed : (held || !(member :: members).isEmpty) = (true || !members.isEmpty) := by
        rw [List.isEmpty_cons, Bool.not_false, Bool.or_true, Bool.true_or]
      rw [closed]
      exact scans_skip (fun _ => JsonToken.noConfusion) JsonToken.noConfusion more

theorem scans_value (reads : ReadsHead take) (value : Json) : ScansValue take value := by
  apply @Json.rec (ScansValue take)
    (fun items => ∀ stack held rest,
      ScansTo take (reports ⟨.array :: stack, held⟩ (arrayLexemes items ++ rest))
        (arrayItems items) (reports ⟨.array :: stack, itemsHold held items⟩ rest))
    (ScansMembers take)
    (fun member => ∀ stack held rest, PairEnds rest →
      ScansTo take (reports ⟨.object :: stack, held⟩ (pairLexemes member ++ rest))
        (pairItems member) (reports ⟨.pair :: .object :: stack, true⟩ rest))
  · intro first later stack held rest level
    have scans := @scans_pieces _ take _ level later (held || first.isNumber) rest
    rw [Bool.or_assoc, ← List.any_cons] at scans
    refine ⟨_, ?_, scans⟩
    rw [lexemes, List.map_cons]
    exact reports_piece level held first (later.map .piece ++ rest)
  · intro text stack held rest level
    cases stack with
    | nil => exact level.elim
    | cons top outer =>
        cases top with
        | object => exact level.elim
        | array => exact ⟨_, rfl, scans_nil _⟩
        | pair => exact ⟨_, rfl, scans_nil _⟩
  · intro items ih stack held rest level
    have inside := ih stack false (.arrayEnd :: rest)
    have closed : ScansTo take
        (reports ⟨.array :: stack, itemsHold false items⟩ (.arrayEnd :: rest)) []
        (reports ⟨stack, itemsHold false items⟩ rest) :=
      scans_skip (fun _ => JsonToken.noConfusion) JsonToken.noConfusion (scans_nil _)
    have scans := scans_append inside closed
    rw [List.append_nil] at scans
    cases stack with
    | nil => exact level.elim
    | cons top outer =>
        refine ⟨_, ?_, scans⟩
        rw [lexemes, List.cons_append, List.append_assoc]
        rfl
  · intro members ih stack held rest level
    refine ⟨_, ?_, ih stack false rest⟩
    rw [lexemes, List.cons_append, List.append_assoc]
    rfl
  · exact fun stack held rest => scans_nil _
  · intro item items first later stack held rest
    rw [arrayLexemes, arrayItems, List.append_assoc, items_head]
    obtain ⟨tail, begins, scans⟩ := first (.array :: stack) held
      (behindComma .comma (arrayLexemes items) ++ rest) trivial
    rw [begins]
    have behind := scans_append scans (scans_comma _ rest (later stack (item.holds held) rest))
    rw [List.append_assoc]
    unfold headItems
    split
    · rename_i failed
      rw [failed]
      exact scans_append (scans_failure _ _) behind
    · rename_i known
      exact scans_skip (head_not_name item) known behind
  · exact scans_members_nil
  · exact fun member members first later => scans_members_cons first later
  · exact fun name value nested stack held rest ends => scans_pair reads name nested stack held ends

theorem scans_members (reads : ReadsHead take) (members : List (List UInt8 × Json)) :
    ScansMembers take members := by
  induction members with
  | nil => exact scans_members_nil
  | cons member members ih =>
      obtain ⟨name, value⟩ := member
      exact scans_members_cons (fun stack held rest ends =>
        scans_pair reads name (scans_value reads value) stack held ends) ih

/-- A scan reads an object as its items, wherever they are nested. -/
theorem scan_object (reads : ReadsHead take) (members : List (List UInt8 × Json)) (state : State) :
    scanNames take state 0 (reported (.object members)) =
      (memberItems members).foldlM (takeItem take) state := by
  have scanned : scanNames take state 0 (reported (.object members)) =
      (memberItems members).foldlM (takeItem take) state >>= Except.ok :=
    scans_members reads members [] false [] state
  rw [scanned]
  exact bind_pure _

end Scan

end IotgoFirmware.Library.PullParser
