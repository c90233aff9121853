import IotgoFirmware.Json.ItemParsing

/-!
# Reading of printed texts

How the parser gets through the text of an item, wherever it stands. A text that it does not
get through leaves it at a point, which no array and no object goes on with.
-/

namespace IotgoFirmware.Json.ItemReading

open IotgoFirmware.Library.CStrings IotgoFirmware.Library.CFaults IotgoFirmware.Library.Doubles
open IotgoFirmware.Library.CJsonItems
open IotgoFirmware.Json.StringTexts IotgoFirmware.Json.StringSafety
open IotgoFirmware.Json.ItemPrinting IotgoFirmware.Json.ItemParsing

set_option autoImplicit false

/-- No byte of a number follows. -/
def Follows (rest : List UInt8) : Prop :=
  ∃ byte more, rest = byte :: more ∧ isDigit byte = false ∧ byte ≠ 46


/-- Bytes that `skip` passes over. -/
def Blanks (text : List UInt8) : Prop :=
  ∀ byte ∈ text, byte ≠ 0 ∧ byte ≤ 32

/-- A byte at which `skip` stops. -/
def Stands (byte : UInt8) : Prop :=
  32 < byte

section Blanks

variable {double : CDouble} {byte : UInt8} {front memory value rest : List UInt8} {calls : Nat}

theorem skip_stands (stands : Stands byte) (rest : List UInt8) :
    skip (byte :: rest) = .ok (byte :: rest) := by
  refine if_neg ?_
  rintro ⟨-, small⟩
  unfold Stands at stands
  simp only [UInt8.lt_iff_toNat_lt, UInt8.le_iff_toNat_le] at stands small
  omega

theorem skip_blanks (blanks : Blanks front) (value : List UInt8) :
    skip (front ++ value) = skip value := by
  induction front with
  | nil => rfl
  | cons byte front ih =>
      have first := blanks byte List.mem_cons_self
      rw [List.cons_append, skip, if_pos first]
      exact ih fun other member => blanks other (List.mem_cons_of_mem byte member)

theorem skip_idem (skipped : skip value = .ok memory) : skip memory = .ok memory := by
  induction value with
  | nil => cases skipped
  | cons byte value ih =>
      by_cases blank : byte ≠ 0 ∧ byte ≤ 32
      · rw [skip, if_pos blank] at skipped
        exact ih skipped
      · have stays : skip (byte :: value) = .ok (byte :: value) := if_neg blank
        rw [stays] at skipped
        cases skipped
        exact stays

theorem parse_items_skip (skipped : skip value = .ok memory) :
    parseItems double (calls + 1) memory = parseItems double (calls + 1) value := by
  rw [parseItems, parseItems, skipped, skip_idem skipped]

theorem parse_members_skip (skipped : skip value = .ok memory) :
    parseMembers double (calls + 1) memory = parseMembers double (calls + 1) value := by
  rw [parseMembers, parseMembers, skipped, skip_idem skipped]

theorem blanks_nil : Blanks [] :=
  fun _ absent => absurd absent List.not_mem_nil

theorem blanks_append {back : List UInt8} (first : Blanks front) (second : Blanks back) :
    Blanks (front ++ back) := by
  intro byte member
  rcases List.mem_append.1 member with member | member
  · exact first byte member
  · exact second byte member

theorem blanks_tabs (fmt : Bool) (count : Nat) : Blanks (tabs fmt count) := by
  unfold tabs
  split
  · intro byte member
    rw [List.eq_of_mem_replicate member]
    decide
  · exact blanks_nil

theorem blanks_line_end (fmt : Bool) : Blanks (lineEnd fmt) := by
  unfold lineEnd
  split
  · intro byte member
    rw [List.mem_singleton.1 member]
    decide
  · exact blanks_nil

theorem blanks_space (fmt : Bool) : Blanks (if fmt then [32] else []) := by
  split
  · intro byte member
    rw [List.mem_singleton.1 member]
    decide
  · exact blanks_nil

theorem follows_blanks (blanks : Blanks front) (follows : Follows rest) :
    Follows (front ++ rest) := by
  cases front with
  | nil => exact follows
  | cons byte front =>
      have small := (blanks byte List.mem_cons_self).2
      refine ⟨byte, front ++ rest, rfl, ?_, ?_⟩
      · rw [Bool.eq_false_iff]
        intro digit
        rw [is_digit_iff] at digit
        simp only [UInt8.le_iff_toNat_le, UInt8.reduceToNat] at small
        omega
      · rintro rfl
        exact absurd small (by decide)

/-- The byte that closes an array or an object, or parts its children. -/
theorem follows_mark (mark : byte = 44 ∨ byte = 93 ∨ byte = 125 ∨ byte = 0)
    (rest : List UInt8) : Follows (byte :: rest) := by
  rcases mark with rfl | rfl | rfl | rfl <;> exact ⟨_, rest, rfl, rfl, by decide⟩

end Blanks

/-- What a reader makes of a text in front of `rest`. It reads a text that is fine; of another
one it makes nothing, or stays at a point. -/
structure Ends {Value : Type} (fine : Prop) (good : Value → Prop) (rest : List UInt8)
    (run : Checked (Option (Value × List UInt8))) : Prop where
  read : fine → ∃ value, run = .ok (some (value, rest)) ∧ good value
  sticks : ¬fine → run = .ok none ∨ ∃ value behind, run = .ok (some (value, 46 :: behind))

/-- The same without a point to stay at. -/
structure Reads {Value : Type} (fine : Prop) (good : Value → Prop) (rest : List UInt8)
    (run : Checked (Option (Value × List UInt8))) : Prop where
  read : fine → ∃ value, run = .ok (some (value, rest)) ∧ good value
  refuses : ¬fine → run = .ok none

section Ends

variable {Value : Type} {fine other : Prop} {good better : Value → Prop} {rest : List UInt8}
  {run : Checked (Option (Value × List UInt8))} {value : Value}

theorem ends_of_reads (reads : Reads fine good rest run) : Ends fine good rest run :=
  ⟨reads.read, fun refused => .inl (reads.refuses refused)⟩

theorem ends_of_run (done : run = .ok (some (value, rest))) (is : good value) :
    Ends True good rest run :=
  ⟨fun _ => ⟨value, done, is⟩, fun never => absurd trivial never⟩

theorem ends_mono (same : fine ↔ other) (implied : ∀ value, good value → better value)
    (ends : Ends fine good rest run) : Ends other better rest run := by
  constructor
  · intro holds
    obtain ⟨value, done, is⟩ := ends.read (same.2 holds)
    exact ⟨value, done, implied value is⟩
  · exact fun fails => ends.sticks fun holds => fails (same.1 holds)

end Ends

section Between

variable {Child : Type} {close first byte : UInt8} {make : List Child → CJsonItem}
  {children : Reader Child} {items : List Child} {value more rest : List UInt8}

theorem parse_between_empty (skipped : skip value = .ok (close :: rest)) :
    parseBetween close make children (first :: value) = .ok (some (make [], rest)) := by
  have read : byteAt (close :: rest) 0 = .ok close := rfl
  unfold parseBetween
  rw [List.drop_one, List.tail_cons, skipped, bind_ok, read, bind_ok, if_pos rfl]
  rfl

/-- Between the brackets nothing may be left over. -/
theorem parse_between_reads {fine : Prop} {good : List Child → Prop}
    (skipped : skip value = .ok (byte :: more)) (other : byte ≠ close) (point : 46 ≠ close)
    (ends : Ends fine good (close :: rest) (children (byte :: more))) :
    Reads fine (fun item => ∃ items, item = make items ∧ good items) rest
      (parseBetween close make children (first :: value)) := by
  have here : byteAt (byte :: more) 0 = .ok byte := rfl
  have behind : byteAt (close :: rest) 0 = .ok close := rfl
  unfold parseBetween
  rw [List.drop_one, List.tail_cons, skipped, bind_ok, here, bind_ok, if_neg other]
  constructor
  · intro holds
    obtain ⟨items, done, is⟩ := ends.read holds
    rw [done, bind_ok]
    dsimp only
    rw [behind, bind_ok, if_pos rfl]
    exact ⟨make items, rfl, items, rfl, is⟩
  · intro fails
    rcases ends.sticks fails with none | ⟨items, stuck, some⟩
    · rw [none]
      rfl
    · have pointed : byteAt (46 :: stuck) 0 = .ok 46 := rfl
      rw [some, bind_ok]
      dsimp only
      rw [pointed, bind_ok, if_neg point]
      rfl

theorem parse_later_last {child : Child} (skipped : skip value = .ok (byte :: rest))
    (other : byte ≠ 44) : parseLater children child value = .ok (some ([child], byte :: rest)) := by
  have read : byteAt (byte :: rest) 0 = .ok byte := rfl
  unfold parseLater
  rw [skipped, bind_ok, read, bind_ok, if_neg other]
  rfl

theorem parse_later_comma {child : Child} {fine : Prop} {good : List Child → Prop}
    (ends : Ends fine good rest (children more)) :
    Ends fine (fun items => ∃ others, items = child :: others ∧ good others) rest
      (parseLater children child (44 :: more)) := by
  have comma : byteAt (44 :: more) 0 = .ok 44 := rfl
  unfold parseLater
  rw [skip_stands (by decide : (32 : UInt8) < 44), bind_ok, comma, bind_ok, if_pos rfl,
    List.drop_one, List.tail_cons]
  constructor
  · intro holds
    obtain ⟨others, done, is⟩ := ends.read holds
    rw [done]
    exact ⟨child :: others, rfl, others, rfl, is⟩
  · intro fails
    rcases ends.sticks fails with none | ⟨others, stuck, some⟩
    · rw [none]
      exact .inl rfl
    · rw [some]
      exact .inr ⟨child :: others, stuck, rfl⟩

/-- A child, and the children behind it. -/
theorem parse_children_ends {wrap : CJsonItem → Child} {between : List UInt8}
    {run : Checked (Option (CJsonItem × List UInt8))}
    {next : Option (CJsonItem × List UInt8) → Checked (Option (List Child × List UInt8))}
    {fine others : Prop} {good : CJsonItem → Prop} {goodLater : CJsonItem → List Child → Prop}
    (refused : next none = .ok none)
    (taken : ∀ child value, next (some (child, value)) = parseLater children (wrap child) value)
    (ends : Ends fine good between run)
    (later : ∀ child, good child →
      Ends others (goodLater child) rest (parseLater children (wrap child) between)) :
    Ends (fine ∧ others) (fun items => ∃ child, good child ∧ goodLater child items) rest
      (run >>= next) := by
  constructor
  · rintro ⟨here, behind⟩
    obtain ⟨child, done, is⟩ := ends.read here
    obtain ⟨items, last, are⟩ := (later child is).read behind
    rw [done, bind_ok, taken, last]
    exact ⟨items, rfl, child, is, are⟩
  · intro fails
    by_cases here : fine
    · obtain ⟨child, done, is⟩ := ends.read here
      rw [done, bind_ok, taken]
      exact (later child is).sticks fun behind => fails ⟨here, behind⟩
    · rcases ends.sticks here with none | ⟨child, stuck, some⟩
      · rw [none, bind_ok, refused]
        exact .inl rfl
      · rw [some, bind_ok, taken, parse_later_last (skip_stands (by unfold Stands; decide) stuck)
          (by decide)]
        exact .inr ⟨[wrap child], stuck, rfl⟩

end Between

section Values

variable {double : CDouble} {fmt : Bool} {rest value : List UInt8} {calls depth : Nat}

theorem int_text_first (value : Int) :
    ∃ first tail, intText value = first :: tail ∧ (first = 45 ∨ isDigit first = true) := by
  unfold intText
  split
  · exact ⟨45, _, rfl, .inl rfl⟩
  · obtain ⟨first, tail, text⟩ := List.exists_cons_of_ne_nil (decimal_text_ne_nil value.natAbs)
    exact ⟨first, tail, text, .inr (decimal_text_digits _ first (by rw [text]; simp))⟩

theorem number_text_first (double : CDouble) (valueint : Int) (valuedouble : Rat) :
    ∃ first tail, numberText double valueint valuedouble = first :: tail ∧
      (first = 45 ∨ isDigit first = true) := by
  obtain ⟨first, tail, text, numeral⟩ := int_text_first valueint
  unfold numberText
  split
  · exact ⟨48, [], rfl, .inr rfl⟩
  · split
    · exact ⟨first, tail, text, numeral⟩
    · exact ⟨first, _, by rw [text]; rfl, numeral⟩

theorem numeral_bounds {first : UInt8} (numeral : first = 45 ∨ isDigit first = true) :
    45 ≤ first.toNat ∧ first.toNat ≤ 57 := by
  rcases numeral with rfl | digit
  · decide
  · rw [is_digit_iff] at digit
    omega

/-- An item is not taken for blanks, nor for the end of an array. -/
theorem item_text_first (double : CDouble) (fmt : Bool) (item : CJsonItem) (depth : Nat) :
    ∃ first tail, itemText double fmt depth item = first :: tail ∧ Stands first ∧ first ≠ 93 := by
  cases item with
  | false => exact ⟨102, _, rfl, by unfold Stands; decide, by decide⟩
  | true => exact ⟨116, _, rfl, by unfold Stands; decide, by decide⟩
  | null => exact ⟨110, _, rfl, by unfold Stands; decide, by decide⟩
  | string valuestring => exact ⟨34, _, rfl, by unfold Stands; decide, by decide⟩
  | array children => exact ⟨91, _, rfl, by unfold Stands; decide, by decide⟩
  | object children => exact ⟨123, _, rfl, by unfold Stands; decide, by decide⟩
  | number valueint valuedouble =>
      obtain ⟨first, tail, text, numeral⟩ :=
        number_text_first double valueint valuedouble
      have bounds := numeral_bounds numeral
      refine ⟨first, tail, text, ?_, ?_⟩
      · unfold Stands
        rw [UInt8.lt_iff_toNat_lt]
        exact Nat.lt_of_lt_of_le (by decide) bounds.1
      · rintro rfl
        exact absurd bounds.2 (by decide)

/-- A value is told by its first byte. -/
theorem parse_value_first {first : UInt8} (plain : first ≠ 110 ∧ first ≠ 102 ∧ first ≠ 116) :
    parseValue double (calls + 1) (first :: value) =
      if first = 34 then do
        let read ← parseString (first :: value)
        return read.map fun (valuestring, rest) => (.string valuestring, rest)
      else if first = 45 ∨ isDigit first then do
        let read ← parseNumber double (first :: value)
        return some read
      else if first = 91 then parseArray (parseItems double calls) (first :: value)
      else if first = 123 then parseObject (parseMembers double calls) (first :: value)
      else return none := by
  have noNull : startsWith (asciiBytes "null") (first :: value) = .ok false := if_neg plain.1
  have noFalse : startsWith (asciiBytes "false") (first :: value) = .ok false := if_neg plain.2.1
  have noTrue : startsWith (asciiBytes "true") (first :: value) = .ok false := if_neg plain.2.2
  rw [parseValue, noNull, bind_ok, if_neg Bool.false_ne_true, noFalse, bind_ok,
    if_neg Bool.false_ne_true, noTrue, bind_ok, if_neg Bool.false_ne_true]
  rfl

theorem parse_value_string {text : List UInt8} (nulFree : (0 : UInt8) ∉ text)
    (rest : List UInt8) :
    parseValue double (calls + 1) (quoted text ++ rest) = .ok (some (.string text, rest)) := by
  have whole := parse_string_quoted nulFree rest
  rw [quoted, List.cons_append] at whole ⊢
  rw [parse_value_first (by decide), if_pos rfl, whole]
  rfl

/-- What is read at a numeral is the value. -/
theorem parse_value_numeral {number : Int} {item : CJsonItem} {behind : List UInt8}
    (parsed : parseNumber double (intText number ++ value) = .ok (item, behind)) :
    parseValue double (calls + 1) (intText number ++ value) = .ok (some (item, behind)) := by
  obtain ⟨first, tail, text, numeral⟩ := int_text_first number
  have bounds := numeral_bounds numeral
  have other : ∀ byte : UInt8, 57 < byte.toNat → first ≠ byte := by
    rintro byte large rfl
    omega
  have quote : first ≠ 34 := by
    rintro rfl
    exact absurd bounds.1 (by decide)
  rw [text, List.cons_append] at parsed ⊢
  rw [parse_value_first ⟨other 110 (by decide), other 102 (by decide), other 116 (by decide)⟩,
    if_neg quote, if_pos numeral, parsed]
  rfl

/-- The text of an item, in any place of a document, is read if it is fine, as something
good. -/
def ParsesBack (double : CDouble) (fmt : Bool) (fine : Prop) (good : CJsonItem → Prop)
    (item : CJsonItem) : Prop :=
  ∀ depth rest calls, Follows rest → 2 * (itemText double fmt depth item).length + 1 ≤ calls →
    Ends fine good rest (parseValue double calls (itemText double fmt depth item ++ rest))

theorem string_parses_back (double : CDouble) (fmt : Bool) (valuestring : List UInt8) :
    ParsesBack double fmt True (fun value => value = .string (cString valuestring))
      (.string valuestring) := by
  intro depth rest calls follows enough
  obtain ⟨calls, rfl⟩ : ∃ more, calls = more + 1 := ⟨calls - 1, by omega⟩
  exact ends_of_run (parse_value_string (c_string_nul_free valuestring) rest) rfl

/-- `null`, `false` and `true`. -/
theorem literal_parses_back {item : CJsonItem} (literal : item = .null ∨ item = .false ∨ item = .true)
    (double : CDouble) (fmt : Bool) : ParsesBack double fmt True (fun value => value = item) item := by
  intro depth rest calls follows enough
  obtain ⟨calls, rfl⟩ : ∃ more, calls = more + 1 := ⟨calls - 1, by omega⟩
  rcases literal with rfl | rfl | rfl <;> exact ends_of_run rfl rfl

theorem array_text_cons (entry next : List UInt8) (entries : List (List UInt8)) :
    arrayText fmt (entry :: next :: entries) =
      entry ++ 44 :: ((if fmt then [32] else []) ++ arrayText fmt (next :: entries)) := by
  simp [arrayText]

theorem array_text_first (double : CDouble) (fmt : Bool) (child : CJsonItem)
    (children : List CJsonItem) (depth : Nat) :
    ∃ first tail, arrayText fmt ((child :: children).map (itemText double fmt depth)) =
      first :: tail ∧ Stands first ∧ first ≠ 93 := by
  obtain ⟨first, tail, text, stands, other⟩ := item_text_first double fmt child depth
  exact ⟨first, _, by rw [List.map_cons, arrayText, text]; rfl, stands, other⟩

theorem parse_items_text {fine : CJsonItem → Prop} {same : CJsonItem → CJsonItem → Prop}
    {child : CJsonItem} {children : List CJsonItem}
    (each : ∀ other ∈ child :: children, ParsesBack double fmt (fine other) (same other) other)
    (depth : Nat)
    (enough : 2 * (arrayText fmt ((child :: children).map (itemText double fmt depth))).length + 2 ≤
      calls) :
    Ends (∀ other ∈ child :: children, fine other) (List.Forall₂ same (child :: children))
      (93 :: rest) (parseItems double calls
        (arrayText fmt ((child :: children).map (itemText double fmt depth)) ++ 93 :: rest)) := by
  induction children generalizing child calls with
  | nil =>
      obtain ⟨calls, rfl⟩ : ∃ more, calls = more + 1 := ⟨calls - 1, by omega⟩
      have text : arrayText fmt ([child].map (itemText double fmt depth)) =
          itemText double fmt depth child := by
        simp [arrayText]
      obtain ⟨first, tail, begins, stands, -⟩ := item_text_first double fmt child depth
      have parsed := each child List.mem_cons_self depth (93 :: rest) calls
        (follows_mark (.inr (.inl rfl)) rest) (by rw [text] at enough; omega)
      have skipped : skip (itemText double fmt depth child ++ 93 :: rest) =
          .ok (itemText double fmt depth child ++ 93 :: rest) := by
        rw [begins, List.cons_append]
        exact skip_stands stands _
      rw [text, parseItems, skipped, bind_ok]
      refine ends_mono ?_ ?_ (@parse_children_ends _ (parseItems double calls) (93 :: rest) id _ _ _
        _ _ _ _ rfl (fun _ _ => rfl) parsed fun value is => ends_of_run
          (parse_later_last (skip_stands (by unfold Stands; decide) rest) (by decide))
          (show [value] = [value] from rfl))
      · simp
      · rintro items ⟨value, is, rfl⟩
        exact .cons is .nil
  | cons next children ih =>
      obtain ⟨calls, rfl⟩ : ∃ more, calls = more + 1 := ⟨calls - 1, by omega⟩
      obtain ⟨calls, rfl⟩ : ∃ more, calls = more + 1 := ⟨calls - 1, by
        simp only [List.map_cons, array_text_cons, List.length_append, List.length_cons] at enough
        omega⟩
      rw [List.map_cons, List.map_cons, array_text_cons] at enough ⊢
      rw [← List.map_cons (f := itemText double fmt depth)] at enough ⊢
      obtain ⟨first, tail, begins, stands, -⟩ := item_text_first double fmt child depth
      obtain ⟨second, more, follows, standsNext, -⟩ := array_text_first double fmt next
        children depth
      simp only [List.length_append, List.length_cons] at enough
      have whole : itemText double fmt depth child ++ 44 :: ((if fmt then [32] else []) ++
          arrayText fmt ((next :: children).map (itemText double fmt depth))) ++ 93 :: rest =
          itemText double fmt depth child ++ (44 :: ((if fmt then [32] else []) ++
            (arrayText fmt ((next :: children).map (itemText double fmt depth)) ++
              93 :: rest))) := by
        simp
      have parsed := each child List.mem_cons_self depth (44 :: ((if fmt then [32] else []) ++
        (arrayText fmt ((next :: children).map (itemText double fmt depth)) ++ 93 :: rest)))
        (calls + 1) (follows_mark (.inl rfl) _) (by omega)
      have skipped : ∀ memory, skip (itemText double fmt depth child ++ memory) =
          .ok (itemText double fmt depth child ++ memory) := by
        intro memory
        rw [begins, List.cons_append]
        exact skip_stands stands _
      have enoughLater : 2 * (arrayText fmt ((next :: children).map
          (itemText double fmt depth))).length + 2 ≤ calls + 1 := by omega
      have later := ih (fun other member => each other (List.mem_cons_of_mem child member))
        enoughLater
      have blank : skip ((if fmt then [32] else []) ++
          (arrayText fmt ((next :: children).map (itemText double fmt depth)) ++ 93 :: rest)) =
          .ok (arrayText fmt ((next :: children).map (itemText double fmt depth)) ++
            93 :: rest) := by
        rw [skip_blanks (blanks_space fmt), follows, List.cons_append]
        exact skip_stands standsNext _
      rw [parse_items_skip blank] at later
      rw [whole, parseItems, skipped, bind_ok]
      refine ends_mono ?_ ?_ (@parse_children_ends _ (parseItems double (calls + 1)) (93 :: rest) id
        _ _ _ _ _ _ _ rfl (fun _ _ => rfl) parsed fun value is =>
          @parse_later_comma _ _ _ _ value _ _ later)
      · simp
      · rintro items ⟨value, is, others, rfl, are⟩
        exact .cons is are

/-- The text of an array is read if those of its children are. -/
theorem array_reads {fine : CJsonItem → Prop} {same : CJsonItem → CJsonItem → Prop}
    {children : List CJsonItem}
    (each : ∀ child ∈ children, ParsesBack double fmt (fine child) (same child) child)
    (depth : Nat) (rest : List UInt8)
    (enough : 2 * (itemText double fmt depth (.array children)).length + 1 ≤ calls) :
    Reads (∀ child ∈ children, fine child)
      (fun value => ∃ values, value = .array values ∧ List.Forall₂ same children values) rest
      (parseValue double calls (itemText double fmt depth (.array children) ++ rest)) := by
  obtain ⟨calls, rfl⟩ : ∃ more, calls = more + 1 := ⟨calls - 1, by omega⟩
  rw [itemText, entry_texts_eq] at enough ⊢
  rw [List.cons_append, List.append_assoc, parse_value_first (by decide)]
  change Reads _ _ _ (parseArray (parseItems double calls) _)
  cases children with
  | nil =>
      have empty : parseArray (parseItems double calls) (91 :: (arrayText fmt [] ++ ([93] ++ rest))) =
          .ok (some (.array [], rest)) :=
        parse_between_empty (skip_stands (by unfold Stands; decide) rest)
      exact ⟨fun _ => ⟨.array [], empty, [], rfl, .nil⟩,
        fun fails => absurd (List.forall_mem_nil _) fails⟩
  | cons child children =>
      obtain ⟨first, tail, begins, stands, other⟩ := array_text_first double fmt child
        children (depth + 1)
      simp only [List.length_cons, List.length_append, List.length_nil] at enough
      have ends : Ends _ _ (93 :: rest) (parseItems double calls (_ ++ 93 :: rest)) :=
        parse_items_text each (depth + 1) (by omega)
      rw [begins, List.cons_append] at ends ⊢
      exact parse_between_reads (skip_stands stands _) other (by decide) ends

def memberParts (double : CDouble) (fmt : Bool) (depth : Nat) (child : List UInt8 × CJsonItem) :
    List UInt8 × List UInt8 :=
  (quoted (cString child.1), itemText double fmt depth child.2)

theorem object_text_cons (member next : List UInt8 × List UInt8)
    (members : List (List UInt8 × List UInt8)) :
    objectText fmt depth (member :: next :: members) =
      memberText fmt depth member ++
        44 :: (lineEnd fmt ++ objectText fmt depth (next :: members)) := by
  simp [objectText]

/-- One turn of the loop for a member that is followed by `between`. -/
theorem parse_member_text {fine others : Prop} {good : CJsonItem → Prop}
    {goodLater : CJsonItem → List (List UInt8 × CJsonItem) → Prop} {child : List UInt8 × CJsonItem}
    (back : ParsesBack double fmt fine good child.2) (depth : Nat) {between : List UInt8}
    (follows : Follows between)
    (enough : 2 * (itemText double fmt depth child.2).length + 1 ≤ calls)
    (later : ∀ value, good value → Ends others (goodLater value) rest
      (parseLater (parseMembers double calls) (cString child.1, value) between)) :
    Ends (fine ∧ others) (fun items => ∃ value, good value ∧ goodLater value items) rest
      (parseMembers double (calls + 1)
        (memberText fmt depth (memberParts double fmt depth child) ++ between)) := by
  obtain ⟨string, item⟩ := child
  obtain ⟨first, tail, begins, stands, -⟩ := item_text_first double fmt item depth
  have whole : memberText fmt depth (memberParts double fmt depth (string, item)) ++ between =
      tabs fmt depth ++ (quoted (cString string) ++ 58 :: (tabs fmt 1 ++
        (itemText double fmt depth item ++ between))) := by
    simp [memberText, memberParts]
  have opened : skip (tabs fmt depth ++ (quoted (cString string) ++ 58 :: (tabs fmt 1 ++
      (itemText double fmt depth item ++ between)))) = .ok (quoted (cString string) ++
        58 :: (tabs fmt 1 ++ (itemText double fmt depth item ++ between))) := by
    rw [skip_blanks (blanks_tabs fmt depth)]
    exact skip_stands (by unfold Stands; decide) _
  have colon : skip (58 :: (tabs fmt 1 ++ (itemText double fmt depth item ++ between))) =
      .ok (58 :: (tabs fmt 1 ++ (itemText double fmt depth item ++ between))) :=
    skip_stands (by unfold Stands; decide) _
  have value : skip (tabs fmt 1 ++ (itemText double fmt depth item ++ between)) =
      .ok (itemText double fmt depth item ++ between) := by
    rw [skip_blanks (blanks_tabs fmt 1), begins, List.cons_append]
    exact skip_stands stands _
  have read : byteAt (58 :: (tabs fmt 1 ++ (itemText double fmt depth item ++ between))) 0 =
      .ok 58 := rfl
  rw [whole, parseMembers, opened, bind_ok, parse_string_quoted (c_string_nul_free string), bind_ok]
  dsimp only
  rw [colon, bind_ok, read, bind_ok, if_neg (not_not.2 rfl), List.drop_one, List.tail_cons, value,
    bind_ok]
  exact @parse_children_ends _ (parseMembers double calls) rest (Prod.mk (cString string)) _ _ _ _ _
    _ _ rfl (fun _ _ => rfl) (back depth between calls follows enough) later

theorem member_text_longer (double : CDouble) (fmt : Bool) (child : List UInt8 × CJsonItem) (depth : Nat) :
    (itemText double fmt depth child.2).length + 3 ≤
      (memberText fmt depth (memberParts double fmt depth child)).length := by
  simp only [memberText, memberParts, quoted, List.length_append, List.length_cons]
  omega

/-- A member is read under the name that C sees. -/
def SameMember (same : CJsonItem → CJsonItem → Prop) (child read : List UInt8 × CJsonItem) : Prop :=
  read.1 = cString child.1 ∧ same child.2 read.2

theorem parse_members_text {fine : CJsonItem → Prop} {same : CJsonItem → CJsonItem → Prop}
    {child : List UInt8 × CJsonItem} {children : List (List UInt8 × CJsonItem)}
    (each : ∀ other ∈ child :: children,
      ParsesBack double fmt (fine other.2) (same other.2) other.2) (depth : Nat)
    {closing : List UInt8} (blanks : Blanks closing)
    (enough : 2 * (objectText fmt depth
      ((child :: children).map (memberParts double fmt depth))).length + 2 ≤ calls) :
    Ends (∀ other ∈ child :: children, fine other.2)
      (List.Forall₂ (SameMember same) (child :: children)) (125 :: rest)
      (parseMembers double calls
        (objectText fmt depth ((child :: children).map (memberParts double fmt depth)) ++
          (closing ++ 125 :: rest))) := by
  have longer := member_text_longer double fmt child depth
  obtain ⟨calls, rfl⟩ : ∃ more, calls = more + 1 := ⟨calls - 1, by omega⟩
  induction children generalizing child calls with
  | nil =>
      have text : objectText fmt depth ([child].map (memberParts double fmt depth)) =
          memberText fmt depth (memberParts double fmt depth child) ++ lineEnd fmt := by
        simp [objectText]
      have behind := blanks_append (blanks_line_end fmt) blanks
      have follows : Follows ((lineEnd fmt ++ closing) ++ 125 :: rest) :=
        follows_blanks behind (follows_mark (.inr (.inr (.inl rfl))) rest)
      have last : skip ((lineEnd fmt ++ closing) ++ 125 :: rest) = .ok (125 :: rest) := by
        rw [skip_blanks behind]
        exact skip_stands (by unfold Stands; decide) rest
      rw [text, List.length_append] at enough
      rw [text, List.append_assoc, ← List.append_assoc (lineEnd fmt)]
      have ends := parse_member_text (each child List.mem_cons_self) depth follows
        (show 2 * (itemText double fmt depth child.2).length + 1 ≤ calls by omega)
        fun value is => ends_of_run (parse_later_last last (by decide))
          (show [(cString child.1, value)] = [(cString child.1, value)] from rfl)
      refine ends_mono ?_ ?_ ends
      · simp
      · rintro items ⟨value, is, rfl⟩
        exact .cons ⟨rfl, is⟩ .nil
  | cons next children ih =>
      have longerNext := member_text_longer double fmt next depth
      have text : objectText fmt depth ((child :: next :: children).map
          (memberParts double fmt depth)) =
          memberText fmt depth (memberParts double fmt depth child) ++ 44 :: (lineEnd fmt ++
            objectText fmt depth ((next :: children).map (memberParts double fmt depth))) := by
        rw [List.map_cons, List.map_cons, object_text_cons]
      rw [text] at enough ⊢
      simp only [List.length_append, List.length_cons] at enough
      obtain ⟨more, rfl⟩ : ∃ more, calls = more + 1 := ⟨calls - 1, by omega⟩
      have later := ih (fun other member => each other (List.mem_cons_of_mem child member))
        longerNext more (by omega)
      have blank : skip (lineEnd fmt ++ (objectText fmt depth
          ((next :: children).map (memberParts double fmt depth)) ++ (closing ++ 125 :: rest))) =
          skip (objectText fmt depth ((next :: children).map (memberParts double fmt depth)) ++
            (closing ++ 125 :: rest)) :=
        skip_blanks (blanks_line_end fmt) _
      have same : parseMembers double (more + 1) (lineEnd fmt ++ (objectText fmt depth
          ((next :: children).map (memberParts double fmt depth)) ++ (closing ++ 125 :: rest))) =
          parseMembers double (more + 1) (objectText fmt depth
            ((next :: children).map (memberParts double fmt depth)) ++ (closing ++ 125 :: rest)) := by
        rw [parseMembers, parseMembers, blank]
      rw [← same] at later
      rw [List.append_assoc, List.cons_append, List.append_assoc]
      have ends := parse_member_text (each child List.mem_cons_self) depth
        (follows_mark (.inl rfl) _)
        (show 2 * (itemText double fmt depth child.2).length + 1 ≤ more + 1 by omega)
        fun value is => @parse_later_comma _ _ _ _ (cString child.1, value) _ _ later
      refine ends_mono ?_ ?_ ends
      · simp
      · rintro items ⟨value, is, others, rfl, are⟩
        exact .cons ⟨rfl, is⟩ are

theorem object_text_skip (double : CDouble) (fmt : Bool) (child : List UInt8 × CJsonItem)
    (children : List (List UInt8 × CJsonItem)) (depth : Nat) (behind : List UInt8) :
    ∃ tail, skip (objectText fmt depth ((child :: children).map (memberParts double fmt depth)) ++
      behind) = .ok (34 :: tail) := by
  have text : ∃ tail, objectText fmt depth ((child :: children).map
      (memberParts double fmt depth)) ++ behind = tabs fmt depth ++ 34 :: tail := by
    simp only [List.map_cons, objectText, memberText, memberParts, quoted, List.append_assoc,
      List.cons_append]
    exact ⟨_, rfl⟩
  obtain ⟨tail, begins⟩ := text
  refine ⟨tail, ?_⟩
  rw [begins, skip_blanks (blanks_tabs fmt depth)]
  exact skip_stands (by unfold Stands; decide) tail

theorem object_reads {fine : CJsonItem → Prop} {same : CJsonItem → CJsonItem → Prop}
    {children : List (List UInt8 × CJsonItem)}
    (each : ∀ child ∈ children,
      ParsesBack double fmt (fine child.2) (same child.2) child.2)
    (depth : Nat) (rest : List UInt8)
    (enough : 2 * (itemText double fmt depth (.object children)).length + 1 ≤ calls) :
    Reads (∀ child ∈ children, fine child.2)
      (fun value => ∃ values, value = .object values ∧
        List.Forall₂ (SameMember same) children values) rest
      (parseValue double calls (itemText double fmt depth (.object children) ++ rest)) := by
  obtain ⟨calls, rfl⟩ : ∃ more, calls = more + 1 := ⟨calls - 1, by omega⟩
  have text : itemText double fmt depth (.object children) ++ rest =
      123 :: (lineEnd fmt ++ (objectText fmt (depth + 1) (children.map
        (memberParts double fmt (depth + 1))) ++ (tabs fmt depth ++ 125 :: rest))) := by
    rw [itemText, member_texts_eq]
    simp only [List.cons_append, List.append_assoc, List.nil_append]
    rfl
  rw [itemText, member_texts_eq] at enough
  change 2 * (123 :: (lineEnd fmt ++ objectText fmt (depth + 1) (children.map
    (memberParts double fmt (depth + 1))) ++ tabs fmt depth ++ [125])).length + 1 ≤ _ at enough
  rw [text, parse_value_first (by decide)]
  change Reads _ _ _ (parseObject (parseMembers double calls) _)
  cases children with
  | nil =>
      have skipped : skip (lineEnd fmt ++ (tabs fmt depth ++ 125 :: rest)) =
          .ok (125 :: rest) := by
        rw [skip_blanks (blanks_line_end fmt), skip_blanks (blanks_tabs fmt depth)]
        exact skip_stands (by unfold Stands; decide) rest
      exact ⟨fun _ => ⟨.object [], parse_between_empty skipped, [], rfl, .nil⟩,
        fun fails => absurd (List.forall_mem_nil _) fails⟩
  | cons child children =>
      obtain ⟨tail, skipped⟩ := object_text_skip double fmt child children
        (depth + 1) (tabs fmt depth ++ 125 :: rest)
      simp only [List.length_cons, List.length_append, List.length_nil] at enough
      have longer := member_text_longer double fmt child (depth + 1)
      obtain ⟨calls, rfl⟩ : ∃ more, calls = more + 1 := ⟨calls - 1, by omega⟩
      have ends : Ends _ _ (125 :: rest) (parseMembers double (calls + 1) (_ ++ (_ ++ 125 :: rest))) :=
        parse_members_text each (depth + 1) (blanks_tabs fmt depth) (by omega)
      rw [← parse_members_skip skipped] at ends
      refine parse_between_reads ?_ (by decide) (by decide) ends
      rw [skip_blanks (blanks_line_end fmt)]
      exact skipped

end Values

end IotgoFirmware.Json.ItemReading
