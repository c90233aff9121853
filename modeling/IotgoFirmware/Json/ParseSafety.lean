import IotgoFirmware.Json.ItemParsing

/-!
# Parsing of any text

Whatever a text holds, if it does not end with a backslash the parser reads no byte behind
its terminator and writes no byte outside the memory it takes; and the strings of what it
returns have no byte zero.
-/

namespace IotgoFirmware.Json.ParseSafety

open IotgoFirmware.Library.CStrings IotgoFirmware.Library.CFaults IotgoFirmware.Library.Doubles
open IotgoFirmware.Library.CJsonItems IotgoFirmware.Library.CJsonTrees
open IotgoFirmware.Json.StringTexts IotgoFirmware.Json.StringSafety
open IotgoFirmware.Json.ItemPrinting IotgoFirmware.Json.ItemParsing

set_option autoImplicit false

/-- The run ends; what it returns is good, and the pointer has moved on in the text. -/
def Reads {Value : Type} (good : Value → Prop) (bound : Nat)
    (run : Checked (Option (Value × List UInt8))) : Prop :=
  ∃ result, run = .ok result ∧ ∀ value rest, result = some (value, rest) →
    good value ∧ Terminated rest ∧ rest.length < bound

section Steps

variable {Value : Type} {good : Value → Prop} {bound : Nat} {memory num : List UInt8}
  {double : CDouble}

theorem reads_none : Reads good bound (.ok none) :=
  ⟨none, rfl, fun _ _ absent => by cases absent⟩

theorem reads_some {value : Value} {rest : List UInt8} (holds : good value)
    (terminated : Terminated rest) (shorter : rest.length < bound) :
    Reads good bound (.ok (some (value, rest))) := by
  refine ⟨some (value, rest), rfl, ?_⟩
  intro other behind same
  cases same
  exact ⟨holds, terminated, shorter⟩

theorem reads_mono {larger : Nat} {run : Checked (Option (Value × List UInt8))}
    (reads : Reads good bound run) (less : bound ≤ larger) : Reads good larger run := by
  obtain ⟨result, ended, each⟩ := reads
  refine ⟨result, ended, ?_⟩
  intro value rest same
  obtain ⟨holds, terminated, shorter⟩ := each value rest same
  exact ⟨holds, terminated, by omega⟩

theorem terminated_first (terminated : Terminated memory) :
    ∃ first rest, memory = first :: rest ∧ byteAt memory 0 = .ok first := by
  obtain ⟨first, rest, rfl⟩ := List.exists_cons_of_ne_nil (terminated_ne_nil terminated)
  exact ⟨first, rest, rfl, rfl⟩

theorem skip_terminated (terminated : Terminated memory) :
    ∃ rest, skip memory = .ok rest ∧ Terminated rest ∧ rest.length ≤ memory.length := by
  induction memory with
  | nil => exact absurd terminated (by simp [Terminated])
  | cons byte memory ih =>
      unfold skip
      split
      · rename_i blank
        obtain ⟨rest, skipped, behind, shorter⟩ := ih (terminated_tail terminated blank.1)
        exact ⟨rest, skipped, behind, by rw [List.length_cons]; omega⟩
      · exact ⟨byte :: memory, rfl, terminated, Nat.le_refl _⟩

theorem starts_with_terminated {text : List UInt8} (nulFree : (0 : UInt8) ∉ text)
    (terminated : Terminated memory) :
    startsWith text memory = .ok false ∨ (startsWith text memory = .ok true ∧
      Terminated (memory.drop text.length) ∧
      (memory.drop text.length).length + text.length = memory.length) := by
  induction text generalizing memory with
  | nil => exact .inr ⟨rfl, terminated, rfl⟩
  | cons letter text ih =>
      rw [List.mem_cons, not_or] at nulFree
      obtain ⟨byte, rest, rfl, -⟩ := terminated_first terminated
      unfold startsWith
      split
      · rename_i same
        subst same
        rcases ih nulFree.2 (terminated_tail terminated (Ne.symm nulFree.1)) with other |
          ⟨begins, behind, length⟩
        · exact .inl other
        · refine .inr ⟨begins, behind, ?_⟩
          rw [List.length_cons, List.length_cons, List.drop_succ_cons]
          omega
      · exact .inl rfl

theorem read_digits_terminated (double : CDouble) (n : Rat) (scale : Nat) (terminated : Terminated num) :
    ∃ value count rest, readDigits double n scale num = .ok (value, count, rest) ∧
      Terminated rest ∧ rest.length ≤ num.length := by
  induction num generalizing n scale with
  | nil => exact absurd terminated (by simp [Terminated])
  | cons byte num ih =>
      unfold readDigits
      split
      · rename_i digit
        have present : byte ≠ 0 := by
          rintro rfl
          exact absurd digit (by decide)
        obtain ⟨value, count, rest, read, behind, shorter⟩ :=
          ih (double.round (double.round (n * 10) + (byte.toNat - 48 : Nat))) (scale + 1)
            (terminated_tail terminated present)
        exact ⟨value, count, rest, read, behind, by rw [List.length_cons]; omega⟩
      · exact ⟨n, scale, byte :: num, rfl, terminated, Nat.le_refl _⟩

theorem parse_whole_terminated (double : CDouble) (terminated : Terminated num) :
    ∃ value rest, parseWhole double num = .ok (value, rest) ∧ Terminated rest ∧
      rest.length ≤ num.length ∧
      (∀ first ∈ num.head?, 49 ≤ first ∧ first ≤ 57 → rest.length < num.length) := by
  obtain ⟨first, more, rfl, read⟩ := terminated_first terminated
  unfold parseWhole
  rw [read, bind_ok]
  split
  · rename_i digit
    have present : first ≠ 0 := by
      rintro rfl
      exact absurd digit.1 (by decide)
    have isDigitFirst : isDigit first = true := by
      rw [is_digit_iff]
      simp only [UInt8.le_iff_toNat_le, UInt8.reduceToNat] at digit
      omega
    obtain ⟨value, count, rest, digits, behind, shorter⟩ := read_digits_terminated
      double (double.round (double.round (0 * 10) + (first.toNat - 48 : Nat))) (0 + 1)
      (terminated_tail terminated present)
    have whole : readDigits double 0 0 (first :: more) = .ok (value, count, rest) := by
      rw [readDigits, if_pos isDigitFirst, digits]
    refine ⟨value, rest, by rw [whole]; rfl, behind, ?_, ?_⟩
    · rw [List.length_cons]
      omega
    · intro _ _ _
      rw [List.length_cons]
      omega
  · rename_i other
    refine ⟨0, first :: more, rfl, terminated, Nat.le_refl _, ?_⟩
    intro byte head digit
    cases head
    exact absurd digit other

theorem parse_fraction_terminated (double : CDouble) (n : Rat) (terminated : Terminated num) :
    ∃ value rest, parseFraction double n num = .ok (value, rest) ∧ Terminated rest ∧
      rest.length ≤ num.length := by
  obtain ⟨first, more, rfl, read⟩ := terminated_first terminated
  unfold parseFraction
  rw [read, bind_ok]
  split
  · exact ⟨n, first :: more, rfl, terminated, Nat.le_refl _⟩
  · rename_i point
    have present : first ≠ 0 := by
      rintro rfl
      exact point (by decide)
    have later := terminated_tail terminated present
    obtain ⟨next, others, rfl, -⟩ := terminated_first later
    have second : byteAt (first :: next :: others) 1 = .ok next := rfl
    rw [second, bind_ok]
    split
    · obtain ⟨value, count, rest, digits, behind, shorter⟩ :=
        read_digits_terminated double n 0 later
      refine ⟨scaledDown double count value, rest, ?_, behind, ?_⟩
      · rw [List.drop_one, List.tail_cons, digits]
        rfl
      · rw [List.length_cons]
        omega
    · exact ⟨n, first :: next :: others, rfl, terminated, Nat.le_refl _⟩

/-- A sign or a digit is taken. -/
theorem parse_number_terminated (double : CDouble) {first : UInt8} (terminated : Terminated (first :: num))
    (numeral : first = 45 ∨ isDigit first = true) :
    ∃ valueint valuedouble rest,
      parseNumber double (first :: num) = .ok (.number valueint valuedouble, rest) ∧
        Terminated rest ∧ rest.length < (first :: num).length := by
  have present : first ≠ 0 := by
    rintro rfl
    rcases numeral with absent | absent <;> exact absurd absent (by decide)
  have later := terminated_tail terminated present
  -- The sign, and a first digit zero, are taken one by one.
  obtain ⟨unsigned, signed, unsignedTerminated, unsignedLength, moved⟩ : ∃ unsigned,
      unsigned = (if first = 45 then (first :: num).drop 1 else first :: num) ∧
        Terminated unsigned ∧ unsigned.length ≤ (first :: num).length ∧
        (unsigned.length < (first :: num).length ∨ unsigned = first :: num) := by
    split
    · exact ⟨num, rfl, later, Nat.le_succ _, .inl (Nat.lt_succ_self _)⟩
    · exact ⟨first :: num, rfl, terminated, Nat.le_refl _, .inr rfl⟩
  obtain ⟨second, more, rfl, secondRead⟩ := terminated_first unsignedTerminated
  obtain ⟨whole, zero, wholeTerminated, wholeLength, again⟩ : ∃ whole,
      whole = (if second = 48 then (second :: more).drop 1 else second :: more) ∧
        Terminated whole ∧ whole.length ≤ (second :: more).length ∧
        (whole.length < (second :: more).length ∨ whole = second :: more ∧ second ≠ 48) := by
    split
    · rename_i zero
      have behind := terminated_tail unsignedTerminated (by rw [zero]; decide)
      exact ⟨more, rfl, behind, Nat.le_succ _, .inl (Nat.lt_succ_self _)⟩
    · rename_i other
      exact ⟨second :: more, rfl, unsignedTerminated, Nat.le_refl _, .inr ⟨rfl, other⟩⟩
  obtain ⟨n, rest, readWhole, restTerminated, restLength, strict⟩ :=
    parse_whole_terminated double wholeTerminated
  obtain ⟨value, last, readFraction, lastTerminated, lastLength⟩ :=
    parse_fraction_terminated double n restTerminated
  have firstRead : byteAt (first :: num) 0 = .ok first := rfl
  let number := double.round ((if first = 45 then -1 else 1) * value)
  refine ⟨double.cast number, number, last, ?_, lastTerminated, ?_⟩
  · unfold parseNumber
    rw [firstRead, bind_ok]
    dsimp only
    rw [← signed, secondRead, bind_ok, ← zero, readWhole, bind_ok]
    dsimp only
    rw [readFraction, bind_ok]
    rfl
  · rcases moved with shorter | same
    · omega
    · rcases again with shorter | ⟨kept, nonzero⟩
      · omega
      · cases same
        have digit : 49 ≤ first ∧ first ≤ 57 := by
          rcases numeral with sign | digit
          · subst sign
            rw [if_pos rfl] at signed
            exact absurd (congrArg List.length signed) (by simp)
          · rw [is_digit_iff] at digit
            have other : first.toNat ≠ 48 := fun number => nonzero (UInt8.toNat.inj number)
            simp only [UInt8.le_iff_toNat_le, UInt8.reduceToNat]
            omega
        have moved := strict first (by rw [kept]; rfl) digit
        rw [kept] at moved
        omega

end Steps

section Values

variable {Child : Type} {good : Child → Prop} {goodItem : CJsonItem → Prop} {value : List UInt8}
  {double : CDouble} {depth : Nat}

/-- The reader does its work on every text of which it can see enough. -/
def GoodReader (good : Child → Prop) (size : Nat) (children : Reader Child) : Prop :=
  ∀ value, Terminated value → value.length ≤ size →
    Reads (fun read => ∀ child ∈ read, good child) value.length (children value)

theorem parse_between_reads {close first : UInt8} {make : List Child → CJsonItem}
    {children : Reader Child} (closing : close ≠ 0)
    (makes : ∀ read, (∀ child ∈ read, good child) → goodItem (make read))
    (terminated : Terminated (first :: value)) (present : first ≠ 0)
    (reader : GoodReader good value.length children) :
    Reads goodItem (first :: value).length (parseBetween close make children (first :: value)) := by
  obtain ⟨memory, skipped, behind, shorter⟩ :=
    skip_terminated (terminated_tail terminated present)
  obtain ⟨byte, more, rfl, read⟩ := terminated_first behind
  unfold parseBetween
  rw [List.drop_one, List.tail_cons, skipped, bind_ok, read, bind_ok]
  split
  · rename_i empty
    have later := terminated_tail behind (by rw [empty]; exact closing)
    refine reads_some (makes [] fun _ absent => absurd absent List.not_mem_nil) later ?_
    simp only [List.length_cons, List.drop_one, List.tail_cons] at shorter ⊢
    omega
  · obtain ⟨result, ended, each⟩ := reader (byte :: more) behind shorter
    rw [ended, bind_ok]
    cases result with
    | none => exact reads_none
    | some found =>
        obtain ⟨items, rest⟩ := found
        obtain ⟨holds, restTerminated, less⟩ := each items rest rfl
        obtain ⟨last, others, rfl, lastRead⟩ := terminated_first restTerminated
        dsimp only
        rw [lastRead, bind_ok]
        split
        · rename_i ends
          have later := terminated_tail restTerminated (by rw [ends]; exact closing)
          refine reads_some (makes items holds) later ?_
          simp only [List.length_cons, List.drop_one, List.tail_cons] at less shorter ⊢
          omega
        · exact reads_none

theorem parse_later_reads {children : Reader Child} {child : Child} (holds : good child)
    (terminated : Terminated value) {size : Nat} (reader : GoodReader good size children)
    (enough : value.length ≤ size) :
    Reads (fun read => ∀ child ∈ read, good child) (value.length + 1)
      (parseLater children child value) := by
  obtain ⟨memory, skipped, behind, shorter⟩ := skip_terminated terminated
  obtain ⟨byte, more, rfl, read⟩ := terminated_first behind
  unfold parseLater
  rw [skipped, bind_ok, read, bind_ok]
  split
  · rename_i comma
    have later := terminated_tail behind (by rw [comma]; decide)
    rw [List.length_cons] at shorter
    obtain ⟨result, ended, each⟩ := reader more later (by omega)
    rw [List.drop_one, List.tail_cons, ended, bind_ok]
    cases result with
    | none => exact reads_none
    | some found =>
        obtain ⟨items, rest⟩ := found
        obtain ⟨others, restTerminated, less⟩ := each items rest rfl
        refine reads_some ?_ restTerminated (by omega)
        intro other member
        rcases List.mem_cons.1 member with rfl | member
        · exact holds
        · exact others other member
  · refine reads_some ?_ behind (by omega)
    intro other member
    rw [List.mem_singleton.1 member]
    exact holds

abbrev NulFree : CJsonItem → Prop :=
  Every (fun _ _ => True) fun text => (0 : UInt8) ∉ text

/-- A pair of a name and a value without byte zero. -/
def NulFreeMember (member : List UInt8 × CJsonItem) : Prop :=
  (0 : UInt8) ∉ member.1 ∧ NulFree member.2

theorem nul_free_array {children : List CJsonItem} (each : ∀ child ∈ children, NulFree child) :
    NulFree (.array children) :=
  .array each

theorem nul_free_object {children : List (List UInt8 × CJsonItem)}
    (each : ∀ child ∈ children, NulFreeMember child) : NulFree (.object children) :=
  .object (fun child member => (each child member).1) fun child member => (each child member).2

end Values

section Parsing

variable {double : CDouble} {value : List UInt8}

theorem string_reads (terminated : Terminated value) :
    Reads (fun text => (0 : UInt8) ∉ text) value.length (parseString value) := by
  obtain ⟨result, ended, each⟩ := parse_string_completes terminated
  refine ⟨result, ended, ?_⟩
  intro text rest same
  obtain ⟨nulFree, behind, front, rfl, present⟩ := each text rest same
  refine ⟨nulFree, behind, ?_⟩
  rw [List.length_append]
  have positive := List.length_pos_iff.2 present
  omega

/-- What `depth` calls are enough for: a value of half as many bytes. -/
def DeepEnough (double : CDouble) (depth : Nat) : Prop :=
  (∀ value, Terminated value → 2 * value.length + 1 ≤ depth →
    Reads NulFree value.length (parseValue double depth value)) ∧
  (∀ size, 2 * size + 2 ≤ depth → GoodReader NulFree size (parseItems double depth)) ∧
  ∀ size, 2 * size + 2 ≤ depth → GoodReader NulFreeMember size (parseMembers double depth)

theorem parse_value_step {depth : Nat} (deep : DeepEnough double depth)
    (terminated : Terminated value) (enough : 2 * value.length + 1 ≤ depth + 1) :
    Reads NulFree value.length (parseValue double (depth + 1) value) := by
  have nullFree : (0 : UInt8) ∉ asciiBytes "null" := by decide
  have falseFree : (0 : UInt8) ∉ asciiBytes "false" := by decide
  have trueFree : (0 : UInt8) ∉ asciiBytes "true" := by decide
  unfold parseValue
  rcases starts_with_terminated nullFree terminated with noNull | ⟨isNull, behind, length⟩
  swap
  · rw [isNull, bind_ok, if_pos rfl]
    exact reads_some .isNull behind (by
      change (value.drop 4).length + 4 = _ at length
      omega)
  rw [noNull, bind_ok, if_neg Bool.false_ne_true]
  rcases starts_with_terminated falseFree terminated with noFalse | ⟨isFalse, behind, length⟩
  swap
  · rw [isFalse, bind_ok, if_pos rfl]
    exact reads_some .isFalse behind (by
      change (value.drop 5).length + 5 = _ at length
      omega)
  rw [noFalse, bind_ok, if_neg Bool.false_ne_true]
  rcases starts_with_terminated trueFree terminated with noTrue | ⟨isTrue, behind, length⟩
  swap
  · rw [isTrue, bind_ok, if_pos rfl]
    exact reads_some .isTrue behind (by
      change (value.drop 4).length + 4 = _ at length
      omega)
  rw [noTrue, bind_ok, if_neg Bool.false_ne_true]
  obtain ⟨first, more, rfl, read⟩ := terminated_first terminated
  rw [List.length_cons] at enough
  rw [read, bind_ok]
  split
  · obtain ⟨result, ended, each⟩ := string_reads terminated
    rw [ended, bind_ok]
    cases result with
    | none => exact reads_none
    | some found =>
        obtain ⟨text, rest⟩ := found
        obtain ⟨nulFree, behind, shorter⟩ := each text rest rfl
        exact reads_some (.string nulFree) behind shorter
  · split
    · rename_i numeral
      obtain ⟨valueint, valuedouble, rest, parsed, behind, shorter⟩ :=
        parse_number_terminated double terminated numeral
      rw [parsed, bind_ok]
      exact reads_some (.number trivial) behind shorter
    · split
      · rename_i bracket
        exact parse_between_reads (by decide) (fun _ => nul_free_array) terminated
          (by rw [bracket]; decide) (deep.2.1 more.length (by omega))
      · split
        · rename_i brace
          exact parse_between_reads (by decide) (fun _ => nul_free_object) terminated
            (by rw [brace]; decide) (deep.2.2 more.length (by omega))
        · exact reads_none

theorem parse_items_step {depth : Nat} (deep : DeepEnough double depth) {size : Nat}
    (enough : 2 * size + 2 ≤ depth + 1) : GoodReader NulFree size (parseItems double (depth + 1)) := by
  intro value terminated small
  obtain ⟨memory, skipped, behind, shorter⟩ := skip_terminated terminated
  obtain ⟨result, ended, each⟩ := deep.1 memory behind (by omega)
  unfold parseItems
  rw [skipped, bind_ok, ended, bind_ok]
  cases result with
  | none => exact reads_none
  | some found =>
      obtain ⟨child, rest⟩ := found
      obtain ⟨holds, restTerminated, less⟩ := each child rest rfl
      have later := parse_later_reads holds restTerminated
        (deep.2.1 (size - 1) (by omega)) (by omega)
      exact reads_mono later (by omega)

theorem parse_members_step {depth : Nat} (deep : DeepEnough double depth) {size : Nat}
    (enough : 2 * size + 2 ≤ depth + 1) :
    GoodReader NulFreeMember size (parseMembers double (depth + 1)) := by
  intro value terminated small
  obtain ⟨memory, skipped, behind, shorter⟩ := skip_terminated terminated
  obtain ⟨result, ended, each⟩ := string_reads behind
  unfold parseMembers
  rw [skipped, bind_ok, ended, bind_ok]
  cases result with
  | none => exact reads_none
  | some found =>
      obtain ⟨string, rest⟩ := found
      obtain ⟨nameFree, restTerminated, less⟩ := each string rest rfl
      obtain ⟨colon, colonSkipped, colonTerminated, colonLength⟩ := skip_terminated restTerminated
      obtain ⟨byte, more, rfl, read⟩ := terminated_first colonTerminated
      dsimp only
      rw [colonSkipped, bind_ok, read, bind_ok]
      split
      · exact reads_none
      · rename_i found
        have present : byte ≠ 0 := by
          rintro rfl
          exact found (by decide)
        obtain ⟨start, startSkipped, startTerminated, startLength⟩ :=
          skip_terminated (terminated_tail colonTerminated present)
        rw [List.length_cons] at colonLength
        obtain ⟨parsed, valueEnded, eachValue⟩ := deep.1 start startTerminated (by omega)
        rw [List.drop_one, List.tail_cons, startSkipped, bind_ok, valueEnded, bind_ok]
        cases parsed with
        | none => exact reads_none
        | some found =>
            obtain ⟨child, last⟩ := found
            obtain ⟨holds, lastTerminated, lastLess⟩ := eachValue child last rfl
            have member : NulFreeMember (string, child) := ⟨nameFree, holds⟩
            have later := parse_later_reads member lastTerminated
              (deep.2.2 (size - 1) (by omega)) (by omega)
            exact reads_mono later (by omega)

theorem deep_enough (double : CDouble) (depth : Nat) : DeepEnough double depth := by
  induction depth with
  | zero =>
      refine ⟨?_, ?_, ?_⟩ <;> intros <;> omega
  | succ depth deep =>
      exact ⟨fun value terminated enough => parse_value_step deep terminated enough,
        fun size enough => parse_items_step deep enough,
        fun size enough => parse_members_step deep enough⟩

end Parsing

/-- A text that does not end with a backslash is parsed without a fault, up to its end or not,
and what is returned has strings without byte zero. -/
theorem parse_with_opts_completes (double : CDouble) {text : List UInt8} (nulFree : (0 : UInt8) ∉ text)
    (ends : text.getLast? ≠ some 92) (requireNullTerminated : Bool) :
    ∃ parsed, cJSONParseWithOpts double (text ++ [0]) requireNullTerminated = .ok parsed ∧
      ∀ item rest, parsed = some (item, rest) → NulFree item := by
  have terminated := terminated_of_text nulFree ends
  obtain ⟨start, skipped, startTerminated, startLength⟩ := skip_terminated terminated
  obtain ⟨result, ended, each⟩ := (deep_enough double (2 * (text ++ [0]).length + 1)).1 start
    startTerminated (by omega)
  unfold cJSONParseWithOpts
  rw [skipped, bind_ok, ended, bind_ok]
  cases result with
  | none => exact ⟨none, rfl, fun _ _ absent => by cases absent⟩
  | some found =>
      obtain ⟨item, last⟩ := found
      obtain ⟨holds, lastTerminated, -⟩ := each item last rfl
      dsimp only
      split
      · obtain ⟨rest, lastSkipped, restTerminated, -⟩ := skip_terminated lastTerminated
        obtain ⟨byte, more, rfl, read⟩ := terminated_first restTerminated
        rw [lastSkipped, bind_ok, read, bind_ok]
        split
        · exact ⟨none, rfl, fun _ _ absent => by cases absent⟩
        · refine ⟨some (item, byte :: more), rfl, ?_⟩
          intro other behind same
          cases same
          exact holds
      · refine ⟨some (item, last), rfl, ?_⟩
        intro other behind same
        cases same
        exact holds

/-- Of a text that does not end with a backslash `cJSON_Parse` never reads outside, nor writes
outside of the strings it takes memory for, and no string that it returns has a byte zero. -/
theorem parse_completes (double : CDouble) {text : List UInt8} (nulFree : (0 : UInt8) ∉ text)
    (ends : text.getLast? ≠ some 92) :
    ∃ parsed, cJSONParse double (text ++ [0]) = .ok parsed ∧
      ∀ item, parsed = some item → NulFree item := by
  obtain ⟨parsed, run, each⟩ := parse_with_opts_completes double nulFree ends false
  refine ⟨parsed.map Prod.fst, by rw [cJSONParse, run, bind_ok]; rfl, ?_⟩
  intro item found
  obtain ⟨⟨item, rest⟩, known, rfl⟩ := Option.map_eq_some_iff.1 found
  exact each item rest known

theorem parse_completes_escape :
    ∃ parsed, cJSONParse unrounded (asciiBytes "[\"\\u00" ++ [0]) = .ok parsed ∧
      ∀ item, parsed = some item → NulFree item :=
  parse_completes unrounded (by decide) (by decide)

/-- The byte behind the last backslash is the terminator, and the next one is read too. -/
example : cJSONParse unrounded (asciiBytes "\"\\" ++ [0]) = .error .outside := by
  rfl

end IotgoFirmware.Json.ParseSafety
