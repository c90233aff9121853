import IotgoFirmware.Json.ItemReading
import IotgoFirmware.Json.ParseSafety

/-!
# Printing and parsing

The text of an item is parsed to the item again, formatted or not and whatever follows it, if
its numbers are integers. What the parser has returned once is therefore printed and parsed
without a change.
-/

namespace IotgoFirmware.Json.RoundTrips

open IotgoFirmware.Library.CStrings IotgoFirmware.Library.CFaults IotgoFirmware.Library.Doubles
open IotgoFirmware.Library.CJsonItems IotgoFirmware.Library.CJsonTrees
open IotgoFirmware.Json.StringTexts IotgoFirmware.Json.StringSafety
open IotgoFirmware.Json.ItemPrinting IotgoFirmware.Json.ItemParsing
open IotgoFirmware.Json.ItemReading IotgoFirmware.Json.ParseSafety

set_option autoImplicit false

/-- The number is an integer that an `int` can hold. -/
def Whole (valueint : Int) (valuedouble : Rat) : Prop :=
  IsInt valueint ∧ valuedouble = valueint

abbrev Printable : CJsonItem → Prop :=
  Every Whole fun text => (0 : UInt8) ∉ text

section Numbers

variable {double : CDouble} {rest : List UInt8}

def digitsFrom (n : Nat) (digits : List UInt8) : Nat :=
  digits.foldl (fun value digit => 10 * value + (digit.toNat - 48)) n

theorem digits_from_le (n : Nat) (digits : List UInt8) : n ≤ digitsFrom n digits := by
  induction digits generalizing n with
  | nil => exact Nat.le_refl n
  | cons digit digits ih =>
      have later := ih (10 * n + (digit.toNat - 48))
      change n ≤ digitsFrom (10 * n + (digit.toNat - 48)) digits
      omega

theorem round_nat (exact : double.Exact) {n : Nat} (small : n ≤ 2 ^ 53) :
    double.round (n : Rat) = n := by
  have integer := exact.integers (n : Int) (by simpa using small)
  simpa using integer

theorem read_digits_exact (exact : double.Exact) (follows : Follows rest) {digits : List UInt8}
    (all : ∀ byte ∈ digits, isDigit byte = true) (n count : Nat)
    (small : digitsFrom n digits ≤ 2 ^ 53) :
    readDigits double (n : Rat) count (digits ++ rest) =
      .ok ((digitsFrom n digits : Nat), count + digits.length, rest) := by
  induction digits generalizing n count with
  | nil =>
      obtain ⟨byte, more, rfl, other, -⟩ := follows
      rw [List.nil_append, readDigits, if_neg (by rw [other]; exact Bool.false_ne_true)]
      rfl
  | cons digit digits ih =>
      have isDigitHead := all digit List.mem_cons_self
      have reached : digitsFrom (10 * n + (digit.toNat - 48)) digits ≤ 2 ^ 53 := small
      have bound := digits_from_le (10 * n + (digit.toNat - 48)) digits
      have scaled : double.round ((n : Rat) * 10) = ((n * 10 : Nat) : Rat) := by
        rw [← round_nat exact (show n * 10 ≤ 2 ^ 53 by omega)]
        push_cast
        rfl
      have next : double.round (((n * 10 : Nat) : Rat) + ((digit.toNat - 48 : Nat) : Rat)) =
          ((10 * n + (digit.toNat - 48) : Nat) : Rat) := by
        rw [← Nat.cast_add, show n * 10 + (digit.toNat - 48) = 10 * n + (digit.toNat - 48) by omega]
        exact round_nat exact (by omega)
      rw [List.cons_append, readDigits, if_pos isDigitHead, scaled, next,
        ih (fun byte member => all byte (List.mem_cons_of_mem digit member)) _ _ reached,
        List.length_cons, Nat.add_assoc, Nat.add_comm 1]
      rfl

theorem decimal_text_first {number : Nat} (positive : 0 < number) :
    ∃ first tail, decimalText number = first :: tail ∧ 49 ≤ first ∧ first ≤ 57 := by
  induction number using Nat.strongRecOn with
  | ind number ih =>
      rw [decimalText]
      split
      · rename_i small
        refine ⟨UInt8.ofNat (48 + number), [], rfl, ?_⟩
        have value := digit_byte small
        rw [UInt8.le_iff_toNat_le, UInt8.le_iff_toNat_le, value]
        exact ⟨by change 49 ≤ 48 + number; omega, by change 48 + number ≤ 57; omega⟩
      · obtain ⟨first, tail, text, range⟩ := ih (number / 10) (by omega) (by omega)
        exact ⟨first, tail ++ [UInt8.ofNat (48 + number % 10)], by rw [text]; rfl, range⟩

theorem parse_whole_follows (follows : Follows rest) :
    parseWhole double rest = .ok (0, rest) := by
  obtain ⟨byte, more, rfl, other, -⟩ := follows
  have read : byteAt (byte :: more) 0 = .ok byte := rfl
  unfold parseWhole
  rw [read, bind_ok, if_neg]
  · rfl
  · rintro ⟨lower, upper⟩
    have digit : isDigit byte = true := by
      rw [is_digit_iff]
      simp only [UInt8.le_iff_toNat_le, UInt8.reduceToNat] at lower upper
      omega
    rw [digit] at other
    cases other

theorem parse_fraction_follows (follows : Follows rest) (n : Rat) :
    parseFraction double n rest = .ok (n, rest) := by
  obtain ⟨byte, more, rfl, -, point⟩ := follows
  have read : byteAt (byte :: more) 0 = .ok byte := rfl
  unfold parseFraction
  rw [read, bind_ok, if_pos point]
  rfl

/-- A numeral begins with a digit, and is read without a leading zero. -/
theorem decimal_text_read (exact : double.Exact) (follows : Follows rest) {number : Nat}
    (small : number ≤ 2 ^ 53) :
    ∃ first more, decimalText number ++ rest = first :: more ∧ isDigit first = true ∧
      parseWhole double (if first = 48 then (first :: more).drop 1 else first :: more) =
        .ok ((number : Nat), rest) := by
  rcases Nat.eq_zero_or_pos number with rfl | positive
  · have zero : decimalText 0 = [48] := by
      rw [decimalText, if_pos (by decide)]
      rfl
    refine ⟨48, rest, by rw [zero]; rfl, rfl, ?_⟩
    rw [if_pos rfl, List.drop_one, List.tail_cons, parse_whole_follows follows]
    rfl
  · obtain ⟨first, tail, text, range⟩ := decimal_text_first positive
    have all := decimal_text_digits number
    have value : digitsFrom 0 (decimalText number) = number := decimal_text_value number
    have digits := read_digits_exact exact follows all 0 0 (by rw [value]; exact small)
    rw [value, text, List.cons_append] at digits
    refine ⟨first, tail ++ rest, by rw [text]; rfl, all first (by rw [text]; simp), ?_⟩
    have other : first ≠ 48 := by
      rintro rfl
      exact absurd range.1 (by decide)
    have read : byteAt (first :: (tail ++ rest)) 0 = .ok first := rfl
    rw [if_neg other, parseWhole, read, bind_ok, if_pos range]
    change (readDigits double ((0 : Nat) : Rat) 0 (first :: (tail ++ rest)) >>= _) = _
    rw [digits]
    rfl

theorem parse_number_text (exact : double.Exact) (follows : Follows rest) {value : Int}
    (range : IsInt value) :
    parseNumber double (intText value ++ rest) = .ok (.number value value, rest) := by
  have small : value.natAbs ≤ 2 ^ 53 := by
    unfold IsInt at range
    omega
  obtain ⟨first, more, text, digit, whole⟩ := decimal_text_read exact follows small
  have read : byteAt (first :: more) 0 = .ok first := rfl
  have rounded := exact.integers value small
  have cast := exact.casts value range.1 range.2
  by_cases negative : value < 0
  · have sign : byteAt (45 :: (decimalText value.natAbs ++ rest)) 0 = .ok 45 := rfl
    have number : (-1 : Rat) * ((value.natAbs : Nat) : Rat) = value := by
      have signed : (value : Rat) = ((-(value.natAbs : Int) : Int) : Rat) := by
        congr 1
        omega
      rw [signed, Int.cast_neg, Int.cast_natCast, neg_one_mul]
    rw [intText, if_pos negative, parseNumber, List.cons_append, sign, bind_ok]
    dsimp only
    rw [if_pos rfl, List.drop_one, List.tail_cons, text, read, bind_ok, whole, bind_ok]
    dsimp only
    rw [parse_fraction_follows follows, bind_ok, if_pos rfl, number, rounded, cast]
    rfl
  · have plain : first ≠ 45 := by
      rintro rfl
      exact absurd digit (by decide)
    have number : (1 : Rat) * ((value.natAbs : Nat) : Rat) = value := by
      have same : (value : Rat) = ((value.natAbs : Int) : Rat) := by
        congr 1
        omega
      rw [same, one_mul, Int.cast_natCast]
    rw [intText, if_neg negative, parseNumber, text, read, bind_ok]
    dsimp only
    rw [if_neg plain, read, bind_ok, whole, bind_ok]
    dsimp only
    rw [parse_fraction_follows follows, bind_ok, if_neg plain, number, rounded, cast]
    rfl

theorem is_whole_of_whole (exact : double.Exact) {valueint : Int} {valuedouble : Rat}
    (whole : Whole valueint valuedouble) : IsWhole double valueint valuedouble := by
  obtain ⟨range, rfl⟩ := whole
  have zero : double.round 0 = 0 := by
    have rounded := exact.integers 0 (by decide)
    simpa using rounded
  unfold IsInt at range
  refine ⟨?_, ?_, ?_, ?_⟩
  · rw [sub_self, zero]
    positivity
  · rw [sub_self, zero]
    positivity
  · exact_mod_cast range.2
  · exact_mod_cast range.1

theorem number_text_whole (exact : double.Exact) {valueint : Int} {valuedouble : Rat}
    (whole : Whole valueint valuedouble) :
    numberText double valueint valuedouble = intText valueint := by
  unfold numberText
  split
  · rename_i zero
    have none : valueint = 0 := by exact_mod_cast whole.2.symm.trans zero
    rw [none, intText, if_neg (by decide), Int.natAbs_zero, decimalText, if_pos (by decide)]
    rfl
  · rw [if_pos (is_whole_of_whole exact whole)]

end Numbers

section Values

variable {double : CDouble} {fmt : Bool}

theorem number_parses_back (exact : double.Exact) {valueint : Int} {valuedouble : Rat}
    (whole : Whole valueint valuedouble) (fmt : Bool) :
    ParsesBack double fmt True (fun value => value = .number valueint valuedouble)
      (.number valueint valuedouble) := by
  intro depth rest calls follows enough
  obtain ⟨calls, rfl⟩ : ∃ more, calls = more + 1 := ⟨calls - 1, by omega⟩
  rw [itemText, number_text_whole exact whole]
  refine ends_of_run (parse_value_numeral (parse_number_text exact follows whole.1)) ?_
  rw [whole.2]

theorem eq_of_same {children values : List CJsonItem}
    (same : List.Forall₂ (fun child value => value = child) children values) :
    values = children := by
  induction same with
  | nil => rfl
  | cons here _ ih => rw [here, ih]

theorem eq_of_same_members {children values : List (List UInt8 × CJsonItem)}
    (names : ∀ child ∈ children, (0 : UInt8) ∉ child.1)
    (same : List.Forall₂ (SameMember fun child value => value = child) children values) :
    values = children := by
  induction same with
  | nil => rfl
  | cons here _ ih =>
      have named := here.1
      rw [c_string_of_nul_free (names _ List.mem_cons_self)] at named
      rw [ih fun child member => names child (List.mem_cons_of_mem _ member),
        Prod.ext named here.2]

/-- The text of an item is parsed to the item. -/
theorem parse_item_text (exact : double.Exact) {item : CJsonItem} (printable : Printable item)
    (fmt : Bool) : ParsesBack double fmt True (fun value => value = item) item := by
  induction item using item_induction with
  | isFalse => exact literal_parses_back (.inr (.inl rfl)) double fmt
  | isTrue => exact literal_parses_back (.inr (.inr rfl)) double fmt
  | isNull => exact literal_parses_back (.inl rfl) double fmt
  | number valueint valuedouble =>
      cases printable with
      | number whole => exact number_parses_back exact whole fmt
  | string valuestring =>
      cases printable with
      | string nulFree =>
          have back := string_parses_back double fmt valuestring
          rwa [c_string_of_nul_free nulFree] at back
  | array children each =>
      intro depth rest calls _ enough
      have backs := fun child member => each child member (every_array printable child member)
      refine ends_mono ?_ ?_ (ends_of_reads (array_reads backs depth rest enough))
      · exact iff_true_intro fun _ _ => trivial
      · rintro value ⟨values, rfl, same⟩
        rw [eq_of_same same]
  | object children each =>
      intro depth rest calls _ enough
      have every := every_object printable
      have backs := fun child member => each child member (every child member).2
      refine ends_mono ?_ ?_ (ends_of_reads (@object_reads double fmt calls (fun _ => True)
        (fun child value => value = child) children backs depth rest enough))
      · exact iff_true_intro fun _ _ => trivial
      · rintro value ⟨values, rfl, same⟩
        rw [eq_of_same_members (fun child member => (every child member).1) same]

theorem parse_with_opts_text (exact : double.Exact) {item : CJsonItem}
    (printable : Printable item) (depth : Nat) (requireNullTerminated : Bool)
    (behind : List UInt8) :
    cJSONParseWithOpts double (itemText double fmt depth item ++ 0 :: behind)
      requireNullTerminated = .ok (some (item, 0 :: behind)) := by
  obtain ⟨first, tail, begins, stands, -⟩ := item_text_first double fmt item depth
  have ends := parse_item_text exact printable fmt depth (0 :: behind)
    (2 * (itemText double fmt depth item ++ 0 :: behind).length + 1)
    (follows_mark (.inr (.inr (.inr rfl))) behind) (by rw [List.length_append]; omega)
  obtain ⟨value, parsed, same⟩ := ends.read trivial
  have skipped : skip (itemText double fmt depth item ++ 0 :: behind) =
      .ok (itemText double fmt depth item ++ 0 :: behind) := by
    rw [begins, List.cons_append]
    exact skip_stands stands _
  unfold cJSONParseWithOpts
  rw [skipped, bind_ok, parsed, bind_ok, same]
  cases requireNullTerminated <;> rfl

theorem whole_is_int {item : CJsonItem} {string : List UInt8 → Prop} (every : Every Whole string item) :
    Every (fun valueint _ => IsInt valueint) (fun _ => True) item :=
  every_mono (fun _ _ whole => whole.1) (fun _ _ => trivial) every

theorem printable_of_parts {item : CJsonItem} (whole : Every Whole (fun _ => True) item)
    (nulFree : NulFree item) : Printable item := by
  induction item using item_induction with
  | isFalse => exact .isFalse
  | isTrue => exact .isTrue
  | isNull => exact .isNull
  | number valueint valuedouble =>
      cases whole with
      | number holds => exact .number holds
  | string valuestring =>
      cases nulFree with
      | string holds => exact .string holds
  | array children each =>
      exact .array fun child member =>
        each child member (every_array whole child member) (every_array nulFree child member)
  | object children each =>
      exact .object (fun child member => (every_object nulFree child member).1) fun child member =>
        each child member (every_object whole child member).2 (every_object nulFree child member).2

end Values

/-- `cJSON_Parse` of a string. -/
def parseText (double : CDouble) (text : List UInt8) : Option CJsonItem :=
  (cJSONParse double (text ++ [0])).toOption.join

/-- `cJSON_PrintUnformatted`, with memory for every text. -/
def printText (double : CDouble) (item : CJsonItem) : List UInt8 :=
  (cJSONPrintUnformatted double item).toOption.getD []

section Texts

variable {double : CDouble} {item : CJsonItem}

theorem print_text_eq (printable : Printable item) :
    cJSONPrintUnformatted double item = .ok (itemText double false 0 item) :=
  print_value_ok double false (whole_is_int printable) 0

theorem parse_item_ok (exact : double.Exact) (printable : Printable item) :
    cJSONParse double (itemText double false 0 item ++ [0]) = .ok (some item) := by
  unfold cJSONParse
  rw [parse_with_opts_text exact printable 0 false []]
  rfl

theorem c_string_print_text
    (ints : Every (fun valueint _ => IsInt valueint) (fun _ => True) item) :
    cString (printText double item) = itemText double false 0 item := by
  have printed : cJSONPrintUnformatted double item = .ok (itemText double false 0 item) :=
    print_value_ok double false ints 0
  rw [printText, printed]
  exact c_string_of_nul_free (item_text_nul_free double false item 0)

theorem parse_text_print (exact : double.Exact) (printable : Printable item) :
    parseText double (cString (printText double item)) = some item := by
  rw [c_string_print_text (whole_is_int printable), parseText, parse_item_ok exact printable]
  rfl

theorem parse_text_nil (double : CDouble) : parseText double [] = none := rfl

end Texts

/-- An item with integers and without byte zero in its strings is printed, and parsed again
from the text, wherever the text stands and whether it has to end there or not. -/
theorem print_parse {double : CDouble} (exact : double.Exact) {item : CJsonItem}
    (printable : Printable item) (fmt : Bool) (depth : Nat) :
    ∃ text, printValue double fmt depth item = .ok text ∧ ∀ requireNullTerminated behind,
      cJSONParseWithOpts double (text ++ 0 :: behind) requireNullTerminated =
        .ok (some (item, 0 :: behind)) :=
  ⟨itemText double fmt depth item, print_value_ok double fmt (whole_is_int printable) depth,
    parse_with_opts_text exact printable depth⟩

/-- What has been parsed once, with integers only, is parsed to the same item from what is
printed of it. -/
theorem reprint_stable {double : CDouble} (exact : double.Exact) {text : List UInt8}
    (nulFree : (0 : UInt8) ∉ text) (ends : text.getLast? ≠ some 92) {item : CJsonItem}
    (parsed : cJSONParse double (text ++ [0]) = .ok (some item))
    (whole : Every Whole (fun _ => True) item) (fmt : Bool) :
    ∃ again, printValue double fmt 0 item = .ok again ∧
      cJSONParse double (again ++ [0]) = .ok (some item) := by
  obtain ⟨result, run, each⟩ := parse_with_opts_completes double nulFree ends false
  unfold cJSONParse at parsed
  rw [run, bind_ok] at parsed
  have strings : NulFree item := by
    cases result with
    | none => cases parsed
    | some found =>
        obtain ⟨other, rest⟩ := found
        cases parsed
        exact each other rest rfl
  have printable := printable_of_parts whole strings
  refine ⟨itemText double fmt 0 item, print_value_ok double fmt (whole_is_int whole) 0, ?_⟩
  unfold cJSONParse
  rw [parse_with_opts_text exact printable 0 false []]
  rfl

theorem print_parse_switch :
    ∃ text, printValue unrounded true 1 (.object [(asciiBytes "switch", .number (-1) (-1))]) =
        .ok text ∧ ∀ requireNullTerminated behind,
      cJSONParseWithOpts unrounded (text ++ 0 :: behind) requireNullTerminated =
        .ok (some (.object [(asciiBytes "switch", .number (-1) (-1))], 0 :: behind)) := by
  refine print_parse unrounded_exact (.object ?_ ?_) true 1
  · intro child member
    rw [List.mem_singleton.1 member]
    decide
  · intro child member
    rw [List.mem_singleton.1 member]
    exact .number ⟨by unfold IsInt; decide, by norm_num⟩

def delayItem : CJsonItem :=
  .object [(asciiBytes "switch", .string (asciiBytes "on")), (asciiBytes "delay", .number (-20) (-20))]

theorem delay_printable : Printable delayItem := by
  refine .object (by decide) (List.forall_mem_cons.2 ⟨.string (by decide),
    List.forall_mem_singleton.2 (.number ⟨by unfold IsInt; decide, by norm_num⟩)⟩)

/-- Parsed from the formatted text, it is printed without a format. -/
theorem reprint_stable_delay :
    ∃ again, printValue unrounded false 0 delayItem = .ok again ∧
      cJSONParse unrounded (again ++ [0]) = .ok (some delayItem) := by
  refine @reprint_stable unrounded unrounded_exact (itemText unrounded true 0 delayItem)
    (item_text_nul_free unrounded true delayItem 0) ?_ delayItem ?_ ?_ false
  · rw [delayItem, itemText, List.getLast?_cons, List.getLast?_append]
    decide
  · unfold cJSONParse
    rw [parse_with_opts_text unrounded_exact delay_printable 0 false []]
    rfl
  · exact every_mono (fun _ _ whole => whole) (fun _ _ => trivial) delay_printable

end IotgoFirmware.Json.RoundTrips
