import IotgoFirmware.Library.CFaults
import IotgoFirmware.Library.CJsonItems
import Mathlib.Data.List.OfFn

/-!
# MAC addresses as text

`iotgoMac2Str` and `iotgoStr2Mac` of the factory test. The writer advances its
counter twice in a pass that prints a byte, so that the NUL behind each pair of
digits is where the next pass puts the colon; the reader takes pairs of digits
at a stride of three. A buffer is the list of bytes it has, and a write behind
them is a fault.
-/

namespace IotgoFirmware.Factory.MacTexts

open IotgoFirmware.Library.CStrings
open IotgoFirmware.Library.CFaults
open IotgoFirmware.Library.CJsonItems

set_option autoImplicit false

abbrev Mac := Fin 6 → UInt8

section Reader

/-- What `getValueFromHex` makes of one digit. -/
def digitValue (ret : UInt8) : UInt8 :=
  if 97 ≤ ret then ret - 97 + 10 else ret - 48

def getValueFromHex (hex2 : List UInt8) : UInt8 :=
  digitValue (hex2.getD 0 0) <<< 4 ||| digitValue (hex2.getD 1 0)

/-- A letter from `A` to `F` made small. -/
def lowerHex (byte : UInt8) : UInt8 :=
  if 65 ≤ byte ∧ byte ≤ 70 then byte + 32 else byte

/-- The null pointers leave the address as it was. -/
def iotgoStr2Mac (mac : Option Mac) (str : Option (List UInt8)) : Checked (Option Mac) :=
  match mac, str with
  | some _, some str => do
      let temp ← strncpy (List.replicate 18 0) str 17
      let temp := temp.mapIdx fun i byte => if i < 17 then lowerHex byte else byte
      pure (some fun i => getValueFromHex (temp.drop (i * 3)))
  | _, _ => pure mac

end Reader

section Writer

def hexDigit (digit : Nat) : UInt8 :=
  UInt8.ofNat (if digit < 10 then 48 + digit else 87 + digit)

/-- `%02x`. -/
def hexText (byte : UInt8) : List UInt8 :=
  [hexDigit (byte.toNat / 16), hexDigit (byte.toNat % 16)]

def macAt (mac : Mac) (i : Nat) : Checked UInt8 :=
  if inside : i < 6 then .ok (mac ⟨i, inside⟩) else .error .outside

/-- The loop of `iotgoMac2Str`. Neither counter gets beyond 19. -/
def mac2StrLoop (mac : Mac) (str : List UInt8) (i j : Nat) : Checked (List UInt8) :=
  if j < 18 then
    if (j + 1) % 3 = 0 then do
      let str ← storeAt str j [58]
      mac2StrLoop mac str i (j + 1)
    else do
      let byte ← macAt mac i
      let str ← storeAt str j (hexText byte ++ [0])
      mac2StrLoop mac str (i + 1) (j + 2)
  else .ok str
termination_by 18 - j

def iotgoMac2Str (str : List UInt8) (mac : Mac) : Checked (List UInt8) := do
  let str ← mac2StrLoop mac str 0 0
  storeAt str 17 [0]

end Writer

section Texts

def separated (groups : Fin 6 → List UInt8) : List UInt8 :=
  [58].intercalate (List.ofFn groups)

def macText (mac : Mac) : List UInt8 :=
  separated fun group => hexText (mac group)

def isHexDigit (byte : UInt8) : Bool :=
  isDigit byte || (65 ≤ byte && byte ≤ 70) || (97 ≤ byte && byte ≤ 102)

/-- Six groups of two hexadecimal digits, each letter large or small. -/
def IsMacText (text : List UInt8) : Prop :=
  ∃ high low : Fin 6 → UInt8, (∀ group, isHexDigit (high group) = true) ∧
    (∀ group, isHexDigit (low group) = true) ∧
    text = separated fun group => [high group, low group]

theorem separated_pairs (high low : Fin 6 → UInt8) :
    separated (fun group => [high group, low group]) =
      [high 0, low 0, 58, high 1, low 1, 58, high 2, low 2, 58, high 3, low 3, 58,
        high 4, low 4, 58, high 5, low 5] := rfl

theorem mac_text_length (mac : Mac) : (macText mac).length = 17 := rfl

end Texts

section Digits

theorem lower_hex_digit {digit : Nat} (small : digit < 16) :
    lowerHex (hexDigit digit) = hexDigit digit := by
  have all : ∀ digit < 16, lowerHex (hexDigit digit) = hexDigit digit := by decide
  exact all digit small

theorem hex_digit_ne_zero {digit : Nat} (small : digit < 16) : hexDigit digit ≠ 0 := by
  have all : ∀ digit < 16, hexDigit digit ≠ 0 := by decide
  exact all digit small

theorem digit_value_hex_digit {digit : Nat} (small : digit < 16) :
    digitValue (hexDigit digit) = UInt8.ofNat digit := by
  have all : ∀ digit < 16, digitValue (hexDigit digit) = UInt8.ofNat digit := by decide
  exact all digit small

theorem is_hex_digit_read {byte : UInt8} (digit : isHexDigit byte = true) :
    ∃ value < 16, lowerHex byte = hexDigit value ∧ toLower byte = hexDigit value ∧ byte ≠ 0 := by
  have all : ∀ code < 256, isHexDigit (UInt8.ofNat code) = true → ∃ value < 16,
      lowerHex (UInt8.ofNat code) = hexDigit value ∧
        toLower (UInt8.ofNat code) = hexDigit value ∧ UInt8.ofNat code ≠ 0 := by
    decide +kernel
  have read := all byte.toNat byte.toNat_lt
  rw [UInt8.ofNat_toNat] at read
  exact read digit

theorem halves_join {high low : Nat} (highSmall : high < 16) (lowSmall : low < 16) :
    UInt8.ofNat high <<< 4 ||| UInt8.ofNat low = UInt8.ofNat (16 * high + low) := by
  have all : ∀ high < 16, ∀ low < 16,
      UInt8.ofNat high <<< 4 ||| UInt8.ofNat low = UInt8.ofNat (16 * high + low) := by
    decide +kernel
  exact all high highSmall low lowSmall

theorem get_value_of_digits {high low : Nat} (highSmall : high < 16) (lowSmall : low < 16)
    (rest : List UInt8) :
    getValueFromHex (hexDigit high :: hexDigit low :: rest) = UInt8.ofNat (16 * high + low) := by
  rw [getValueFromHex, List.getD_cons_zero, List.getD_cons_succ, List.getD_cons_zero,
    digit_value_hex_digit highSmall, digit_value_hex_digit lowSmall, halves_join highSmall lowSmall]

theorem hex_text_of_halves {high low : Nat} (highSmall : high < 16) (lowSmall : low < 16) :
    hexText (UInt8.ofNat (16 * high + low)) = [hexDigit high, hexDigit low] := by
  have whole : (UInt8.ofNat (16 * high + low)).toNat = 16 * high + low := by
    rw [UInt8.toNat_ofNat']
    omega
  have upper : (16 * high + low) / 16 = high := by omega
  have lower : (16 * high + low) % 16 = low := by omega
  rw [hexText, whole, upper, lower]

end Digits

section Writing

theorem store_behind (front old rest bytes : List UInt8) {offset : Nat}
    (place : front.length = offset) (same : old.length = bytes.length) :
    storeAt (front ++ old ++ rest) offset bytes = .ok (front ++ bytes ++ rest) := by
  apply store_at_ok_iff.2
  subst place
  constructor
  · simp only [List.length_append]
    omega
  · rw [List.append_assoc front old, List.take_left, ← same, ← List.drop_drop, List.drop_left,
      List.drop_left]

theorem mac_2_str_group (mac : Mac) (front old rest : List UInt8) {i : Nat} (inside : i < 6)
    (place : front.length = 3 * i) (three : old.length = 3) :
    mac2StrLoop mac (front ++ old ++ rest) i (3 * i) =
      mac2StrLoop mac (front ++ (hexText (mac ⟨i, inside⟩) ++ [58]) ++ rest) (i + 1)
        (3 * (i + 1)) := by
  have printed : storeAt (front ++ old ++ rest) (3 * i) (hexText (mac ⟨i, inside⟩) ++ [0]) =
      .ok (front ++ (hexText (mac ⟨i, inside⟩) ++ [0]) ++ rest) :=
    store_behind front old rest _ place three
  have behind : (front ++ hexText (mac ⟨i, inside⟩)).length = 3 * i + 2 := by
    rw [List.length_append, place]
    rfl
  have parted := store_behind (front ++ hexText (mac ⟨i, inside⟩)) [0] rest [58] behind rfl
  rw [mac2StrLoop, if_pos (by omega), if_neg (by omega), macAt, dif_pos inside]
  simp only [bind_ok, printed]
  rw [mac2StrLoop, if_pos (by omega), if_pos (by omega), ← List.append_assoc front, parted]
  rw [bind_ok, List.append_assoc front]
  rfl

theorem mac_2_str_groups (mac : Mac) (rest : List UInt8) (left : Nat) :
    ∀ (front old : List UInt8) (i : Nat), i + left = 6 → front.length = 3 * i →
      old.length = 3 * left →
      mac2StrLoop mac (front ++ old ++ rest) i (3 * i) =
        .ok (front ++ ((List.finRange 6).drop i).flatMap
          (fun group => hexText (mac group) ++ [58]) ++ rest) := by
  induction left with
  | zero =>
      intro front old i all place none
      have last : i = 6 := all
      subst last
      rw [List.eq_nil_of_length_eq_zero none, mac2StrLoop, if_neg (by omega)]
      rfl
  | succ left ih =>
      intro front old i all place size
      have inside : i < 6 := by omega
      have three : (old.take 3).length = 3 := by
        rw [List.length_take]
        omega
      have group := mac_2_str_group mac front (old.take 3) (old.drop 3 ++ rest) inside place three
      have next := ih (front ++ (hexText (mac ⟨i, inside⟩) ++ [58])) (old.drop 3) (i + 1)
        (by omega) (by simp [place, hexText]; omega) (by simp [size]; omega)
      have first : (List.finRange 6).drop i =
          ⟨i, inside⟩ :: (List.finRange 6).drop (i + 1) := by
        rw [List.drop_eq_getElem_cons (by simpa using inside), List.getElem_finRange]
        rfl
      simp only [List.append_assoc] at group next ⊢
      rw [← List.append_assoc (old.take 3), List.take_append_drop] at group
      rw [group, next, first, List.flatMap_cons]
      simp only [List.append_assoc]

theorem mac_2_str_loop_size (mac : Mac) (str : List UInt8) (i j : Nat) :
    (∃ written, mac2StrLoop mac str i j = .ok written ∧ written.length = str.length) ∨
      mac2StrLoop mac str i j = .error .outside := by
  have store_size : ∀ (array : List UInt8) (offset : Nat) (bytes : List UInt8),
      (∃ stored, storeAt array offset bytes = .ok stored ∧ stored.length = array.length) ∨
        storeAt array offset bytes = .error .outside := by
    intro array offset bytes
    unfold storeAt
    split
    · rename_i fits
      refine .inl ⟨_, rfl, ?_⟩
      simp only [List.length_append, List.length_take, List.length_drop]
      omega
    · exact .inr rfl
  fun_induction mac2StrLoop mac str i j with
  | case1 str i j inside colon ih =>
      rcases store_size str j [58] with ⟨stored, run, size⟩ | fault
      · simp only [run, bind_ok, ← size]
        exact ih stored
      · exact .inr (by rw [fault]; rfl)
  | case2 str i j inside digits ih =>
      unfold macAt
      split
      · rename_i known
        rw [bind_ok]
        rcases store_size str j (hexText (mac ⟨i, known⟩) ++ [0]) with ⟨stored, run, size⟩ | fault
        · simp only [run, bind_ok, ← size]
          exact ih stored
        · exact .inr (by rw [fault]; rfl)
      · exact .inr rfl
  | case3 str i j done => exact .inl ⟨str, rfl, rfl⟩

theorem iotgo_mac_2_str_eq (mac : Mac) (str : List UInt8) :
    iotgoMac2Str str mac =
      if 18 ≤ str.length then .ok (macText mac ++ [0] ++ str.drop 18) else .error .outside := by
  unfold iotgoMac2Str
  split
  · rename_i room
    have size : (str.take 18).length = 18 := by
      rw [List.length_take]
      omega
    have run := mac_2_str_groups mac (str.drop 18) 6 [] (str.take 18) 0 rfl rfl size
    rw [List.nil_append, List.take_append_drop] at run
    have groups : ((List.finRange 6).drop 0).flatMap (fun group => hexText (mac group) ++ [58]) =
        macText mac ++ [58] := rfl
    rw [Nat.mul_zero, List.nil_append, groups] at run
    rw [run, bind_ok]
    exact store_behind (macText mac) [58] (str.drop 18) [0] (mac_text_length mac) rfl
  · rename_i short
    rcases mac_2_str_loop_size mac str 0 0 with ⟨written, run, size⟩ | fault
    · rw [run, bind_ok, storeAt, if_neg]
      rw [size, List.length_singleton]
      omega
    · rw [fault]
      rfl

end Writing

section Reading

theorem map_17_separated (small : UInt8 → UInt8) (high low : Fin 6 → UInt8) :
    (((separated fun group => [high group, low group]) ++ List.replicate (18 - 17) 0).mapIdx
        fun i byte => if i < 17 then small byte else byte) =
      [small (high 0), small (low 0), small 58, small (high 1), small (low 1), small 58,
        small (high 2), small (low 2), small 58, small (high 3), small (low 3), small 58,
        small (high 4), small (low 4), small 58, small (high 5), small (low 5), 0] := by
  rw [separated_pairs]
  simp [List.mapIdx_cons]

theorem drop_to_group (small : UInt8 → UInt8) (high low : Fin 6 → UInt8) (group : Fin 6) :
    (((separated fun group => [high group, low group]) ++ List.replicate (18 - 17) 0).mapIdx
        fun i byte => if i < 17 then small byte else byte).drop (group * 3) =
      small (high group) :: small (low group) ::
        (((separated fun group => [high group, low group]) ++ List.replicate (18 - 17) 0).mapIdx
          fun i byte => if i < 17 then small byte else byte).drop (group * 3 + 2) := by
  rw [map_17_separated]
  revert group
  exact Fin.forall_fin_succ.2 ⟨rfl, Fin.forall_fin_succ.2 ⟨rfl, Fin.forall_fin_succ.2 ⟨rfl,
    Fin.forall_fin_succ.2 ⟨rfl, Fin.forall_fin_succ.2 ⟨rfl, Fin.forall_fin_succ.2 ⟨rfl,
      fun group => group.elim0⟩⟩⟩⟩⟩⟩

theorem iotgo_str_2_mac_pairs (old : Mac) (high low : Fin 6 → UInt8) (upper lower : Fin 6 → Nat)
    (more : List UInt8)
    (highRead : ∀ group, upper group < 16 ∧ lowerHex (high group) = hexDigit (upper group) ∧
      high group ≠ 0)
    (lowRead : ∀ group, lower group < 16 ∧ lowerHex (low group) = hexDigit (lower group) ∧
      low group ≠ 0) :
    iotgoStr2Mac (some old) (some (separated (fun group => [high group, low group]) ++ more)) =
      .ok (some fun group => UInt8.ofNat (16 * upper group + lower group)) := by
  have nulFree : (0 : UInt8) ∉ separated fun group => [high group, low group] := by
    have highs := fun group => (highRead group).2.2.symm
    have lows := fun group => (lowRead group).2.2.symm
    simp [separated_pairs, highs, lows]
  have long : 17 ≤ strlen (separated (fun group => [high group, low group]) ++ more) := by
    rw [strlen, c_string_append more nulFree, List.length_append]
    exact Nat.le_add_right 17 _
  have copied := strncpy_cleared long (show 17 ≤ 18 by decide)
  rw [c_string_append more nulFree, List.take_left' (by rfl)] at copied
  simp only [iotgoStr2Mac, copied, bind_ok]
  refine congrArg (fun mac => Except.ok (some mac)) (funext fun group => ?_)
  rw [← get_value_of_digits (highRead group).1 (lowRead group).1
    (((separated (fun group => [high group, low group]) ++ List.replicate (18 - 17) 0).mapIdx
      fun i byte => if i < 17 then lowerHex byte else byte).drop (group * 3 + 2)),
    ← (highRead group).2.1, ← (lowRead group).2.1]
  refine congrArg getValueFromHex ?_
  exact drop_to_group lowerHex high low group

end Reading

/-- What is written reads back as the address, the writer touches the first 18
bytes and no other, and the text of an address that was read is what was read,
in small letters. -/
theorem mac_texts_convert_back :
    (∀ mac : Mac, ∃ written, written.length = 18 ∧ ∀ str, iotgoMac2Str str mac =
      if 18 ≤ str.length then .ok (written ++ str.drop 18) else .error .outside) ∧
    (∀ (mac old : Mac) (str text : List UInt8), iotgoMac2Str str mac = .ok text →
      iotgoStr2Mac (some old) (some text) = .ok (some mac)) ∧
    (∀ (text more str : List UInt8) (old : Mac), IsMacText text → 18 ≤ str.length →
      ∃ mac, iotgoStr2Mac (some old) (some (text ++ more)) = .ok (some mac) ∧
        iotgoMac2Str str mac = .ok (text.map toLower ++ [0] ++ str.drop 18)) := by
  refine ⟨fun mac => ⟨macText mac ++ [0], rfl, iotgo_mac_2_str_eq mac⟩, ?_, ?_⟩
  · intro mac old str text written
    have room : 18 ≤ str.length := by
      by_contra short
      rw [iotgo_mac_2_str_eq, if_neg short] at written
      cases written
    rw [iotgo_mac_2_str_eq, if_pos room] at written
    cases written
    have halves : ∀ group, (mac group).toNat / 16 < 16 ∧ (mac group).toNat % 16 < 16 := by
      intro group
      have bound := (mac group).toNat_lt
      omega
    have read := iotgo_str_2_mac_pairs old _ _ _ _ ([0] ++ str.drop 18)
      (fun group => ⟨(halves group).1, lower_hex_digit (halves group).1,
        hex_digit_ne_zero (halves group).1⟩)
      (fun group => ⟨(halves group).2, lower_hex_digit (halves group).2,
        hex_digit_ne_zero (halves group).2⟩)
    rw [List.append_assoc]
    refine read.trans (congrArg (fun mac => Except.ok (some mac)) (funext fun group => ?_))
    rw [Nat.div_add_mod, UInt8.ofNat_toNat]
  · intro text more str old isText room
    rcases isText with ⟨high, low, highDigits, lowDigits, rfl⟩
    choose upper highRead using fun group => is_hex_digit_read (highDigits group)
    choose lower lowRead using fun group => is_hex_digit_read (lowDigits group)
    refine ⟨_, iotgo_str_2_mac_pairs old high low upper lower more
      (fun group => ⟨(highRead group).1, (highRead group).2.1, (highRead group).2.2.2⟩)
      (fun group => ⟨(lowRead group).1, (lowRead group).2.1, (lowRead group).2.2.2⟩), ?_⟩
    have small : (separated fun group => [high group, low group]).map toLower =
        macText fun group => UInt8.ofNat (16 * upper group + lower group) := by
      have texts := fun group => hex_text_of_halves (highRead group).1 (lowRead group).1
      have highs := fun group => (highRead group).2.2.1
      have lows := fun group => (lowRead group).2.2.1
      have colon : toLower 58 = 58 := by decide
      simp only [macText, texts, separated_pairs, List.map_cons, List.map_nil, highs, lows, colon]
    rw [iotgo_mac_2_str_eq, if_pos room, small]

end IotgoFirmware.Factory.MacTexts
