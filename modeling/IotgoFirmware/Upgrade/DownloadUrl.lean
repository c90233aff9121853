import IotgoFirmware.Library.CFaults
import IotgoFirmware.Library.CIntegers

/-!
# The address in a download URL

`parseDownloadURLToUpgradeInfo` takes the first `:` for the one before the port and the first
`/` for the start of the path, whichever comes first, and copies as many bytes as lie between
them. Without a port a `:` of the path comes behind the `/`, and the number of bytes is negative.
-/

namespace IotgoFirmware.Upgrade.DownloadUrl

open IotgoFirmware.Library.CFaults
open IotgoFirmware.Library.CIntegers
open IotgoFirmware.Library.CStrings

set_option autoImplicit false

def iotgoUpgradeProtocolInvalid : UInt8 := 0
def iotgoUpgradeProtocolHttp : UInt8 := 1

def iotgoUpgradeHttpDefPort : UInt32 := 80

/-- The fields of `IoTgoUpgradeInfo` that are parsed: the bytes of `host`, and the text in
`path`. -/
structure DownloadAddress where
  protocol : UInt8
  host : List UInt8
  port : UInt32
  path : List UInt8
deriving DecidableEq

section Parser

/-- The bytes that `temp` gets: `slash - colon + 1` as a `size_t`. -/
def tempCount (colon slash : Nat) : Nat :=
  uint32 ((slash : Int) - colon + 1)

/-- From behind `http://` on; `host` has been cleared. -/
def parseHttp (url : List UInt8) (info : DownloadAddress) : Checked DownloadAddress :=
  match strstr url (asciiBytes ":"), strstr url (asciiBytes "/") with
  | some colon, some slash => do
      let host ← strncpy info.host url colon
      let temp ← strncpy (List.replicate 10 0) (url.drop (colon + 1)) (tempCount colon slash)
      let path ← strcpy 100 (url.drop slash)
      return { info with host, port := UInt32.ofInt (atoi temp), path }
  | none, some slash => do
      let host ← strncpy info.host url slash
      let path ← strcpy 100 (url.drop slash)
      return { info with host, port := iotgoUpgradeHttpDefPort, path }
  | _, none => return info

def parseDownloadURLToUpgradeInfo (dlurl : List UInt8) (info : DownloadAddress) :
    Checked DownloadAddress :=
  if asciiBytes "http://" <+: cString dlurl then
    parseHttp (dlurl.drop 7)
      { info with protocol := iotgoUpgradeProtocolHttp, host := List.replicate 50 0 }
  else .ok { info with protocol := iotgoUpgradeProtocolInvalid }

end Parser

section Writes

/-- The copies stay inside of `host`, `temp` and `path`. -/
def WritesInside (dlurl : List UInt8) : Prop :=
  asciiBytes "http://" <+: cString dlurl →
    ∀ slash, strstr (dlurl.drop 7) (asciiBytes "/") = some slash →
      strlen (dlurl.drop (7 + slash)) < 100 ∧
        match strstr (dlurl.drop 7) (asciiBytes ":") with
        | none => slash ≤ 50
        | some colon => colon ≤ 50 ∧ tempCount colon slash ≤ 10

/-- In a string of less than 2 GiB: the `:` comes at most one byte behind the `/`, and at most
nine before it. -/
theorem temp_fits_iff {colon slash : Nat} (short : colon < 2147483648)
    (short' : slash < 2147483648) :
    tempCount colon slash ≤ 10 ↔ colon ≤ slash + 1 ∧ slash ≤ colon + 9 := by
  unfold tempCount uint32
  omega

theorem completes_http_iff {url : List UInt8} {info : DownloadAddress}
    (host : info.host.length = 50) :
    Completes (parseHttp url info) ↔ ∀ slash, strstr url (asciiBytes "/") = some slash →
      strlen (url.drop slash) < 100 ∧
        match strstr url (asciiBytes ":") with
        | none => slash ≤ 50
        | some colon => colon ≤ 50 ∧ tempCount colon slash ≤ 10 := by
  unfold parseHttp
  cases found : strstr url (asciiBytes "/") with
  | none =>
      refine iff_of_true ?_ fun slash absent => by cases absent
      cases strstr url (asciiBytes ":") with
      | none => exact completes_pure info
      | some colon => exact completes_pure info
  | some slash =>
      have only : ∀ condition : Nat → Prop,
          (∀ other, some slash = some other → condition other) ↔ condition slash := by
        intro condition
        exact ⟨fun all => all slash rfl, fun holds other same => Option.some.inj same ▸ holds⟩
      rw [only]
      cases strstr url (asciiBytes ":") with
      | none =>
          dsimp only
          rw [completes_bind_iff_and (fun host _ => completes_bind_of_total fun path =>
            completes_pure _), completes_strncpy_iff, host, completes_strcpy_iff]
          exact and_comm
      | some colon =>
          dsimp only
          rw [completes_bind_iff_and (fun host _ => completes_bind_iff_and fun temp _ =>
            completes_bind_of_total fun path => completes_pure _), completes_strncpy_iff, host,
            completes_strncpy_iff, List.length_replicate, completes_strcpy_iff]
          rw [← and_assoc]
          exact and_comm

theorem writes_inside_iff (dlurl : List UInt8) (info : DownloadAddress) :
    Completes (parseDownloadURLToUpgradeInfo dlurl info) ↔ WritesInside dlurl := by
  unfold parseDownloadURLToUpgradeInfo WritesInside
  by_cases http : asciiBytes "http://" <+: cString dlurl
  · rw [if_pos http, completes_http_iff (List.length_replicate ..)]
    simp only [List.drop_drop]
    exact ⟨fun inside _ => inside, fun inside => inside http⟩
  · rw [if_neg http]
    exact iff_of_true (completes_ok _) fun other => absurd other http

end Writes

section Urls

variable {host path behind : List UInt8} {port : Option Nat} {info : DownloadAddress}

def portText : Option Nat → List UInt8
  | some port => 58 :: decimalText port
  | none => []

/-- The URL behind `http://`. -/
def hostPortPath (host : List UInt8) (port : Option Nat) (path : List UInt8) : List UInt8 :=
  host ++ portText port ++ 47 :: path

def downloadUrl (host : List UInt8) (port : Option Nat) (path : List UInt8) : List UInt8 :=
  asciiBytes "http://" ++ hostPortPath host port path

/-- The parts of a download URL; `path` does not include the first `/`. -/
structure IsUrl (host : List UInt8) (port : Option Nat) (path : List UInt8) : Prop where
  hostBytes : ∀ byte ∈ host, byte ≠ 0 ∧ byte ≠ 58 ∧ byte ≠ 47
  shortHost : host.length < 50
  portRange : ∀ number ∈ port, 1 ≤ number ∧ number ≤ 65535
  pathBytes : (0 : UInt8) ∉ path
  shortPath : path.length < 100

structure Stored (host : List UInt8) (port : Option Nat) (path : List UInt8)
    (stored : DownloadAddress) : Prop where
  protocol : stored.protocol = iotgoUpgradeProtocolHttp
  host : cString stored.host = host
  port : stored.port = UInt32.ofNat (port.getD 80)
  path : cString stored.path = 47 :: path

theorem host_free (url : IsUrl host port path) {byte : UInt8}
    (part : byte = 0 ∨ byte = 58 ∨ byte = 47) : byte ∉ host := by
  intro member
  have plain := url.hostBytes byte member
  rcases part with rfl | rfl | rfl
  · exact plain.1 rfl
  · exact plain.2.1 rfl
  · exact plain.2.2 rfl

theorem port_text_free {byte : UInt8} (part : byte = 0 ∨ byte = 47) (port : Option Nat) :
    byte ∉ portText port := by
  cases port with
  | none => exact List.not_mem_nil
  | some number =>
      rw [portText, List.mem_cons, not_or]
      constructor
      · rcases part with rfl | rfl <;> decide
      · intro member
        have digit := decimal_text_digits number byte member
        rcases part with rfl | rfl
        · exact absurd digit (by decide)
        · exact absurd digit (by decide)

theorem url_text (url : IsUrl host port path) (behind : List UInt8) :
    cString (hostPortPath host port path ++ 0 :: behind) = hostPortPath host port path := by
  apply c_string_terminated
  rw [hostPortPath, List.mem_append, List.mem_append, List.mem_cons, not_or, not_or, not_or]
  exact ⟨⟨host_free url (.inl rfl), port_text_free (.inl rfl) port⟩, by decide, url.pathBytes⟩

theorem url_slash (url : IsUrl host port path) (behind : List UInt8) :
    strstr (hostPortPath host port path ++ 0 :: behind) (asciiBytes "/") =
      some (host.length + (portText port).length) := by
  have slash : asciiBytes "/" = [47] := by decide
  have front : ∀ byte : UInt8, byte = 0 ∨ byte = 47 → byte ∉ host ++ portText port := by
    intro byte part
    rw [List.mem_append, not_or]
    refine ⟨host_free url ?_, port_text_free part port⟩
    rcases part with rfl | rfl
    · exact .inl rfl
    · exact .inr (.inr rfl)
  rw [slash, hostPortPath, List.append_assoc _ (47 :: path), List.cons_append,
    strstr_byte (front 0 (.inl rfl)) (by decide) (front 47 (.inr rfl)), List.length_append]

theorem url_path (url : IsUrl host port path) (behind : List UInt8) :
    cString ((hostPortPath host port path ++ 0 :: behind).drop
      (host.length + (portText port).length)) = 47 :: path := by
  have position : host.length + (portText port).length = (host ++ portText port).length :=
    List.length_append.symm
  have nulFree : (0 : UInt8) ∉ 47 :: path := by
    rw [List.mem_cons, not_or]
    exact ⟨by decide, url.pathBytes⟩
  rw [position, hostPortPath, List.append_assoc, List.drop_left]
  exact c_string_terminated behind nulFree

theorem url_host (url : IsUrl host port path) (behind : List UInt8) :
    strncpy (List.replicate 50 0) (hostPortPath host port path ++ 0 :: behind) host.length =
        .ok (host ++ List.replicate (50 - host.length) 0) ∧
      cString (host ++ List.replicate (50 - host.length) 0) = host := by
  have text := url_text url behind
  have short := url.shortHost
  constructor
  · rw [strncpy_cleared _ (Nat.le_of_lt short), text, hostPortPath, List.append_assoc,
      List.take_left]
    rw [strlen, text, hostPortPath, List.length_append, List.length_append]
    omega
  · have more : List.replicate (50 - host.length) (0 : UInt8) =
        0 :: List.replicate (49 - host.length) 0 := by
      rw [← List.replicate_succ]
      congr 1
      omega
    rw [more]
    exact c_string_terminated _ (host_free url (.inl rfl))

theorem url_temp {number : Nat} (url : IsUrl host (some number) path) (behind : List UInt8) :
    ∃ temp, strncpy (List.replicate 10 0)
        ((hostPortPath host (some number) path ++ 0 :: behind).drop (host.length + 1))
        ((decimalText number).length + 2) = .ok temp ∧
      atoi temp = number := by
  have range := url.portRange number rfl
  have digits : (decimalText number).length ≤ 5 :=
    decimal_text_length (by decide) (by omega)
  have memory : (hostPortPath host (some number) path ++ 0 :: behind).drop (host.length + 1) =
      decimalText number ++ 47 :: (path ++ 0 :: behind) := by
    rw [hostPortPath, portText, List.append_assoc, List.append_assoc, List.drop_append,
      List.drop_eq_nil_of_le (Nat.le_succ _), Nat.add_sub_cancel_left]
    simp
  have nulFree : (0 : UInt8) ∉ decimalText number := fun member =>
    absurd (decimal_text_digits number 0 member) (by decide)
  refine ⟨_, strncpy_ok_iff.2 ⟨?_, rfl⟩, ?_⟩
  · rw [List.length_replicate]
    omega
  · have text : cString (decimalText number ++ 47 :: (path ++ 0 :: behind)) =
        decimalText number ++ 47 :: cString (path ++ 0 :: behind) := by
      rw [c_string_append _ nulFree]
      rfl
    rw [memory, text, List.take_append, List.take_of_length_le (Nat.le_add_right _ 2),
      Nat.add_sub_cancel_left, List.take_succ_cons, List.append_assoc, List.append_assoc,
      List.cons_append]
    rw [atoi_digits (decimal_text_ne_nil number) (decimal_text_digits number), decimal_text_value]
    · unfold clampInt
      omega
    · intro byte first
      cases first
      decide

theorem colon_byte : asciiBytes ":" = [58] := by
  decide

theorem url_begins (host : List UInt8) (port : Option Nat) (path behind : List UInt8)
    (info : DownloadAddress) :
    parseDownloadURLToUpgradeInfo (downloadUrl host port path ++ 0 :: behind) info =
      parseHttp (hostPortPath host port path ++ 0 :: behind)
        { info with protocol := iotgoUpgradeProtocolHttp, host := List.replicate 50 0 } := by
  have nulFree : (0 : UInt8) ∉ asciiBytes "http://" := by decide
  have http : asciiBytes "http://" <+: cString (downloadUrl host port path ++ 0 :: behind) := by
    rw [downloadUrl, List.append_assoc, c_string_append _ nulFree]
    exact List.prefix_append _ _
  rw [parseDownloadURLToUpgradeInfo, if_pos http, downloadUrl, List.append_assoc]
  rfl

theorem path_fits (url : IsUrl host port path) (behind : List UInt8) :
    strlen ((hostPortPath host port path ++ 0 :: behind).drop
      (host.length + (portText port).length)) < 100 ↔ path.length < 99 := by
  rw [strlen, url_path url, List.length_cons]
  omega

theorem stored_with_port {number : Nat} (url : IsUrl host (some number) path)
    (behind : List UInt8) :
    (∃ stored, parseHttp (hostPortPath host (some number) path ++ 0 :: behind)
        { info with protocol := iotgoUpgradeProtocolHttp, host := List.replicate 50 0 } =
          .ok stored ∧ Stored host (some number) path stored) ↔ path.length < 99 := by
  have first : strstr (hostPortPath host (some number) path ++ 0 :: behind) (asciiBytes ":") =
      some host.length := by
    rw [colon_byte, hostPortPath, portText, List.append_assoc, List.append_assoc, List.cons_append]
    exact strstr_byte (host_free url (.inl rfl)) (by decide) (host_free url (.inr (.inl rfl)))
  have count : tempCount host.length (host.length + (portText (some number)).length) =
      (decimalText number).length + 2 := by
    have range := url.portRange number rfl
    have digits : (decimalText number).length ≤ 5 :=
      decimal_text_length (by decide) (by omega)
    rw [portText, List.length_cons]
    unfold tempCount uint32
    omega
  rcases url_host url behind with ⟨copied, hostText⟩
  rcases url_temp url behind with ⟨temp, copiedTemp, value⟩
  have range := url.portRange number rfl
  rw [parseHttp, first, url_slash url]
  dsimp only
  rw [count, copied, copiedTemp]
  constructor
  · rintro ⟨stored, ended, -⟩
    rcases bind_ok_iff.1 ended with ⟨host', -, later⟩
    rcases bind_ok_iff.1 later with ⟨temp', -, later'⟩
    rcases bind_ok_iff.1 later' with ⟨path', copy, -⟩
    exact (path_fits url behind).1 (strcpy_ok_iff.1 copy).1
  · intro short
    have copy := strcpy_ok_iff.2 ⟨(path_fits url behind).2 short, rfl⟩
    refine ⟨_, bind_ok_iff.2 ⟨_, rfl, bind_ok_iff.2 ⟨_, rfl, bind_ok_iff.2 ⟨_, copy, rfl⟩⟩⟩, ?_⟩
    refine ⟨rfl, hostText, ?_, ?_⟩
    · dsimp only
      rw [value, of_int_natCast]
      rfl
    · dsimp only
      rw [c_string_idem]
      exact url_path url behind

theorem url_no_colon (url : IsUrl host none path) (behind : List UInt8) (absent : (58 : UInt8) ∉ path) :
    strstr (hostPortPath host none path ++ 0 :: behind) (asciiBytes ":") = none := by
  rw [colon_byte]
  apply strstr_byte_none
  rw [url_text url, hostPortPath, portText, List.append_nil, List.mem_append, List.mem_cons, not_or,
    not_or]
  exact ⟨host_free url (.inr (.inl rfl)), by decide, absent⟩

theorem url_path_colon (url : IsUrl host none path) (behind : List UInt8)
    (present : (58 : UInt8) ∈ path) :
    ∃ before, before < path.length ∧
      strstr (hostPortPath host none path ++ 0 :: behind) (asciiBytes ":") =
        some (host.length + 1 + before) := by
  obtain ⟨front, more, split, absent⟩ := List.eq_append_cons_of_mem present
  have nulFree : (0 : UInt8) ∉ host ++ 47 :: front := by
    rw [List.mem_append, List.mem_cons, not_or, not_or]
    refine ⟨host_free url (.inl rfl), by decide, fun member => url.pathBytes ?_⟩
    rw [split]
    exact List.mem_append_left _ member
  have colonFree : (58 : UInt8) ∉ host ++ 47 :: front := by
    rw [List.mem_append, List.mem_cons, not_or, not_or]
    exact ⟨host_free url (.inr (.inl rfl)), by decide, absent⟩
  have text : hostPortPath host none path ++ 0 :: behind =
      (host ++ 47 :: front) ++ 58 :: (more ++ 0 :: behind) := by
    rw [hostPortPath, portText, split]
    simp
  refine ⟨front.length, ?_, ?_⟩
  · rw [split, List.length_append, List.length_cons]
    omega
  · rw [colon_byte, text, strstr_byte nulFree (by decide) colonFree, List.length_append,
      List.length_cons]
    congr 1
    omega

theorem temp_of_path_colon (url : IsUrl host none path) {memory temp : List UInt8} {before : Nat}
    (short : before < path.length)
    (copied : strncpy (List.replicate 10 0) memory
      (tempCount (host.length + 1 + before) host.length) = .ok temp) :
    temp = List.replicate 10 0 := by
  have shortHost := url.shortHost
  have shortPath := url.shortPath
  obtain ⟨fits, content⟩ := strncpy_ok_iff.1 copied
  rw [List.length_replicate] at fits
  have adjacent := ((temp_fits_iff (by omega) (by omega)).1 fits).1
  have nothing : tempCount (host.length + 1 + before) host.length = 0 := by
    unfold tempCount uint32
    omega
  rw [content, nothing, List.take_zero, Nat.zero_sub, List.drop_zero]
  rfl

theorem stored_without_port (url : IsUrl host none path) (behind : List UInt8) :
    (∃ stored, parseHttp (hostPortPath host none path ++ 0 :: behind)
        { info with protocol := iotgoUpgradeProtocolHttp, host := List.replicate 50 0 } =
          .ok stored ∧ Stored host none path stored) ↔
      (58 : UInt8) ∉ path ∧ path.length < 99 := by
  have slash := url_slash url behind
  rw [portText, List.length_nil, Nat.add_zero] at slash
  have fits := path_fits url behind
  rw [portText, List.length_nil, Nat.add_zero] at fits
  constructor
  · rintro ⟨stored, ended, right⟩
    by_cases present : (58 : UInt8) ∈ path
    · rcases url_path_colon url behind present with ⟨before, short, first⟩
      rw [parseHttp, first, slash] at ended
      rcases bind_ok_iff.1 ended with ⟨host', -, later⟩
      rcases bind_ok_iff.1 later with ⟨temp, copied, later'⟩
      rcases bind_ok_iff.1 later' with ⟨path', -, last⟩
      cases last
      have port := right.port
      dsimp only at port
      rw [temp_of_path_colon url short copied] at port
      exact absurd port (by decide)
    · rw [parseHttp, url_no_colon url behind present, slash] at ended
      rcases bind_ok_iff.1 ended with ⟨host', -, later⟩
      rcases bind_ok_iff.1 later with ⟨path', copy, -⟩
      exact ⟨present, fits.1 (strcpy_ok_iff.1 copy).1⟩
  · rintro ⟨absent, short⟩
    rcases url_host url behind with ⟨copied, hostText⟩
    have copy := strcpy_ok_iff.2 ⟨fits.2 short, rfl⟩
    have text := url_path url behind
    rw [portText, List.length_nil, Nat.add_zero] at text
    rw [parseHttp, url_no_colon url behind absent, slash]
    dsimp only
    rw [copied]
    refine ⟨_, bind_ok_iff.2 ⟨_, rfl, bind_ok_iff.2 ⟨_, copy, rfl⟩⟩, rfl, hostText, rfl, ?_⟩
    dsimp only
    rw [c_string_idem]
    exact text

/-- Of any string the copies stay inside exactly if the lengths that are computed from the first
`:` and the first `/` do; and a URL with its parts is stored as it says unless a `:` stands in the
path with no port before it, or the path fills the array. -/
theorem download_url_iff (dlurl : List UInt8) (info : DownloadAddress) :
    (Completes (parseDownloadURLToUpgradeInfo dlurl info) ↔ WritesInside dlurl) ∧
      ∀ host port path behind, IsUrl host port path →
        dlurl = downloadUrl host port path ++ 0 :: behind →
        ((∃ stored, parseDownloadURLToUpgradeInfo dlurl info = .ok stored ∧
            Stored host port path stored) ↔
          (port = none → (58 : UInt8) ∉ path) ∧ path.length < 99) := by
  constructor
  · exact writes_inside_iff dlurl info
  · rintro host port path behind url rfl
    rw [url_begins]
    cases port with
    | none =>
        rw [stored_without_port url]
        exact and_congr_left fun _ => ⟨fun absent _ => absent, fun absent => absent rfl⟩
    | some number =>
        rw [stored_with_port url]
        exact ⟨fun short => ⟨fun missing => (by cases missing), short⟩, fun both => both.2⟩

def noAddress : DownloadAddress where
  protocol := 0
  host := []
  port := 0
  path := []

/-- Without a port, a `:` in the query makes the number of bytes for `temp` negative. -/
theorem colon_in_query :
    IsUrl (asciiBytes "10.0.0.1") none (asciiBytes "user.bin?ts=10:01") ∧
      ¬Completes (parseDownloadURLToUpgradeInfo
        (asciiBytes "http://10.0.0.1/user.bin?ts=10:01") noAddress) := by
  have hostBytes : (asciiBytes "10.0.0.1").all (fun byte =>
      decide (byte ≠ 0 ∧ byte ≠ 58 ∧ byte ≠ 47)) = true := by
    decide
  refine ⟨⟨?_, by decide, ?_, by decide, by decide⟩, ?_⟩
  · intro byte member
    exact of_decide_eq_true (List.all_eq_true.1 hostBytes byte member)
  · intro number absent
    cases absent
  · rw [writes_inside_iff]
    intro inside
    have copies := (inside (by decide) 8 (by decide)).2
    have colon : strstr ((asciiBytes "http://10.0.0.1/user.bin?ts=10:01").drop 7)
        (asciiBytes ":") = some 23 := by
      decide +kernel
    rw [colon] at copies
    exact absurd copies.2 (by decide)

end Urls

end IotgoFirmware.Upgrade.DownloadUrl
