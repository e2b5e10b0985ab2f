import MppRouter.Core.Base64
import MppRouter.Core.Crc
import MppRouter.Core.Decimal
import MppRouter.Core.Rebase

/-! # TON addresses as wallets show them

The funding page turns the raw form of a TON address, a workchain and a hash in hex, into the form that wallets
expect. A reader of that form gets the same address back.
-/

namespace MppRouter.Routes.TonAddress

open Base64 List Polynomial Rebase Decimal

/-! ## The functions -/

/-- `String(raw ?? '').trim()` -/
def trim (raw : List Char) : List Char := (raw.dropWhile isSpace).rdropWhile isSpace

/-- `[0-9a-fA-F]{64}` -/
def isHash (digits : List Char) : Bool := digits.length = 64 && digits.all fun c => (digit c).isSome

/-- `/^(-1|0):([0-9a-fA-F]{64})$/.exec(text)`, the two groups. -/
def rawGroups : List Char → Option (List Char × List Char)
  | '-' :: '1' :: ':' :: digits => if isHash digits then some (['-', '1'], digits) else none
  | '0' :: ':' :: digits => if isHash digits then some (['0'], digits) else none
  | _ => none

/-- One bit of the checksum. -/
def crcBit (crc : ℕ) : ℕ :=
  if crc &&& 0x8000 ≠ 0 then ((crc <<< 1) ^^^ 0x1021) &&& 0xffff else (crc <<< 1) &&& 0xffff

def crc16Xmodem (data : List UInt8) : ℕ := data.foldl (fun crc byte => crcBit^[8] (crc ^^^ (byte.toNat <<< 8))) 0

/-- `parseInt(digits.slice(i * 2, i * 2 + 2), 16)` -/
def hashByte (digits : List Char) (i : ℕ) : ℕ := (parseBase 16 ((digits.drop (i * 2)).take 2)).getD 0

def tonRawToFriendly (raw : List Char) (bounceable : Bool) : Option (List Char) :=
  (rawGroups (trim raw)).map fun (workchain, digits) =>
    let bytes := (if bounceable then 0x11 else 0x51) :: (if workchain = ['-', '1'] then 0xff else 0x00) ::
      (range 32).map fun i => UInt8.ofNat (hashByte digits i)
    let crc := crc16Xmodem bytes
    (btoa (bytes ++ [UInt8.ofNat (crc >>> 8), UInt8.ofNat (crc &&& 0xff)])).map toUrl

/-! ## What the texts stand for -/

/-- A workchain and the hash of an account in it. -/
@[ext] structure Address where
  workchain : Int8
  hash : List UInt8
  sized : hash.length = 32

/-- The raw form: the workchain in decimal and the hash in hex. -/
def Denotes (raw : List Char) (address : Address) : Prop :=
  ∃ workchain digits, trim raw = workchain ++ ':' :: digits ∧ isHash digits = true ∧
    parseInt workchain = some address.workchain.toInt ∧
    number 16 (digits.map fun c => (digit c).getD 0) = number 256 (address.hash.map UInt8.toNat)

/-- A raw address as the upstream writes it: workchain `0` or `-1`, and 64 digits in hex. -/
def WellFormed (raw : List Char) : Prop :=
  ∃ workchain digits, trim raw = workchain ++ ':' :: digits ∧ (workchain = ['-', '1'] ∨ workchain = ['0']) ∧
    digits.length = 64 ∧ ∀ c ∈ digits, (digit c).isSome = true

/-- CRC-16/XMODEM: the remainder of the message times `X ^ 16`, as two bytes. -/
def Checks (bytes checksum : List UInt8) : Prop :=
  checksum.length = 2 ∧ Crc.ofBits (number 256 (checksum.map UInt8.toNat)) =
    (Crc.message bytes * X ^ 16) %ₘ (X ^ 16 + X ^ 12 + X ^ 5 + 1)

/-- An address with its flags. -/
structure Friendly where
  bounceable : Bool
  testOnly : Bool
  address : Address

open Classical in
/-- What a reader makes of the form for wallets: the bits of the tag are the flags, and the checksum has to fit. -/
noncomputable def readFriendly (text : List Char) : Option Friendly :=
  match base64UrlDecode text with
  | some (tag :: workchain :: rest) =>
    if sound : rest.length = 34 ∧ tag &&& 0x3f = 0x11 ∧ Checks (tag :: workchain :: rest.take 32) (rest.drop 32) then
      some ⟨tag &&& 0x40 = 0, tag &&& 0x80 ≠ 0, workchain.toInt8, rest.take 32, by simp [sound.1]⟩
    else none
  | _ => none

/-! ## The checksum -/

theorem generator_eq : Crc.generator 16 0x1021 = X ^ 16 + X ^ 12 + X ^ 5 + 1 := by
  have bits : (0x1021 : ℕ) = 2 ^ 12 ^^^ 2 ^ 5 ^^^ 2 ^ 0 := by decide
  rw [Crc.generator, bits, Crc.ofBits_xor, Crc.ofBits_xor, Crc.ofBits_two_pow, Crc.ofBits_two_pow, Crc.ofBits_two_pow]
  ring

theorem crc16Xmodem_checks (bytes : List UInt8) :
    Checks bytes [UInt8.ofNat (crc16Xmodem bytes >>> 8), UInt8.ofNat (crc16Xmodem bytes &&& 0xff)] := by
  have fed : crc16Xmodem bytes = bytes.foldl (Crc.feed 16 0x1021) 0 := rfl
  obtain ⟨inside, remainder⟩ := @Crc.checksum_eq 16 0x1021 (by decide) (by decide) bytes
  rw [← fed] at inside remainder
  refine ⟨rfl, ?_⟩
  have whole : number 256 [(UInt8.ofNat (crc16Xmodem bytes >>> 8)).toNat,
      (UInt8.ofNat (crc16Xmodem bytes &&& 0xff)).toNat] = crc16Xmodem bytes := by
    have low : crc16Xmodem bytes &&& 0xff = crc16Xmodem bytes % 256 := Nat.and_two_pow_sub_one_eq_mod _ 8
    simp only [number, reverse_cons, reverse_nil, nil_append, singleton_append, Nat.ofDigits_cons, Nat.ofDigits_nil,
      UInt8.toNat_ofNat', low, Nat.shiftRight_eq_div_pow]
    omega
  rw [map_cons, map_cons, map_nil, whole, remainder, generator_eq]

/-! ## The hash -/

theorem digit_lt (c : Char) : (digit c).getD 0 < 16 := by
  unfold digit
  dsimp only
  split_ifs with decimal hex
  · simp only [Char.isDigit, Bool.and_eq_true, decide_eq_true_eq, UInt32.le_iff_toNat_le] at decimal
    change c.toNat - 48 < 16
    have top : c.toNat ≤ 57 := decimal.2
    omega
  · have top : c.toLower.toNat ≤ 102 := UInt32.le_iff_toNat_le.mp hex.2
    change c.toLower.toNat - 97 + 10 < 16
    omega
  · decide

/-- Two digits are one byte. -/
theorem hashByte_pair {a b : Char} (rest : List Char) (read : (digit a).isSome = true)
    (also : (digit b).isSome = true) :
    hashByte (a :: b :: rest) 0 = (digit a).getD 0 * 16 + (digit b).getD 0 := by
  have high := digit_lt a
  have low := digit_lt b
  obtain ⟨x, found⟩ := Option.isSome_iff_exists.mp read
  obtain ⟨y, next⟩ := Option.isSome_iff_exists.mp also
  rw [found, Option.getD_some] at high
  rw [next, Option.getD_some] at low
  simp [hashByte, parseBase, Option.filter, found, next, high, low, Nat.mul_comm]

/-- Pairs of digits are the bytes of the same number. -/
theorem number_hashBytes (count : ℕ) {digits : List Char} (length : digits.length = count * 2)
    (hex : ∀ c ∈ digits, (digit c).isSome = true) :
    number 256 (((range count).map fun i => UInt8.ofNat (hashByte digits i)).map UInt8.toNat) =
      number 16 (digits.map fun c => (digit c).getD 0) := by
  induction count generalizing digits with
  | zero =>
    obtain rfl := length_eq_zero_iff.mp (length.trans (Nat.zero_mul 2))
    rfl
  | succ count ih =>
    rw [Nat.succ_mul] at length
    match digits, length with
    | a :: b :: rest, length =>
      have shorter : rest.length = count * 2 := Nat.succ.inj (Nat.succ.inj length)
      have later : ∀ i, hashByte (a :: b :: rest) (i + 1) = hashByte rest i := by
        intro i
        rw [hashByte, Nat.succ_mul]
        rfl
      have pair := hashByte_pair rest (hex a mem_cons_self) (hex b (mem_cons_of_mem _ mem_cons_self))
      have high := digit_lt a
      have low := digit_lt b
      have tail := ih shorter fun c member => hex c (mem_cons_of_mem _ (mem_cons_of_mem _ member))
      rw [range_succ_eq_map, map_cons, map_map, map_cons, map_cons, map_cons, number_cons, number_cons, number_cons,
        ← tail, pair, UInt8.toNat_ofNat', Nat.mod_eq_of_lt (by omega)]
      simp only [Function.comp_def, later, length_map, length_range, length_cons, shorter]
      rw [Nat.pow_succ, Nat.mul_comm count, Nat.pow_mul]
      ring

theorem Denotes.unique {raw : List Char} {address other : Address} (denotes : Denotes raw address)
    (also : Denotes raw other) : other = address := by
  obtain ⟨workchain, digits, text, hash, chain, value⟩ := denotes
  obtain ⟨workchain', digits', text', hash', chain', value'⟩ := also
  have sized : digits.length = digits'.length := by
    simp only [isHash, Bool.and_eq_true, decide_eq_true_eq] at hash hash'
    omega
  obtain ⟨rfl, same⟩ := append_inj' (text.symm.trans text') (congrArg Nat.succ sized)
  obtain rfl := (cons.inj same).2
  have chains := Int8.toInt_inj.mp (Option.some.inj (chain'.symm.trans chain))
  have bytes : other.hash.map UInt8.toNat = address.hash.map UInt8.toNat := by
    apply reverse_injective
    apply Nat.ofDigits_inj_of_len_eq (b := 256) (by decide)
    · simp [other.sized, address.sized]
    · simpa using fun byte _ => UInt8.toNat_lt byte
    · simpa using fun byte _ => UInt8.toNat_lt byte
    · exact value'.symm.trans value
  exact Address.ext chains (map_injective_iff.mpr (fun _ _ => UInt8.toNat_inj.mp) bytes)

/-! ## The text -/

theorem digitsOf_whole {bytes : List ℕ} (whole : bytes.length % 3 = 0) :
    (digitsOf bytes).length = bytes.length / 3 * 4 := by
  induction bytes using digitsOf.induct with
  | case1 a b c rest ih =>
    simp only [digitsOf, length_cons] at whole ⊢
    have shorter := ih (by omega)
    omega
  | case2 a b => cases whole
  | case3 a => cases whole
  | case4 => rfl

/-- Bytes in threes are spelled without padding. -/
theorem btoa_whole {bytes : List UInt8} (whole : bytes.length % 3 = 0) :
    (btoa bytes).map toUrl = base64UrlEncode bytes ∧ (base64UrlEncode bytes).length = bytes.length / 3 * 4 := by
  have digits := @digitsOf_whole (bytes.map UInt8.toNat) (by rw [length_map, whole])
  rw [length_map] at digits
  have unpadded : (4 - bytes.length / 3 * 4 % 4) % 4 = 0 := by omega
  rw [base64UrlEncode_eq, btoa, length_map, digits]
  refine ⟨?_, rfl⟩
  rw [unpadded, replicate_zero, append_nil, map_map]
  rfl

/-- The bytes of the form for wallets, before the checksum. -/
def header (bounceable : Bool) (address : Address) : List UInt8 :=
  (if bounceable then 0x11 else 0x51) :: address.workchain.toUInt8 :: address.hash

theorem rawGroups_denotes {raw workchain digits : List Char} (groups : rawGroups (trim raw) = some (workchain, digits)) :
    isHash digits = true ∧ trim raw = workchain ++ ':' :: digits ∧
      (workchain = ['-', '1'] ∨ workchain = ['0']) := by
  generalize trim raw = text at groups ⊢
  unfold rawGroups at groups
  split at groups
  · split_ifs at groups with hash
    cases groups
    exact ⟨hash, rfl, .inl rfl⟩
  · split_ifs at groups with hash
    cases groups
    exact ⟨hash, rfl, .inr rfl⟩
  · cases groups

/-- Every well-formed raw address is shown, and no other text. -/
theorem shown_iff {raw : List Char} {bounceable : Bool} :
    (tonRawToFriendly raw bounceable).isSome = true ↔ WellFormed raw := by
  rw [tonRawToFriendly, Option.isSome_map]
  constructor
  · intro accepted
    obtain ⟨⟨workchain, digits⟩, groups⟩ := Option.isSome_iff_exists.mp accepted
    obtain ⟨hash, text, chain⟩ := rawGroups_denotes groups
    exact ⟨workchain, digits, text, chain, by simpa [isHash] using hash⟩
  · rintro ⟨workchain, digits, text, chain, hash⟩
    have sound : isHash digits = true := by simpa [isHash] using hash
    rw [text]
    rcases chain with rfl | rfl <;> simp [rawGroups, sound]

/-- What is shown for a raw address is the spelling of its header and checksum. -/
theorem friendly_spelled {raw text : List Char} {bounceable : Bool} (shown : tonRawToFriendly raw bounceable = some text) :
    ∃ address checksum, Denotes raw address ∧ Checks (header bounceable address) checksum ∧
      text = base64UrlEncode (header bounceable address ++ checksum) ∧ text.length = 48 := by
  obtain ⟨⟨workchain, digits⟩, groups, rfl⟩ := Option.map_eq_some_iff.mp shown
  obtain ⟨hash, text, chain⟩ := rawGroups_denotes groups
  have hex := hash
  simp only [isHash, Bool.and_eq_true, decide_eq_true_eq, all_eq_true] at hex
  let address : Address := ⟨if workchain = ['-', '1'] then -1 else 0, (range 32).map fun i => UInt8.ofNat (hashByte digits i),
    by rw [length_map, length_range]⟩
  have denotes : Denotes raw address := by
    refine ⟨workchain, digits, text, hash, ?_, (number_hashBytes 32 hex.1 hex.2).symm⟩
    rcases chain with rfl | rfl <;> rfl
  have spelled : (if bounceable then 0x11 else 0x51) :: (if workchain = ['-', '1'] then 0xff else 0x00) ::
      ((range 32).map fun i => UInt8.ofNat (hashByte digits i)) = header bounceable address := by
    rcases chain with rfl | rfl <;> rfl
  have sized : (header bounceable address).length = 34 := congrArg (· + 2) address.sized
  refine ⟨address, _, denotes, crc16Xmodem_checks _, ?_⟩
  simp only [spelled]
  obtain ⟨same, length⟩ := @btoa_whole (header bounceable address ++ [_, _]) (by simp [sized])
  refine ⟨same, ?_⟩
  rw [same, length]
  simp [sized]

theorem readFriendly_spelled {bounceable : Bool} {address : Address} {checksum : List UInt8}
    (checks : Checks (header bounceable address) checksum) :
    readFriendly (base64UrlEncode (header bounceable address ++ checksum)) = some ⟨bounceable, false, address⟩ := by
  have front : (address.hash ++ checksum).take 32 = address.hash := take_left' address.sized
  have back : (address.hash ++ checksum).drop 32 = checksum := drop_left' address.sized
  have sized : (address.hash ++ checksum).length = 34 := by rw [length_append, address.sized, checks.1]
  unfold readFriendly
  rw [base64UrlDecode_encode]
  simp only [header, cons_append] at checks ⊢
  rw [dif_pos ⟨sized, by cases bounceable <;> rfl, by rw [front, back]; exact checks⟩]
  simp only [front, Int8.toInt8_toUInt8]
  cases bounceable <;> rfl

/-- Just the well-formed raw addresses are accepted, and the text of one is its friendly encoding: it has the checksum of
the polynomial, a reader gets the address and the flags back, and texts of other addresses differ. -/
theorem tonRawToFriendly_encodes (raw : List Char) (bounceable : Bool) :
    ((tonRawToFriendly raw bounceable).isSome = true ↔ WellFormed raw) ∧
    ∀ text, tonRawToFriendly raw bounceable = some text → ∃ address,
      (∀ other, Denotes raw other ↔ other = address) ∧
      (∃ checksum, Checks (header bounceable address) checksum ∧
        text = base64UrlEncode (header bounceable address ++ checksum)) ∧ text.length = 48 ∧
      readFriendly text = some ⟨bounceable, false, address⟩ ∧
      ∀ other flag, tonRawToFriendly other flag = some text → flag = bounceable ∧ Denotes other address := by
  refine ⟨shown_iff, fun text shown => ?_⟩
  obtain ⟨address, checksum, denotes, checks, spelled, length⟩ := friendly_spelled shown
  have read : readFriendly text = some ⟨bounceable, false, address⟩ := spelled ▸ readFriendly_spelled checks
  refine ⟨address, fun other => ⟨denotes.unique, ?_⟩, ⟨checksum, checks, spelled⟩, length, read, ?_⟩
  · rintro rfl
    exact denotes
  · intro other flag shown
    obtain ⟨address', checksum', denotes', checks', spelled', -⟩ := friendly_spelled shown
    have also := readFriendly_spelled checks'
    rw [← spelled', read] at also
    obtain ⟨rfl, -, rfl⟩ := Friendly.mk.inj (Option.some.inj also)
    exact ⟨rfl, denotes'⟩

def sampleRaw : List Char := "0:83dfd552e63729b472fcbcc8c45ebcc6691702558b68ec7527e1ba403a0f31a8".toList

theorem sample_encodes :
    tonRawToFriendly sampleRaw true = some "EQCD39VS5jcptHL8vMjEXrzGaRcCVYto7HUn4bpAOg8xqB2N".toList ∧
      WellFormed sampleRaw ∧ ∃ address, Denotes sampleRaw address ∧
        readFriendly "EQCD39VS5jcptHL8vMjEXrzGaRcCVYto7HUn4bpAOg8xqB2N".toList = some ⟨true, false, address⟩ := by
  have shown : tonRawToFriendly sampleRaw true = some "EQCD39VS5jcptHL8vMjEXrzGaRcCVYto7HUn4bpAOg8xqB2N".toList := by
    decide +kernel
  obtain ⟨accepted, encodes⟩ := tonRawToFriendly_encodes sampleRaw true
  obtain ⟨address, denotes, -, -, read, -⟩ := encodes _ shown
  exact ⟨shown, accepted.mp (by rw [shown]; rfl), address, (denotes address).mpr rfl, read⟩

end MppRouter.Routes.TonAddress
