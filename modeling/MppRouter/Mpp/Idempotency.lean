import MppRouter.Core.Decimal
import MppRouter.Core.Framing

/-! # Idempotency keys

A paid response is kept under the hash of everything that can change it: who paid, the route, the upstream call, the
caller's request id and the hash of the body. Each field is written with its length in bytes before it, so fields of two
requests agree one by one where the hashed bytes do. What is hashed is text: an absent body is the empty one, and a lone
surrogate is the replacement character.
-/

namespace MppRouter.Mpp.Idempotency

open TextEncoding List

/-! ## The builders -/

/-- `code.toString(16).padStart(2, '0')` -/
def hexDigits (code : ℕ) : List Char :=
  let digits := Nat.toDigits 16 code
  replicate (2 - digits.length) '0' ++ digits

/-- Length-prefix one field. -/
def lengthPrefixed (value : Units) : Units := units (Nat.toDigits 10 (encode value).length ++ [':']) ++ value

section Builders

-- the digest of the platform, byte by byte
variable (sha256 : List UInt8 → List UInt8)

def sha256Hex (input : Units) : Units := units ((sha256 (encode input)).flatMap fun byte => hexDigits byte.toNat)

/-- The text that is hashed: the fields in their order, and last the hash of the body. -/
def material (fields : List Units) (body : Option Units) : Units :=
  ((fields ++ [sha256Hex sha256 (body.getD [])]).map lengthPrefixed).flatten

/-- Both keys: a text before the hash of the material. -/
def hashedKey (space : String) (fields : List Units) (body : Option Units) : Units :=
  units space.toList ++ sha256Hex sha256 (material sha256 fields body)

/-- The byte strings that go through the hash. -/
def hashed (fields : List Units) (body : Option Units) : List (List UInt8) :=
  [encode (body.getD []), encode (material sha256 fields body)]

/-- The hash tells these byte strings apart. -/
def CollisionFree (inputs : List (List UInt8)) : Prop :=
  ∀ first ∈ inputs, ∀ second ∈ inputs, sha256 first = sha256 second → first = second

end Builders

def IDEMPOTENCY_KEY_SPACE : String := "idempotency:v2:"

def X402_REPLAY_KEY_SPACE : String := "idempotency:x402:"

/-- What identifies a request that a payer may repeat, in strings of some kind. -/
structure IdempotencyParams (S : Type) where
  requestId : S
  routeId : S
  payer : S
  method : S
  upstreamPath : S
  forwardedSearch : S
  body : Option S
  deriving DecidableEq

/-- What identifies a request that a signed payload paid for. -/
structure X402ReplayParams (S : Type) where
  payloadHash : S
  routeId : S
  method : S
  upstreamPath : S
  forwardedSearch : S
  body : Option S
  deriving DecidableEq

namespace IdempotencyParams

def fields {S : Type} (params : IdempotencyParams S) : List S :=
  [params.payer, params.routeId, params.method, params.upstreamPath, params.forwardedSearch, params.requestId]

/-- The request as text: what a reader of UTF-8 sees of it. -/
def text (params : IdempotencyParams Units) : IdempotencyParams (List Char) where
  requestId := scalars params.requestId
  routeId := scalars params.routeId
  payer := scalars params.payer
  method := scalars params.method
  upstreamPath := scalars params.upstreamPath
  forwardedSearch := scalars params.forwardedSearch
  body := some (scalars (params.body.getD []))

end IdempotencyParams

namespace X402ReplayParams

def fields {S : Type} (params : X402ReplayParams S) : List S :=
  [params.payloadHash, params.routeId, params.method, params.upstreamPath, params.forwardedSearch]

/-- The request as text: what a reader of UTF-8 sees of it. -/
def text (params : X402ReplayParams Units) : X402ReplayParams (List Char) where
  payloadHash := scalars params.payloadHash
  routeId := scalars params.routeId
  method := scalars params.method
  upstreamPath := scalars params.upstreamPath
  forwardedSearch := scalars params.forwardedSearch
  body := some (scalars (params.body.getD []))

end X402ReplayParams

def buildIdempotencyKey (sha256 : List UInt8 → List UInt8) (params : IdempotencyParams Units) : Units :=
  hashedKey sha256 IDEMPOTENCY_KEY_SPACE params.fields params.body

def buildX402ReplayKey (sha256 : List UInt8 → List UInt8) (params : X402ReplayParams Units) : Units :=
  hashedKey sha256 X402_REPLAY_KEY_SPACE params.fields params.body

/-- The methods that carry no body; the proxy reads one for every other. -/
def bodiless (method : Units) : Bool := method = units "GET".toList || method = units "HEAD".toList

/-- A body as the proxy reads it. -/
def proxied (method : Units) (body : Option Units) : Bool := body.isNone = bodiless method

/-! ## The hashed bytes -/

/-- The bytes of the fields are their frames. -/
theorem encode_flatten (fields : List Units) :
    encode (fields.map lengthPrefixed).flatten = (fields.map encode).flatMap Framing.frame := by
  induction fields with
  | nil => rfl
  | cons value rest ih =>
    have head : ∀ tail : Units, encode (lengthPrefixed value ++ tail) =
        Framing.lengthBytes (encode value).length ++ Framing.colon :: encode (value ++ tail) := by
      intro tail
      rw [lengthPrefixed, append_assoc, encode_units_append, flatMap_append, append_assoc]
      rfl
    have after : encode (value ++ (rest.map lengthPrefixed).flatten) =
        encode value ++ encode (rest.map lengthPrefixed).flatten := by
      cases rest with
      | nil => simp [encode, scalars]
      | cons next more =>
        obtain ⟨c, digits, first⟩ := exists_cons_of_ne_nil (Nat.toDigits_ne_nil (n := (encode next).length) (b := 10))
        rw [map_cons, flatten_cons, lengthPrefixed, first, append_assoc]
        exact encode_append_units value c (digits ++ [':']) _
    rw [map_cons, flatten_cons, head, after, ih, map_cons, flatMap_cons, Framing.frame,
      append_assoc]
    rfl

section Hashed

variable {sha256 : List UInt8 → List UInt8} {fields fieldsSecond : List Units} {body bodySecond : Option Units}

/-- Equal material is equal fields and equal hashes of the bodies. -/
theorem material_inj (length : fields.length = fieldsSecond.length)
    (same : encode (material sha256 fields body) = encode (material sha256 fieldsSecond bodySecond)) :
    fields.map scalars = fieldsSecond.map scalars ∧
      scalars (sha256Hex sha256 (body.getD [])) = scalars (sha256Hex sha256 (bodySecond.getD [])) := by
  rw [material, material, encode_flatten, encode_flatten] at same
  have encoded := Framing.frames_inj (by simpa using length) same
  rw [map_append, map_append] at encoded
  obtain ⟨lead, last⟩ := append_inj encoded (by simpa using length)
  constructor
  · have written : (fields.map scalars).map (fun text => text.flatMap String.utf8EncodeChar) =
        (fieldsSecond.map scalars).map fun text => text.flatMap String.utf8EncodeChar := by
      rw [map_map, map_map]
      exact lead
    exact map_injective_iff.mpr utf8_injective written
  · exact encode_inj.mp (cons.inj last).1

/-- The material is made of the fields' text only. -/
theorem material_congr (lead : fields.map scalars = fieldsSecond.map scalars)
    (last : scalars (body.getD []) = scalars (bodySecond.getD [])) :
    encode (material sha256 fields body) = encode (material sha256 fieldsSecond bodySecond) := by
  have hash : sha256Hex sha256 (body.getD []) = sha256Hex sha256 (bodySecond.getD []) := by
    rw [sha256Hex, sha256Hex, encode_inj.mpr last]
  have encoded : fields.map encode = fieldsSecond.map encode := by
    have written := congrArg (map fun text => text.flatMap String.utf8EncodeChar) lead
    rwa [map_map, map_map] at written
  rw [material, material, encode_flatten, encode_flatten, map_append, map_append, encoded, hash]

/-- What is hashed is the same exactly where fields and body are the same text. -/
theorem hashed_iff (length : fields.length = fieldsSecond.length) :
    hashed sha256 fields body = hashed sha256 fieldsSecond bodySecond ↔
      fields.map scalars = fieldsSecond.map scalars ∧ scalars (body.getD []) = scalars (bodySecond.getD []) := by
  constructor
  · intro same
    obtain ⟨bodies, rest⟩ := cons.inj same
    exact ⟨(material_inj length (cons.inj rest).1).1, encode_inj.mp bodies⟩
  · rintro ⟨lead, last⟩
    rw [hashed, hashed, material_congr lead last, encode_inj.mpr last]

/-! ## The hashes -/

theorem hexDigits_read : ∀ code : Fin 256,
    Decimal.parseBase 16 (hexDigits code) = some code.val ∧ (hexDigits code).length = 2 := by
  decide +kernel

theorem hexDigits_inj {first second : UInt8} (same : hexDigits first.toNat = hexDigits second.toNat) : first = second := by
  have read := (hexDigits_read ⟨first.toNat, first.toNat_lt⟩).1
  have readSecond := (hexDigits_read ⟨second.toNat, second.toNat_lt⟩).1
  rw [← same] at readSecond
  exact UInt8.toNat_inj.mp (Option.some.inj (read.symm.trans readSecond))

/-- A digest is read off its digits. -/
theorem hex_inj {first second : List UInt8}
    (same : (first.flatMap fun byte => hexDigits byte.toNat) = second.flatMap fun byte => hexDigits byte.toNat) :
    first = second := by
  have two : ∀ byte : UInt8, (hexDigits byte.toNat).length = 2 := fun byte =>
    (hexDigits_read ⟨byte.toNat, byte.toNat_lt⟩).2
  induction first generalizing second with
  | nil =>
    cases second with
    | nil => rfl
    | cons byte rest =>
      have lengths := congrArg length same
      rw [flatMap_nil, flatMap_cons, length_append, two, length_nil] at lengths
      omega
  | cons byte rest ih =>
    cases second with
    | nil =>
      have lengths := congrArg length same
      rw [flatMap_nil, flatMap_cons, length_append, two, length_nil] at lengths
      omega
    | cons other others =>
      rw [flatMap_cons, flatMap_cons] at same
      obtain ⟨head, tail⟩ := append_inj same ((two byte).trans (two other).symm)
      rw [hexDigits_inj head, ih tail]

/-- Equal hex digests are equal digests. -/
theorem sha256Hex_inj {first second : Units} (same : scalars (sha256Hex sha256 first) = scalars (sha256Hex sha256 second)) :
    sha256 (encode first) = sha256 (encode second) := by
  rw [sha256Hex, sha256Hex, scalars_units, scalars_units] at same
  exact hex_inj same

/-- Two keys of one space are the same exactly where fields and body are the same text, if the hash tells apart what
was hashed for them. -/
theorem hashedKey_iff {space : String} (length : fields.length = fieldsSecond.length)
    (free : CollisionFree sha256 (hashed sha256 fields body ++ hashed sha256 fieldsSecond bodySecond)) :
    hashedKey sha256 space fields body = hashedKey sha256 space fieldsSecond bodySecond ↔
      fields.map scalars = fieldsSecond.map scalars ∧ scalars (body.getD []) = scalars (bodySecond.getD []) := by
  have texts := @hashed_iff sha256 fields fieldsSecond body bodySecond length
  rw [← texts]
  constructor
  · intro same
    have digests := sha256Hex_inj (congrArg scalars (append_cancel_left same))
    have materials := free _ (by simp [hashed]) _ (by simp [hashed]) digests
    have bodies := free _ (by simp [hashed]) _ (by simp [hashed]) (sha256Hex_inj (material_inj length materials).2)
    rw [hashed, hashed, materials, bodies]
  · intro same
    have materials := (cons.inj (cons.inj same).2).1
    rw [hashedKey, hashedKey, sha256Hex, sha256Hex, materials]

end Hashed

/-! ## Both keys -/

theorem IdempotencyParams.text_inj {first second : IdempotencyParams Units} :
    first.text = second.text ↔ first.fields.map scalars = second.fields.map scalars ∧
      scalars (first.body.getD []) = scalars (second.body.getD []) := by
  simp only [text, fields, map_cons, map_nil, cons.injEq, and_true, mk.injEq, Option.some.injEq]
  tauto

theorem X402ReplayParams.text_inj {first second : X402ReplayParams Units} :
    first.text = second.text ↔ first.fields.map scalars = second.fields.map scalars ∧
      scalars (first.body.getD []) = scalars (second.body.getD []) := by
  simp only [text, fields, map_cons, map_nil, cons.injEq, and_true, mk.injEq, Option.some.injEq]
  tauto

/-- A body the proxy read is told by its text, under one method. -/
theorem body_inj {method : Units} {body other : Option Units} (here : proxied method body = true)
    (there : proxied method other = true) (formed : ∀ value, body = some value → wellFormed value = true)
    (also : ∀ value, other = some value → wellFormed value = true)
    (same : scalars (body.getD []) = scalars (other.getD [])) : body = other := by
  rw [proxied, decide_eq_true_eq] at here there
  have presence : body.isNone = other.isNone := here.trans there.symm
  cases body with
  | none => exact (Option.isNone_iff_eq_none.mp presence.symm).symm
  | some value =>
    cases other with
    | none => cases presence
    | some value' => rw [scalars_inj (formed value rfl) (also value' rfl) same]

/-- The strings of a request have no lone surrogates, and it has a body where its method has. -/
structure IdempotencyParams.Proxied (params : IdempotencyParams Units) : Prop where
  fields : ∀ value ∈ params.fields, wellFormed value = true
  body : ∀ value, params.body = some value → wellFormed value = true
  method : proxied params.method params.body = true

/-- The strings of a request have no lone surrogates, and it has a body where its method has. -/
structure X402ReplayParams.Proxied (params : X402ReplayParams Units) : Prop where
  fields : ∀ value ∈ params.fields, wellFormed value = true
  body : ∀ value, params.body = some value → wellFormed value = true
  method : proxied params.method params.body = true

theorem fields_inj {fields others : List Units} (formed : ∀ value ∈ fields, wellFormed value = true)
    (also : ∀ value ∈ others, wellFormed value = true) (same : fields.map scalars = others.map scalars) :
    fields = others := by
  have read {values : List Units} (formed : ∀ value ∈ values, wellFormed value = true) :
      (values.map scalars).map units = values := by
    rw [map_map]
    exact (map_congr_left fun value member => units_scalars (formed value member)).trans (map_id' values)
  rw [← read formed, same, read also]

theorem IdempotencyParams.Proxied.inj {first second : IdempotencyParams Units} (formed : first.Proxied)
    (also : second.Proxied) (same : first.text = second.text) : first = second := by
  obtain ⟨texts, bodies⟩ := text_inj.mp same
  have fields := fields_inj formed.fields also.fields texts
  obtain ⟨requestId, routeId, payer, method, upstreamPath, forwardedSearch, body⟩ := first
  obtain ⟨requestId', routeId', payer', method', upstreamPath', forwardedSearch', body'⟩ := second
  simp only [IdempotencyParams.fields, cons.injEq, and_true] at fields
  obtain ⟨rfl, rfl, rfl, rfl, rfl, rfl⟩ := fields
  have body : body = body' := body_inj formed.method also.method formed.body also.body bodies
  rw [body]

theorem X402ReplayParams.Proxied.inj {first second : X402ReplayParams Units} (formed : first.Proxied)
    (also : second.Proxied) (same : first.text = second.text) : first = second := by
  obtain ⟨texts, bodies⟩ := text_inj.mp same
  have fields := fields_inj formed.fields also.fields texts
  obtain ⟨payloadHash, routeId, method, upstreamPath, forwardedSearch, body⟩ := first
  obtain ⟨payloadHash', routeId', method', upstreamPath', forwardedSearch', body'⟩ := second
  simp only [X402ReplayParams.fields, cons.injEq, and_true] at fields
  obtain ⟨rfl, rfl, rfl, rfl, rfl⟩ := fields
  have body : body = body' := body_inj formed.method also.method formed.body also.body bodies
  rw [body]

/-- The keys of the two builders lie in different spaces. -/
theorem keys_apart (sha256 : List UInt8 → List UInt8) (params : IdempotencyParams Units)
    (replay : X402ReplayParams Units) : buildIdempotencyKey sha256 params ≠ buildX402ReplayKey sha256 replay := by
  intro same
  have start := congrArg (take 13) same
  rw [buildIdempotencyKey, buildX402ReplayKey, hashedKey, hashedKey,
    take_append_of_le_length (by decide), take_append_of_le_length (by decide)] at start
  exact absurd start (by decide)

/-- Each builder hashes the same bytes for two requests exactly where the requests are the same text, an absent body
being the empty one. Where the hash tells those bytes apart, so do the keys; requests as the proxy makes them are then
told apart in every field, and no key of one builder is one of the other. -/
theorem keys_injective (sha256 : List UInt8 → List UInt8) :
    (∀ first second : IdempotencyParams Units,
      (hashed sha256 first.fields first.body = hashed sha256 second.fields second.body ↔ first.text = second.text) ∧
      (CollisionFree sha256 (hashed sha256 first.fields first.body ++ hashed sha256 second.fields second.body) →
        (buildIdempotencyKey sha256 first = buildIdempotencyKey sha256 second ↔ first.text = second.text) ∧
        (first.Proxied → second.Proxied →
          buildIdempotencyKey sha256 first = buildIdempotencyKey sha256 second → first = second))) ∧
    (∀ first second : X402ReplayParams Units,
      (hashed sha256 first.fields first.body = hashed sha256 second.fields second.body ↔ first.text = second.text) ∧
      (CollisionFree sha256 (hashed sha256 first.fields first.body ++ hashed sha256 second.fields second.body) →
        (buildX402ReplayKey sha256 first = buildX402ReplayKey sha256 second ↔ first.text = second.text) ∧
        (first.Proxied → second.Proxied →
          buildX402ReplayKey sha256 first = buildX402ReplayKey sha256 second → first = second))) ∧
    ∀ params replay, buildIdempotencyKey sha256 params ≠ buildX402ReplayKey sha256 replay := by
  refine ⟨fun first second => ⟨?_, fun free => ?_⟩, fun first second => ⟨?_, fun free => ?_⟩, keys_apart sha256⟩
  · rw [IdempotencyParams.text_inj]
    exact hashed_iff rfl
  · have keys : buildIdempotencyKey sha256 first = buildIdempotencyKey sha256 second ↔ first.text = second.text := by
      rw [IdempotencyParams.text_inj]
      exact hashedKey_iff rfl free
    exact ⟨keys, fun formed also same => formed.inj also (keys.mp same)⟩
  · rw [X402ReplayParams.text_inj]
    exact hashed_iff rfl
  · have keys : buildX402ReplayKey sha256 first = buildX402ReplayKey sha256 second ↔ first.text = second.text := by
      rw [X402ReplayParams.text_inj]
      exact hashedKey_iff rfl free
    exact ⟨keys, fun formed also same => formed.inj also (keys.mp same)⟩

/-- A request without a body. -/
def getRequest : IdempotencyParams Units where
  requestId := units ['1']
  routeId := units ['r']
  payer := units ['G', 'A']
  method := units "GET".toList
  upstreamPath := units ['/']
  forwardedSearch := []
  body := none

/-- The SHA-256 digest of nothing. -/
def emptyDigest : List UInt8 :=
  [0xe3, 0xb0, 0xc4, 0x42, 0x98, 0xfc, 0x1c, 0x14, 0x9a, 0xfb, 0xf4, 0xc8, 0x99, 0x6f, 0xb9, 0x24,
    0x27, 0xae, 0x41, 0xe4, 0x64, 0x9b, 0x93, 0x4c, 0xa4, 0x95, 0x99, 0x1b, 0x78, 0x52, 0xb8, 0x55]

/-- The SHA-256 digest of the first request's material. -/
def firstDigest : List UInt8 :=
  [0xef, 0x60, 0xfb, 0xbf, 0x4e, 0xa3, 0x75, 0x0a, 0x82, 0xb3, 0x8f, 0x85, 0x66, 0xfc, 0x92, 0xf1,
    0x0c, 0xcd, 0xdb, 0x15, 0x81, 0x7c, 0x23, 0x91, 0xc7, 0x28, 0xd3, 0xab, 0x51, 0x61, 0xd1, 0x8f]

/-- The SHA-256 digest of the next request's material. -/
def nextDigest : List UInt8 :=
  [0xb1, 0x14, 0xc5, 0xa6, 0xdd, 0x45, 0xee, 0x45, 0x23, 0xa0, 0xf9, 0xd6, 0x0f, 0x8d, 0xe3, 0xa4,
    0xc5, 0x42, 0x25, 0x11, 0x4e, 0x6c, 0x75, 0xbe, 0x5c, 0xc6, 0x50, 0x4c, 0x9c, 0x32, 0x2f, 0x17]

/-- SHA-256 on what the two requests need of it; the digit of the request id is the twentieth byte of the material. -/
def digestOf (input : List UInt8) : List UInt8 :=
  if input = [] then emptyDigest else if input[19]? = some 49 then firstDigest else nextDigest

def nextRequest : IdempotencyParams Units := { getRequest with requestId := units ['2'] }

/-- Two requests that differ in their id alone have different keys. -/
theorem keys_injective_get : getRequest.Proxied ∧ nextRequest.Proxied ∧
    CollisionFree digestOf (hashed digestOf getRequest.fields getRequest.body ++
      hashed digestOf nextRequest.fields nextRequest.body) ∧
    buildIdempotencyKey digestOf getRequest ≠ buildIdempotencyKey digestOf nextRequest := by
  have formed : getRequest.Proxied := ⟨by decide, nofun, by decide⟩
  have also : nextRequest.Proxied := ⟨by decide, nofun, by decide⟩
  have free : CollisionFree digestOf (hashed digestOf getRequest.fields getRequest.body ++
      hashed digestOf nextRequest.fields nextRequest.body) := by
    unfold CollisionFree
    decide +kernel
  refine ⟨formed, also, free, fun same => ?_⟩
  have equal := (((keys_injective digestOf).1 getRequest nextRequest).2 free).2 formed also same
  exact absurd equal (by decide)

/-- An absent body is taken for an empty one, and one lone surrogate for another. -/
theorem different_requests_hashed_alike :
    (∃ first second : IdempotencyParams Units, first ≠ second ∧
      ∀ sha256, hashed sha256 first.fields first.body = hashed sha256 second.fields second.body) ∧
    ∃ first second : IdempotencyParams Units, first.requestId ≠ second.requestId ∧
      ∀ sha256, hashed sha256 first.fields first.body = hashed sha256 second.fields second.body := by
  constructor
  · exact ⟨getRequest, { getRequest with body := some [] }, by decide, fun _ => rfl⟩
  · refine ⟨{ getRequest with requestId := [0xD800] }, { getRequest with requestId := [0xD801] }, by decide, ?_⟩
    intro sha256
    refine (hashed_iff ?_).mpr ?_
    · rfl
    · decide

end MppRouter.Mpp.Idempotency
