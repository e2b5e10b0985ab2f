import MppRouter.Core.JsonNumber

/-! # JSON

The values a script makes of JSON, how they are written, and the reader. An object is the list of its fields, each key
once. What the writer makes of a value without infinite numbers is read back as that value, so different values have
different texts.
-/

namespace Json

open TextEncoding

/-- A value that JSON can name. -/
inductive Value where
  | null
  | bool (value : Bool)
  | number (value : Number)
  | string (text : Units)
  | array (items : List Value)
  | object (fields : List (Units × Value))

/-- The field of an object. -/
def Value.field (key : Units) : Value → Option Value
  | .object fields => fields.lookup key
  | _ => none

/-! ## Strings -/

def hexUnit (digit : ℕ) : UInt16 := UInt16.ofNat (if digit < 10 then 48 + digit else 87 + digit)

/-- The value of a hexadecimal digit, of either case. -/
def hexOf (unit : UInt16) : Option ℕ :=
  let code := unit.toNat
  if 48 ≤ code ∧ code ≤ 57 then some (code - 48)
  else if 97 ≤ code ∧ code ≤ 102 then some (code - 87)
  else if 65 ≤ code ∧ code ≤ 70 then some (code - 55)
  else none

/-- `\u` and four digits. -/
def unicodeEscape (unit : UInt16) : Units :=
  let code := unit.toNat
  [ascii '\\', ascii 'u', hexUnit (code / 4096), hexUnit (code / 256 % 16), hexUnit (code / 16 % 16), hexUnit (code % 16)]

/-- The units that have an escape of two characters, with its second one. -/
def SHORT_ESCAPES : List (UInt16 × UInt16) :=
  [(8, ascii 'b'), (9, ascii 't'), (10, ascii 'n'), (12, ascii 'f'), (13, ascii 'r'), (ascii '"', ascii '"'),
    (ascii '\\', ascii '\\')]

/-- How a string is written at a unit that is no half of a pair. -/
def escape (unit : UInt16) : Units :=
  match SHORT_ESCAPES.lookup unit with
  | some mark => [ascii '\\', mark]
  | none => if unit < 0x20 || isHigh unit || isLow unit then unicodeEscape unit else [unit]

def escaped : Units → Units
  | [] => []
  | [unit] => escape unit
  | unit :: next :: rest =>
    if isHigh unit && isLow next then unit :: next :: escaped rest else escape unit ++ escaped (next :: rest)

/-- `JSON.stringify` of a string. -/
def quote (text : Units) : Units := ascii '"' :: (escaped text ++ [ascii '"'])

/-- The units that may stand after a backslash alone, with what they mean. -/
def MARKS : List (UInt16 × UInt16) :=
  [(ascii 'b', 8), (ascii 't', 9), (ascii 'n', 10), (ascii 'f', 12), (ascii 'r', 13), (ascii '"', ascii '"'),
    (ascii '\\', ascii '\\'), (ascii '/', ascii '/')]

/-- The unit that four hexadecimal digits name. -/
def readHex (a b c d : UInt16) : Option UInt16 := do
  let a ← hexOf a
  let b ← hexOf b
  let c ← hexOf c
  let d ← hexOf d
  return UInt16.ofNat (4096 * a + 256 * b + 16 * c + d)

/-- A string up to its closing quote, and what follows that. -/
def readString : Units → Option (Units × Units)
  | [] => none
  | unit :: rest =>
    if unit = ascii '"' then some ([], rest)
    else if unit = ascii '\\' then
      match rest with
      | [] => none
      | mark :: rest =>
        if mark = ascii 'u' then
          match rest with
          | a :: b :: c :: d :: rest =>
            (readHex a b c d).bind fun code => (readString rest).map fun read => (code :: read.1, read.2)
          | _ => none
        else (MARKS.lookup mark).bind fun plain => (readString rest).map fun read => (plain :: read.1, read.2)
    else if unit < 0x20 then none
    else (readString rest).map fun read => (unit :: read.1, read.2)

/-! ## Writing -/

def commaSeparated : List Units → Units
  | [] => []
  | [item] => item
  | item :: rest => item ++ ascii ',' :: commaSeparated rest

/-- A field of an object, of which the value is written already. -/
def writeField (field : Units × Units) : Units := quote field.1 ++ ascii ':' :: field.2

mutual

/-- `JSON.stringify(value)` -/
def Value.text : Value → Units
  | .null => word "null"
  | .bool value => word (if value then "true" else "false")
  | .number value => value.text
  | .string text => quote text
  | .array items => ascii '[' :: (commaSeparated (itemTexts items) ++ [ascii ']'])
  | .object fields => ascii '\x7b' :: (commaSeparated ((fieldTexts fields).map writeField) ++ [ascii '\x7d'])

def itemTexts : List Value → List Units
  | [] => []
  | item :: items => item.text :: itemTexts items

def fieldTexts : List (Units × Value) → List (Units × Units)
  | [] => []
  | (key, value) :: fields => (key, value.text) :: fieldTexts fields

end

/-! ## Reading -/

def isSpace (unit : UInt16) : Bool := unit == 0x20 || unit == 9 || unit == 10 || unit == 13

def skipSpace (text : Units) : Units := text.dropWhile isSpace

/-- The value of a key is what was assigned last; the key stays where it was first. -/
def assign (fields : List (Units × Value)) (field : Units × Value) : List (Units × Value) :=
  if fields.any (·.1 == field.1) then fields.map fun old => if old.1 = field.1 then field else old
  else fields ++ [field]

/-- What a reader makes of a decimal and of the fields of an object. -/
structure Reader where
  round : Decimal → Number
  assemble : List (Units × Value) → List (Units × Value)

/-- The words for the values that have one. -/
def WORDS : List (Units × Value) := [(word "null", .null), (word "true", .bool true), (word "false", .bool false)]

/-- A word or a number, and what follows it. -/
def readScalar (reader : Reader) (text : Units) : Option (Value × Units) :=
  match WORDS.find? fun entry => entry.1.isPrefixOf text with
  | some entry => some (entry.2, text.drop entry.1.length)
  | none => (readNumber reader.round text).map fun read => (.number read.1, read.2)

mutual

/-- A value and what follows it. -/
def readValue (reader : Reader) : ℕ → Units → Option (Value × Units)
  | 0, _ => none
  | fuel + 1, text =>
    match skipSpace text with
    | [] => none
    | unit :: rest =>
      if unit = ascii '"' then (readString rest).map fun read => (.string read.1, read.2)
      else if unit = ascii '[' then
        if (skipSpace rest).head? = some (ascii ']') then some (.array [], (skipSpace rest).tail)
        else (readItems reader fuel rest).map fun read => (.array read.1, read.2)
      else if unit = ascii '\x7b' then
        if (skipSpace rest).head? = some (ascii '\x7d') then some (.object [], (skipSpace rest).tail)
        else (readFields reader fuel rest).map fun read => (.object (reader.assemble read.1), read.2)
      else readScalar reader (unit :: rest)

/-- The items of an array up to its end, and what follows that. -/
def readItems (reader : Reader) : ℕ → Units → Option (List Value × Units)
  | 0, _ => none
  | fuel + 1, text =>
    (readValue reader fuel text).bind fun item =>
      match skipSpace item.2 with
      | [] => none
      | unit :: rest =>
        if unit = ascii ']' then some ([item.1], rest)
        else if unit = ascii ',' then (readItems reader fuel rest).map fun read => (item.1 :: read.1, read.2)
        else none

/-- The fields of an object up to its end, and what follows that. -/
def readFields (reader : Reader) : ℕ → Units → Option (List (Units × Value) × Units)
  | 0, _ => none
  | fuel + 1, text =>
    match skipSpace text with
    | [] => none
    | unit :: rest =>
      if unit = ascii '"' then
        (readString rest).bind fun key =>
          match skipSpace key.2 with
          | [] => none
          | colon :: rest =>
            if colon = ascii ':' then
              (readValue reader fuel rest).bind fun value =>
                match skipSpace value.2 with
                | [] => none
                | unit :: rest =>
                  if unit = ascii '\x7d' then some ([(key.1, value.1)], rest)
                  else if unit = ascii ',' then
                    (readFields reader fuel rest).map fun read => ((key.1, value.1) :: read.1, read.2)
                  else none
            else none
      else none

end

/-- The value of a whole text. Of every two calls one reads a character, so the fuel suffices. -/
def Reader.read (reader : Reader) (text : Units) : Option Value :=
  (readValue reader (2 * text.length + 2) text).bind fun read => if skipSpace read.2 = [] then some read.1 else none

/-- `JSON.parse(text)`, of which the numbers are rounded as given. -/
def parse (round : Decimal → Number) (text : Units) : Option Value :=
  Reader.read { round, assemble := fun fields => fields.foldl assign [] } text

end Json
