import Mathlib.Data.List.Basic
import Mathlib.Tactic.IntervalCases

/-! # The path of a web address

What an address parser makes of the path of an absolute `https` address. Characters outside the plain ones are written
percent-encoded, a backslash counts as a slash, and a segment that reads as one dot or two, in whatever spelling, is taken
out, two dots with the segment before it.
-/

namespace UrlPath

open List

/-! ## Characters -/

/-- The path percent-encode set. -/
def pathSet (c : Char) : Bool :=
  c.toNat ≤ 0x20 || 0x7E < c.toNat || c ∈ ['"', '#', '<', '>', '?', '^', '\x60', '\x7b', '\x7d']

/-- Where a segment ends. -/
def isSlash (c : Char) : Bool := c == '/' || c == '\\'

/-- Where a path ends. -/
def endsPath (c : Char) : Bool := c == '?' || c == '#'

def hexDigit (value : ℕ) : Char := "0123456789ABCDEF".toList.getD value '0'

def percentEncodeByte (byte : UInt8) : List Char := ['%', hexDigit (byte.toNat / 16), hexDigit (byte.toNat % 16)]

/-- What is written for a character of a path. -/
def percentEncode (c : Char) : List Char :=
  if pathSet c then (String.utf8EncodeChar c).flatMap percentEncodeByte else [c]

/-! ## Segments -/

def isSingleDot (segment : List Char) : Bool :=
  segment.map Char.toLower ∈ [['.'], ['%', '2', 'e']]

def isDoubleDot (segment : List Char) : Bool :=
  segment.map Char.toLower ∈
    [['.', '.'], ['.', '%', '2', 'e'], ['%', '2', 'e', '.'], ['%', '2', 'e', '%', '2', 'e']]

/-- The segments so far and the one that ends here, at a slash or with the path. -/
def close (slash : Bool) (path : List (List Char)) (buffer : List Char) : List (List Char) :=
  if isDoubleDot buffer then (if slash then path.dropLast else path.dropLast ++ [[]])
  else if isSingleDot buffer then (if slash then path else path ++ [[]])
  else path ++ [buffer]

/-- The path state: the segments so far, the one being read, and the rest of the address. -/
def pathState (path : List (List Char)) (buffer : List Char) : List Char → List (List Char)
  | [] => close false path buffer
  | c :: rest =>
    if isSlash c then pathState (close true path buffer) [] rest
    else if endsPath c then close false path buffer
    else pathState path (buffer ++ percentEncode c) rest

/-- The path start state. -/
def pathStart : List Char → List (List Char)
  | [] => pathState [] [] []
  | c :: rest => if isSlash c then pathState [] [] rest else pathState [] [] (c :: rest)

/-! ## Addresses -/

/-- A control character or a space. -/
def isBlank (c : Char) : Bool := c.toNat ≤ 0x20

def isTabOrNewline (c : Char) : Bool := c == '\t' || c == '\n' || c == '\r'

/-- A text without the blanks at its end. -/
def trimEnd : List Char → List Char
  | [] => []
  | c :: rest => if (c :: rest).all isBlank then [] else c :: trimEnd rest

/-- What is done to an address before it is parsed. -/
def preprocess (input : List Char) : List Char :=
  (trimEnd (input.dropWhile isBlank)).filter fun c => !isTabOrNewline c

/-- What follows the scheme and the host of an `https` address. -/
def afterHost (input : List Char) : List Char :=
  ((preprocess input).drop "https://".length).dropWhile fun c => !(isSlash c || endsPath c)

/-- The path of an `https` address. -/
def pathname (input : List Char) : List Char := '/' :: ['/'].intercalate (pathStart (afterHost input))

/-! ## What a path consists of -/

/-- A character that stands in a path as it is. -/
def isPlain (c : Char) : Bool := !pathSet c && !isSlash c

/-- A segment that stands in a path as it is. -/
structure Kept (segment : List Char) : Prop where
  plain : ∀ c ∈ segment, isPlain c = true
  notSingle : isSingleDot segment = false
  notDouble : isDoubleDot segment = false

instance (segment : List Char) : Decidable (Kept segment) :=
  decidable_of_iff (segment.all isPlain = true ∧ isSingleDot segment = false ∧ isDoubleDot segment = false)
    ⟨fun kept => ⟨all_eq_true.mp kept.1, kept.2.1, kept.2.2⟩,
      fun kept => ⟨all_eq_true.mpr kept.plain, kept.notSingle, kept.notDouble⟩⟩

theorem kept_nil : Kept [] := by decide

variable {c : Char}

theorem isPlain_iff : isPlain c = true ↔ pathSet c = false ∧ isSlash c = false := by
  simp only [isPlain, Bool.and_eq_true, Bool.not_eq_true']

theorem percentEncode_plain (plain : isPlain c = true) : percentEncode c = [c] := by
  rw [percentEncode, if_neg]
  exact Bool.eq_false_iff.mp (isPlain_iff.mp plain).1

theorem not_endsPath_of_plain (plain : isPlain c = true) : endsPath c = false := by
  have outside := (isPlain_iff.mp plain).1
  by_contra ends
  rw [Bool.not_eq_false, endsPath, Bool.or_eq_true, beq_iff_eq, beq_iff_eq] at ends
  rcases ends with rfl | rfl <;> exact absurd outside (by decide)

theorem not_blank_of_plain (plain : isPlain c = true) : isBlank c = false := by
  have outside := (isPlain_iff.mp plain).1
  simp only [pathSet, Bool.or_eq_false_iff] at outside
  exact outside.1.1

theorem hexDigit_plain {value : ℕ} (small : value < 16) : isPlain (hexDigit value) = true := by
  interval_cases value <;> decide

theorem percentEncodeByte_plain (byte : UInt8) : ∀ c ∈ percentEncodeByte byte, isPlain c = true := by
  intro c member
  have short := byte.toNat_lt
  simp only [percentEncodeByte, mem_cons, not_mem_nil, or_false] at member
  rcases member with rfl | rfl | rfl
  · decide
  · exact hexDigit_plain (by omega)
  · exact hexDigit_plain (by omega)

/-- Whatever character is read, plain ones are written. -/
theorem percentEncode_allPlain (inside : isSlash c = false) : ∀ d ∈ percentEncode c, isPlain d = true := by
  intro d member
  rw [percentEncode] at member
  split at member
  next =>
    obtain ⟨byte, _, written⟩ := mem_flatMap.mp member
    exact percentEncodeByte_plain byte d written
  next outside =>
    rw [mem_singleton] at member
    rw [member, isPlain_iff]
    exact ⟨Bool.eq_false_iff.mpr outside, inside⟩

variable {path : List (List Char)} {buffer : List Char}

theorem close_kept (slash : Bool) (kept : ∀ segment ∈ path, Kept segment)
    (plain : ∀ c ∈ buffer, isPlain c = true) : ∀ segment ∈ close slash path buffer, Kept segment := by
  have ended : ∀ segment ∈ path ++ [[]], Kept segment := by
    simpa only [forall_mem_append, forall_mem_singleton] using And.intro kept kept_nil
  have shorter : ∀ segment ∈ path.dropLast, Kept segment := fun segment member => kept segment (dropLast_subset _ member)
  have shortened : ∀ segment ∈ path.dropLast ++ [[]], Kept segment := by
    simpa only [forall_mem_append, forall_mem_singleton] using And.intro shorter kept_nil
  rw [close]
  split
  next =>
    split
    · exact shorter
    · exact shortened
  next notDouble =>
    split
    next =>
      split
      · exact kept
      · exact ended
    next notSingle =>
      intro segment member
      rcases mem_append.mp member with before | last
      · exact kept segment before
      · rw [mem_singleton.mp last]
        exact ⟨plain, Bool.eq_false_iff.mpr notSingle, Bool.eq_false_iff.mpr notDouble⟩

theorem close_false_ne_nil (path : List (List Char)) (buffer : List Char) : close false path buffer ≠ [] := by
  rw [close]
  split
  · exact append_ne_nil_of_right_ne_nil _ (cons_ne_nil _ _)
  split
  · exact append_ne_nil_of_right_ne_nil _ (cons_ne_nil _ _)
  · exact append_ne_nil_of_right_ne_nil _ (cons_ne_nil _ _)

/-- The path state leaves segments that it would not change, whatever it reads. -/
theorem pathState_kept {text : List Char} (kept : ∀ segment ∈ path, Kept segment)
    (plain : ∀ c ∈ buffer, isPlain c = true) : ∀ segment ∈ pathState path buffer text, Kept segment := by
  induction text generalizing path buffer with
  | nil => exact close_kept false kept plain
  | cons c rest ih =>
    rw [pathState]
    split
    next => exact ih (close_kept true kept plain) fun _ impossible => absurd impossible not_mem_nil
    next inside =>
      split
      next => exact close_kept false kept plain
      next =>
        apply ih kept
        rw [forall_mem_append]
        exact ⟨plain, percentEncode_allPlain (Bool.eq_false_iff.mpr inside)⟩

theorem pathState_ne_nil {text : List Char} : pathState path buffer text ≠ [] := by
  induction text generalizing path buffer with
  | nil => exact close_false_ne_nil path buffer
  | cons c rest ih =>
    rw [pathState]
    split
    · exact ih
    split
    · exact close_false_ne_nil path buffer
    · exact ih

theorem pathStart_kept (text : List Char) : ∀ segment ∈ pathStart text, Kept segment := by
  have none : ∀ segment ∈ ([] : List (List Char)), Kept segment := fun _ impossible => absurd impossible not_mem_nil
  have empty : ∀ c ∈ ([] : List Char), isPlain c = true := fun _ impossible => absurd impossible not_mem_nil
  cases text with
  | nil => exact pathState_kept none empty
  | cons c rest =>
    rw [pathStart]
    split
    · exact pathState_kept none empty
    · exact pathState_kept none empty

theorem pathStart_ne_nil (text : List Char) : pathStart text ≠ [] := by
  cases text with
  | nil => exact pathState_ne_nil
  | cons c rest =>
    rw [pathStart]
    split
    · exact pathState_ne_nil
    · exact pathState_ne_nil

variable {segment : List Char}

theorem Kept.noSlash (kept : Kept segment) : '/' ∉ segment := by
  intro member
  exact absurd (kept.plain '/' member) (by decide)

/-- The segments of a path are those that the path state leaves. -/
theorem pathname_segments (input : List Char) : (pathname input).splitOn '/' = [] :: pathStart (afterHost input) := by
  have slashes : ∀ segment ∈ pathStart (afterHost input), '/' ∉ segment :=
    fun segment member => (pathStart_kept _ segment member).noSlash
  rw [pathname, splitOn_cons_eq_if_modifyHead, if_pos (beq_self_eq_true '/'), splitOn_intercalate '/' slashes (pathStart_ne_nil _)]

/-! ## What is kept -/

/-- The path has ended here. -/
def Ended (text : List Char) : Prop := text = [] ∨ ∃ c rest, text = c :: rest ∧ endsPath c = true

theorem endsPath_eq (ends : endsPath c = true) : isSlash c = false ∧ isBlank c = false ∧ isTabOrNewline c = false := by
  rw [endsPath, Bool.or_eq_true, beq_iff_eq, beq_iff_eq] at ends
  rcases ends with rfl | rfl <;> decide

variable {tail : List Char}

theorem pathState_ended (ended : Ended tail) (path : List (List Char)) (buffer : List Char) :
    pathState path buffer tail = close false path buffer := by
  rcases ended with rfl | ⟨c, rest, rfl, ends⟩
  · rfl
  · rw [pathState, if_neg (Bool.eq_false_iff.mp (endsPath_eq ends).1), if_pos ends]

theorem pathState_plain (plain : ∀ c ∈ segment, isPlain c = true) (path : List (List Char))
    (buffer tail : List Char) : pathState path buffer (segment ++ tail) = pathState path (buffer ++ segment) tail := by
  induction segment generalizing buffer with
  | nil => rw [nil_append, append_nil]
  | cons c rest ih =>
    obtain ⟨head, others⟩ := forall_mem_cons.mp plain
    rw [cons_append, pathState, if_neg (Bool.eq_false_iff.mp (isPlain_iff.mp head).2),
      if_neg (Bool.eq_false_iff.mp (not_endsPath_of_plain head)), percentEncode_plain head, ih others, append_assoc,
      singleton_append]

theorem Kept.close (kept : Kept segment) (slash : Bool) (path : List (List Char)) :
    UrlPath.close slash path segment = path ++ [segment] := by
  rw [UrlPath.close, if_neg (Bool.eq_false_iff.mp kept.notDouble), if_neg (Bool.eq_false_iff.mp kept.notSingle)]

/-- The path state keeps segments that it would not change. -/
theorem pathState_segments {segments : List (List Char)} (nonempty : segments ≠ []) (kept : ∀ segment ∈ segments, Kept segment)
    (ended : Ended tail) (path : List (List Char)) :
    pathState path [] (['/'].intercalate segments ++ tail) = path ++ segments := by
  induction segments generalizing path with
  | nil => exact absurd rfl nonempty
  | cons segment rest ih =>
    obtain ⟨head, others⟩ := forall_mem_cons.mp kept
    cases rest with
    | nil =>
      rw [intercalate_singleton, pathState_plain head.plain, pathState_ended ended, nil_append, head.close]
    | cons second rest =>
      rw [intercalate_cons_cons, append_assoc, append_assoc, pathState_plain head.plain, singleton_append,
        pathState, if_pos (by decide), nil_append, head.close, ih (cons_ne_nil _ _) others, append_assoc,
        singleton_append]

theorem trimEnd_append {front : List Char} (solid : ∀ c ∈ front, isBlank c = false) (tail : List Char) :
    trimEnd (front ++ tail) = front ++ trimEnd tail := by
  induction front with
  | nil => rfl
  | cons c rest ih =>
    obtain ⟨head, others⟩ := forall_mem_cons.mp solid
    rw [cons_append, trimEnd, if_neg, ih others, cons_append]
    rw [all_cons, head, Bool.false_and]
    exact Bool.false_ne_true

theorem trimEnd_ended (ended : Ended tail) : Ended ((trimEnd tail).filter fun c => !isTabOrNewline c) := by
  rcases ended with rfl | ⟨c, rest, rfl, ends⟩
  · exact .inl rfl
  · obtain ⟨-, solid, inline⟩ := endsPath_eq ends
    right
    rw [trimEnd, if_neg (by rw [all_cons, solid, Bool.false_and]; exact Bool.false_ne_true),
      filter_cons_of_pos (by rw [inline]; rfl)]
    exact ⟨c, _, rfl, ends⟩

theorem not_tabOrNewline (solid : isBlank c = false) : isTabOrNewline c = false := by
  by_contra tab
  simp only [Bool.not_eq_false, isTabOrNewline, Bool.or_eq_true, beq_iff_eq] at tab
  rcases tab with (rfl | rfl) | rfl <;> exact absurd solid (by decide)

/-- What no character of a text is, as it can be computed. -/
theorem forall_false_of_all {p : Char → Bool} {text : List Char} (all : (text.all fun c => !p c) = true) :
    ∀ c ∈ text, p c = false := by
  intro c member
  rw [← Bool.not_eq_true']
  exact all_eq_true.mp all c member

/-- The name of a host: where it ends cannot be mistaken. -/
structure Host where
  name : List Char
  solid : ∀ c ∈ name, isBlank c = false
  closed : ∀ c ∈ name, (isSlash c || endsPath c) = false

/-- What follows the host of an address whose path begins with a slash. -/
theorem afterHost_rooted (host : Host) {path : List Char} (solid : ∀ c ∈ path, isBlank c = false)
    (ended : Ended tail) :
    ∃ after, Ended after ∧ afterHost ("https://".toList ++ (host.name ++ ('/' :: path ++ tail))) = '/' :: path ++ after := by
  have front : ∀ c ∈ "https://".toList ++ (host.name ++ '/' :: path), isBlank c = false := by
    simp only [forall_mem_append, forall_mem_cons]
    exact ⟨forall_false_of_all (by decide), host.solid, by decide, solid⟩
  have whole : "https://".toList ++ (host.name ++ ('/' :: path ++ tail)) =
      ("https://".toList ++ (host.name ++ '/' :: path)) ++ tail := by
    simp only [append_assoc, cons_append]
  refine ⟨_, trimEnd_ended ended, ?_⟩
  have begins : ∀ rest, ("https://".toList ++ rest).dropWhile isBlank = "https://".toList ++ rest := fun rest => rfl
  have unchanged : ("https://".toList ++ (host.name ++ '/' :: path)).filter (fun c => !isTabOrNewline c) =
      "https://".toList ++ (host.name ++ '/' :: path) :=
    filter_eq_self.mpr fun c member => by rw [not_tabOrNewline (front c member)]; rfl
  have scheme : ∀ rest, ("https://".toList ++ rest).drop "https://".length = rest := fun rest => rfl
  rw [afterHost, preprocess, begins, whole, trimEnd_append front, filter_append, unchanged, append_assoc, scheme,
    append_assoc, dropWhile_append_of_pos fun c member => by rw [host.closed c member]; rfl]
  exact dropWhile_cons_of_neg (by decide)

/-- Segments that the parser would not change are the segments of the path. -/
theorem pathStart_rooted (host : Host) {segments : List (List Char)} (nonempty : segments ≠ [])
    (kept : ∀ segment ∈ segments, Kept segment) (ended : Ended tail) :
    pathStart (afterHost ("https://".toList ++ (host.name ++ ('/' :: ['/'].intercalate segments ++ tail)))) = segments := by
  have solid : ∀ c ∈ ['/'].intercalate segments, isBlank c = false := by
    intro c member
    have slash : isBlank '/' = false := by decide
    induction segments with
    | nil => exact absurd rfl nonempty
    | cons segment rest ih =>
      obtain ⟨head, others⟩ := forall_mem_cons.mp kept
      cases rest with
      | nil =>
        rw [intercalate_singleton] at member
        exact not_blank_of_plain (head.plain c member)
      | cons second rest =>
        rw [intercalate_cons_cons, mem_append, mem_append, mem_singleton] at member
        rcases member with (inside | rfl) | later
        · exact not_blank_of_plain (head.plain c inside)
        · exact slash
        · exact ih (cons_ne_nil _ _) others later
  obtain ⟨after, ends, rest⟩ := afterHost_rooted host solid ended
  rw [rest, cons_append, pathStart, if_pos (by decide), pathState_segments nonempty kept ends, nil_append]

end UrlPath
