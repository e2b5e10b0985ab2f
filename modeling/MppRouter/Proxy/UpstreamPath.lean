import MppRouter.Core.UrlPath

/-! # The upstream path

The path of a route is a template, whose placeholders are replaced by query parameters of the request or by defaults of the
route. A value may hold letters, digits, dots, underscores and hyphens, so that it cannot leave its segment; but a segment
that is filled with one dot or two is taken out when the address is parsed.
-/

namespace MppRouter.Proxy.UpstreamPath

open UrlPath List

/-! ## Templates -/

/-- What the substitution reads of a route. -/
structure Route where
  id : String
  upstreamPath : List Char
  placeholderDefaults : Option (List (List Char × List Char)) := none

/-- The query parameters of a request, in order. -/
abbrev SearchParams := List (List Char × List Char)

def SearchParams.get (params : SearchParams) (name : List Char) : Option (List Char) := params.lookup name

inductive UpstreamPathPlaceholderError where
  | noValue (routeId : String) (name : List Char)
  | badValue (routeId : String) (name value : List Char)
  deriving DecidableEq, Repr

/-- `[A-Za-z0-9_]` -/
def isNameChar (c : Char) : Bool := c.isAlphanum || c == '_'

/-- `[A-Za-z0-9._-]` -/
def isValueChar (c : Char) : Bool := c.isAlphanum || c == '.' || c == '_' || c == '-'

def PLACEHOLDER_VALUE_PATTERN (value : List Char) : Bool := !value.isEmpty && value.all isValueChar

/-- A template is characters that stand for themselves and `\x7bname\x7d` placeholders. -/
inductive Piece where
  | literal (c : Char)
  | placeholder (name : List Char)
  deriving DecidableEq, Repr

/-- The matches of `/\x7b([A-Za-z0-9_]+)\x7d/g` and what stands between them: outside a brace, or after an opening brace and
this much of a name. A brace whose name does not close stands for itself. -/
def scan : Option (List Char) → List Char → List Piece
  | none, [] => []
  | some name, [] => ('\x7b' :: name).map .literal
  | none, c :: rest => if c = '\x7b' then scan (some []) rest else .literal c :: scan none rest
  | some name, c :: rest =>
    if isNameChar c then scan (some (name ++ [c])) rest
    else if c = '\x7d' ∧ name ≠ [] then .placeholder name :: scan none rest
    else if c = '\x7b' then ('\x7b' :: name).map .literal ++ scan (some []) rest
    else ('\x7b' :: name).map .literal ++ .literal c :: scan none rest

def pieces (template : List Char) : List Piece := scan none template

/-- The value for a placeholder: from the query, or else the route's own default. -/
def supplied (route : Route) (params : SearchParams) (name : List Char) : Option (List Char) :=
  match params.get name with
  | some fromQuery => some fromQuery
  | none => (route.placeholderDefaults.getD []).lookup name

def placeholderValue (route : Route) (params : SearchParams) (name : List Char) :
    Except UpstreamPathPlaceholderError (List Char) :=
  match supplied route params name with
  | none => .error (.noValue route.id name)
  | some value => if PLACEHOLDER_VALUE_PATTERN value then .ok value else .error (.badValue route.id name value)

/-- The path, and the names that were taken from the query. -/
def substitute (route : Route) (params : SearchParams) :
    List Piece → Except UpstreamPathPlaceholderError (List Char × List (List Char))
  | [] => .ok ([], [])
  | .literal c :: rest => do
    let (path, consumed) ← substitute route params rest
    .ok (c :: path, consumed)
  | .placeholder name :: rest => do
    let value ← placeholderValue route params name
    let (path, consumed) ← substitute route params rest
    .ok (value ++ path, if (params.get name).isSome then name :: consumed else consumed)

def resolveUpstreamPath (route : Route) (params : SearchParams) :
    Except UpstreamPathPlaceholderError (List Char × List (List Char)) :=
  substitute route params (pieces route.upstreamPath)

/-! ## The address of the merchant -/

/-- A byte of a form-encoded text. -/
def formEncodeByte (byte : UInt8) : List Char :=
  let c := Char.ofNat byte.toNat
  if c = ' ' then ['+'] else if c.isAlphanum || c ∈ ['*', '-', '.', '_'] then [c] else percentEncodeByte byte

def formEncode (text : List Char) : List Char := (text.flatMap String.utf8EncodeChar).flatMap formEncodeByte

/-- `params.toString()` -/
def SearchParams.toText (params : SearchParams) : List Char :=
  ['&'].intercalate (params.map fun (name, value) => formEncode name ++ '=' :: formEncode value)

/-- The query without the placeholders' values and the router's own parameters. -/
def forwardedSearch (params : SearchParams) (consumed : List (List Char)) : List Char :=
  let text := SearchParams.toText <| params.filter fun (name, _) =>
    !(consumed.contains name || name == "payment".toList || name == "agent".toList)
  if text.isEmpty then [] else '?' :: text

/-- Build the full merchant URL from the internal route mapping. -/
def buildMerchantUrl (merchantHost upstreamPath search : List Char) : List Char :=
  "https://".toList ++ (merchantHost ++ (upstreamPath ++ search))

/-! ## What a template comes to -/

/-- A piece with the placeholder replaced by its value. -/
def filledPiece (route : Route) (params : SearchParams) : Piece → List Char
  | .literal c => [c]
  | .placeholder name => (supplied route params name).getD []

/-- A template with every placeholder replaced by its value. -/
def filled (route : Route) (params : SearchParams) (template : List Char) : List Char :=
  (pieces template).flatMap (filledPiece route params)

variable {route : Route} {params : SearchParams}

variable {consumed : List (List Char)}

theorem substitute_filled {parts : List Piece} {path : List Char}
    (resolved : substitute route params parts = .ok (path, consumed)) :
    path = parts.flatMap (filledPiece route params) ∧
      ∀ name, .placeholder name ∈ parts → ∃ value, supplied route params name = some value ∧
        PLACEHOLDER_VALUE_PATTERN value = true := by
  induction parts generalizing path consumed with
  | nil =>
    cases resolved
    exact ⟨rfl, fun _ impossible => absurd impossible not_mem_nil⟩
  | cons piece rest ih =>
    cases piece with
    | literal c =>
      rw [substitute] at resolved
      cases later : substitute route params rest with
      | error code =>
        rw [later] at resolved
        cases resolved
      | ok result =>
        rw [later] at resolved
        cases resolved
        obtain ⟨same, values⟩ := ih later
        refine ⟨by rw [flatMap_cons, ← same]; rfl, fun name member => values name ?_⟩
        simpa only [mem_cons, reduceCtorEq, false_or] using member
    | placeholder name =>
      rw [substitute, placeholderValue] at resolved
      cases found : supplied route params name with
      | none =>
        rw [found] at resolved
        cases resolved
      | some value =>
        rw [found] at resolved
        dsimp only at resolved
        split at resolved
        next fits =>
          cases later : substitute route params rest with
          | error code =>
            rw [later] at resolved
            cases resolved
          | ok result =>
            rw [later] at resolved
            cases resolved
            obtain ⟨same, values⟩ := ih later
            constructor
            · rw [flatMap_cons, ← same, filledPiece, found, Option.getD_some]
            · intro other member
              rcases mem_cons.mp member with first | later
              · cases first
                exact ⟨value, found, fits⟩
              · exact values other later
        next =>
          cases resolved

theorem noSlash_of_fits {value : List Char} (fits : PLACEHOLDER_VALUE_PATTERN value = true) : '/' ∉ value := by
  intro member
  rw [PLACEHOLDER_VALUE_PATTERN, Bool.and_eq_true, all_eq_true] at fits
  exact absurd (fits.2 '/' member) (by decide)

theorem nonempty_of_fits {value : List Char} (fits : PLACEHOLDER_VALUE_PATTERN value = true) : value ≠ [] := by
  rintro rfl
  cases fits

/-! ## Segments of a template -/

/-- No placeholder goes across a slash. -/
theorem scan_slash (front : List Char) (state : Option (List Char)) (back : List Char) :
    scan state (front ++ '/' :: back) = scan state front ++ .literal '/' :: scan none back := by
  have notName : isNameChar '/' = false := by decide
  induction front generalizing state with
  | nil =>
    cases state with
    | none => exact if_neg (by decide)
    | some name =>
      change (if isNameChar '/' = true then _ else if _ then _ else if _ then _ else _) = _
      rw [if_neg (Bool.eq_false_iff.mp notName), if_neg fun closes => absurd closes.1 (by decide), if_neg (by decide)]
      rfl
  | cons c rest ih =>
    cases state with
    | none =>
      rw [cons_append, scan, scan]
      split
      · exact ih _
      · rw [ih, cons_append]
    | some name =>
      rw [cons_append, scan, scan]
      split
      · exact ih _
      split
      · rw [ih, cons_append]
      split
      · rw [ih, append_assoc]
      · rw [ih, append_assoc, cons_append]

theorem filled_slash (front back : List Char) :
    filled route params (front ++ '/' :: back) = filled route params front ++ '/' :: filled route params back := by
  rw [filled, pieces, scan_slash, flatMap_append, flatMap_cons]
  rfl

/-- Without a slash in the template, none stands between the placeholders. -/
theorem scan_noSlash {template : List Char} {state : Option (List Char)} (inside : '/' ∉ template)
    (named : ∀ name, state = some name → '/' ∉ name) : .literal '/' ∉ scan state template := by
  have opened {name : List Char} (named : '/' ∉ name) : .literal '/' ∉ ('\x7b' :: name).map Piece.literal := by
    intro member
    obtain ⟨c, written, same⟩ := mem_map.mp member
    cases same
    rcases mem_cons.mp written with brace | before
    · exact absurd brace (by decide)
    · exact named before
  induction template generalizing state with
  | nil =>
    cases state with
    | none => exact not_mem_nil
    | some name => exact opened (named name rfl)
  | cons c rest ih =>
    obtain ⟨other, inside⟩ := not_or.mp fun either => inside (mem_cons.mpr either)
    have fresh : .literal '/' ∉ scan (some []) rest := ih inside fun name same => by cases same; exact not_mem_nil
    have outside : .literal '/' ∉ scan none rest := ih inside fun name same => nomatch same
    have kept : .literal '/' ∉ .literal c :: scan none rest := by
      rw [mem_cons, Piece.literal.injEq]
      exact not_or.mpr ⟨other, outside⟩
    cases state with
    | none =>
      rw [scan]
      split
      · exact fresh
      · exact kept
    | some name =>
      have before := named name rfl
      rw [scan]
      split
      · apply ih inside
        intro grown same member
        cases same
        rcases mem_append.mp member with earlier | last
        · exact before earlier
        · exact other (mem_singleton.mp last)
      split
      · rw [mem_cons]
        exact not_or.mpr ⟨Piece.noConfusion, outside⟩
      split
      · exact fun member => (mem_append.mp member).elim (opened before) fresh
      · exact fun member => (mem_append.mp member).elim (opened before) kept

/-- The values for these pieces keep to their segments. -/
def StaysInside (route : Route) (params : SearchParams) (parts : List Piece) : Prop :=
  ∀ name, .placeholder name ∈ parts → '/' ∉ (supplied route params name).getD []

theorem filled_noSlash {segment : List Char} (inside : '/' ∉ segment) (stays : StaysInside route params (pieces segment)) :
    '/' ∉ filled route params segment := by
  intro member
  obtain ⟨piece, part, written⟩ := mem_flatMap.mp member
  cases piece with
  | literal c =>
    rw [filledPiece, mem_singleton] at written
    rw [← written] at part
    exact scan_noSlash inside (fun _ impossible => by cases impossible) part
  | placeholder name => exact stays name part written

theorem filled_segments {segments : List (List Char)} (nonempty : segments ≠ []) (slashless : ∀ segment ∈ segments, '/' ∉ segment)
    (stays : StaysInside route params (pieces (['/'].intercalate segments))) :
    filled route params (['/'].intercalate segments) = ['/'].intercalate (segments.map (filled route params)) ∧
      ∀ segment ∈ segments, '/' ∉ filled route params segment := by
  induction segments with
  | nil => exact absurd rfl nonempty
  | cons segment rest ih =>
    obtain ⟨head, others⟩ := forall_mem_cons.mp slashless
    cases rest with
    | nil =>
      rw [intercalate_singleton] at stays ⊢
      exact ⟨intercalate_singleton.symm, forall_mem_singleton.mpr (filled_noSlash head stays)⟩
    | cons second rest =>
      rw [intercalate_cons_cons, append_assoc, singleton_append] at stays ⊢
      rw [pieces, scan_slash] at stays
      have first : StaysInside route params (pieces segment) := fun name part => stays name (mem_append_left _ part)
      have later : StaysInside route params (pieces (['/'].intercalate (second :: rest))) :=
        fun name part => stays name (mem_append_right _ (mem_cons_of_mem _ part))
      obtain ⟨same, closed⟩ := ih (cons_ne_nil _ _) others later
      constructor
      · rw [filled_slash, same]
        simp only [map_cons, intercalate_cons_cons, append_assoc, singleton_append]
      · exact forall_mem_cons.mpr ⟨filled_noSlash head first, closed⟩

theorem slashless_splitOn (text : List Char) : ∀ segment ∈ text.splitOn '/', '/' ∉ segment := by
  induction text with
  | nil =>
    intro segment member
    rw [splitOn_nil, mem_singleton] at member
    rw [member]
    exact not_mem_nil
  | cons c rest ih =>
    rw [splitOn_cons_eq_if_modifyHead]
    split
    next => exact forall_mem_cons.mpr ⟨not_mem_nil, ih⟩
    next other =>
      obtain ⟨segment, segments, split⟩ := exists_cons_of_ne_nil (splitOn_ne_nil '/' rest)
      rw [split] at ih ⊢
      obtain ⟨head, others⟩ := forall_mem_cons.mp ih
      refine forall_mem_cons.mpr ⟨?_, others⟩
      rw [mem_cons]
      exact not_or.mpr ⟨fun same => other (beq_iff_eq.mpr same.symm), head⟩

theorem resolved_segments {path : List Char} (resolved : resolveUpstreamPath route params = .ok (path, consumed)) :
    path = ['/'].intercalate ((route.upstreamPath.splitOn '/').map (filled route params)) ∧
      ∀ segment ∈ (route.upstreamPath.splitOn '/').map (filled route params), '/' ∉ segment := by
  obtain ⟨same, values⟩ := substitute_filled resolved
  have stays : StaysInside route params (pieces (['/'].intercalate (route.upstreamPath.splitOn '/'))) := by
    rw [intercalate_splitOn]
    intro name part
    obtain ⟨value, found, fits⟩ := values name part
    rw [found, Option.getD_some]
    exact noSlash_of_fits fits
  obtain ⟨whole, closed⟩ :=
    filled_segments (splitOn_ne_nil '/' _) (slashless_splitOn route.upstreamPath) stays
  rw [intercalate_splitOn] at whole
  exact ⟨same.trans whole, forall_mem_map.mpr closed⟩

/-! ## What is requested -/

theorem forwardedSearch_ended (params : SearchParams) (consumed : List (List Char)) :
    Ended (forwardedSearch params consumed) := by
  rw [forwardedSearch]
  split
  · exact .inl rfl
  · exact .inr ⟨_, _, rfl, rfl⟩

/-- After an opening brace stands the brace itself or a placeholder. -/
theorem scan_opened (name template : List Char) : (scan (some name) template).head? = some (.literal '\x7b') ∨
      ∃ closed, (scan (some name) template).head? = some (.placeholder closed) := by
  induction template generalizing name with
  | nil => exact .inl rfl
  | cons c rest ih =>
    rw [scan]
    split
    · exact ih _
    split
    · exact .inr ⟨name, rfl⟩
    split
    · exact .inl rfl
    · exact .inl rfl

/-- The template begins with a slash when the filled template does: a value is not empty and holds no slash. -/
theorem rooted_of_filled {rest path : List Char}
    (resolved : resolveUpstreamPath route params = .ok (path, consumed)) (rooted : path = '/' :: rest) :
    route.upstreamPath.head? = some '/' := by
  obtain ⟨same, values⟩ := substitute_filled resolved
  rw [rooted] at same
  cases parts : pieces route.upstreamPath with
  | nil =>
    rw [parts] at same
    cases same
  | cons piece others =>
    rw [parts, flatMap_cons] at same
    cases piece with
    | placeholder name =>
      obtain ⟨value, found, fits⟩ := values name (by rw [parts]; exact mem_cons_self)
      rw [filledPiece, found, Option.getD_some] at same
      obtain ⟨c, text, nonempty⟩ := exists_cons_of_ne_nil (nonempty_of_fits fits)
      rw [nonempty] at same fits
      cases same
      exact absurd mem_cons_self (noSlash_of_fits fits)
    | literal c =>
      cases same
      cases template : route.upstreamPath with
      | nil =>
        rw [template] at parts
        cases parts
      | cons d text =>
        rw [template, pieces, scan] at parts
        split at parts
        next =>
          rcases scan_opened [] text with brace | ⟨closed, placed⟩
          · rw [parts, head?_cons, Option.some.injEq, Piece.literal.injEq] at brace
            exact absurd brace (by decide)
          · rw [parts] at placed
            cases placed
        next =>
          cases parts
          rfl

/-- Segments that the parser would not change are those of the address. -/
theorem pathStart_built (host : Host) {segments : List (List Char)} (nonempty : segments ≠ [])
    (kept : ∀ segment ∈ segments, Kept segment) (params : SearchParams) (consumed : List (List Char)) :
    pathStart (afterHost
      (buildMerchantUrl host.name ('/' :: ['/'].intercalate segments) (forwardedSearch params consumed))) = segments :=
  pathStart_rooted host nonempty kept (forwardedSearch_ended params consumed)

/-- The request goes to the segments of the template, each with its values in the place of its placeholders, exactly when the
template begins with a slash and each segment, filled, consists of characters that are left as they are and does not read as
one dot or two. -/
theorem segments_requested_iff (route : Route) (params : SearchParams) (host : Host) {path : List Char}
    {consumed : List (List Char)} (resolved : resolveUpstreamPath route params = .ok (path, consumed)) :
    (pathname (buildMerchantUrl host.name path (forwardedSearch params consumed))).splitOn '/' =
        (route.upstreamPath.splitOn '/').map (filled route params) ↔
      route.upstreamPath.head? = some '/' ∧
        ∀ segment ∈ route.upstreamPath.splitOn '/', Kept (filled route params segment) := by
  obtain ⟨whole, closed⟩ := resolved_segments resolved
  rw [pathname_segments]
  constructor
  · intro same
    have requested := pathStart_kept (afterHost (buildMerchantUrl host.name path (forwardedSearch params consumed)))
    have more := pathStart_ne_nil (afterHost (buildMerchantUrl host.name path (forwardedSearch params consumed)))
    rw [← same] at whole
    constructor
    · obtain ⟨first, others, several⟩ := exists_cons_of_ne_nil more
      rw [several, intercalate_cons_cons, nil_append] at whole
      exact rooted_of_filled resolved whole
    · have all : ∀ segment ∈ (route.upstreamPath.splitOn '/').map (filled route params), Kept segment := by
        rw [← same]
        exact forall_mem_cons.mpr ⟨kept_nil, requested⟩
      exact forall_mem_map.mp all
  · intro met
    obtain ⟨rooted, kept⟩ := met
    have empty : filled route params [] = [] := rfl
    obtain ⟨template, begins⟩ := head?_eq_some_iff.mp rooted
    rw [begins, splitOn_cons_eq_if_modifyHead, if_pos (beq_self_eq_true '/')] at whole kept ⊢
    have nonempty : (template.splitOn '/').map (filled route params) ≠ [] := by
      rw [ne_eq, map_eq_nil_iff]
      exact splitOn_ne_nil '/' template
    obtain ⟨first, others, several⟩ := exists_cons_of_ne_nil nonempty
    have rest : path = '/' :: ['/'].intercalate ((template.splitOn '/').map (filled route params)) := by
      rw [whole, map_cons, several, intercalate_cons_cons, empty, nil_append, singleton_append]
    have keeps : ∀ segment ∈ (template.splitOn '/').map (filled route params), Kept segment :=
      forall_mem_map.mpr (forall_mem_cons.mp kept).2
    rw [rest, pathStart_built host nonempty keeps, map_cons, empty]

/-! ## A transaction by its hash -/

def byHash : Route where
  id := "mercury_txs_by_hash"
  upstreamPath := "/rest/txs/by-hash/\x7btx_hash\x7d".toList

def mercury : Host where
  name := "mainnet.mercurydata.app".toList
  solid := forall_false_of_all (by decide)
  closed := forall_false_of_all (by decide)

/-- A hash is requested in its place. -/
theorem segments_requested_hash :
    resolveUpstreamPath byHash [("tx_hash".toList, "a1".toList)] = .ok ("/rest/txs/by-hash/a1".toList, ["tx_hash".toList]) ∧
    (pathname (buildMerchantUrl mercury.name "/rest/txs/by-hash/a1".toList
        (forwardedSearch [("tx_hash".toList, "a1".toList)] ["tx_hash".toList]))).splitOn '/' =
      ("/rest/txs/by-hash/\x7btx_hash\x7d".toList.splitOn '/').map (filled byHash [("tx_hash".toList, "a1".toList)]) := by
  have resolved : resolveUpstreamPath byHash [("tx_hash".toList, "a1".toList)] =
      .ok ("/rest/txs/by-hash/a1".toList, ["tx_hash".toList]) := by decide +kernel
  have kept : ((byHash.upstreamPath.splitOn '/').all fun segment =>
      decide (Kept (filled byHash [("tx_hash".toList, "a1".toList)] segment))) = true := by decide +kernel
  refine ⟨resolved, (segments_requested_iff byHash _ mercury resolved).mpr ⟨by decide +kernel, fun segment member => ?_⟩⟩
  exact of_decide_eq_true (all_eq_true.mp kept segment member)

/-- Two dots for a hash ask for all transactions. -/
theorem two_dots_leave :
    resolveUpstreamPath byHash [("tx_hash".toList, "..".toList)] = .ok ("/rest/txs/by-hash/..".toList, ["tx_hash".toList]) ∧
    pathname (buildMerchantUrl mercury.name "/rest/txs/by-hash/..".toList
        (forwardedSearch [("tx_hash".toList, "..".toList)] ["tx_hash".toList])) = "/rest/txs/".toList ∧
    (pathname (buildMerchantUrl mercury.name "/rest/txs/by-hash/..".toList
        (forwardedSearch [("tx_hash".toList, "..".toList)] ["tx_hash".toList]))).splitOn '/' ≠
      ("/rest/txs/by-hash/\x7btx_hash\x7d".toList.splitOn '/').map (filled byHash [("tx_hash".toList, "..".toList)]) := by
  refine ⟨by decide +kernel, by decide +kernel, by decide +kernel⟩

end MppRouter.Proxy.UpstreamPath
