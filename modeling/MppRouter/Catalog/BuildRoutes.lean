import Mathlib
import MppRouter.Core.Decimal
import MppRouter.Core.FreshName
import MppRouter.Core.TextEncoding

/-! # The route table

`PUBLIC_SERVICE_ROUTES` is generated from a frozen snapshot of the mpp.dev catalog. Ids and public paths are made of the
endpoint's path and renamed where they are taken; then the operator overlay replaces fields of the routes it names.
-/

namespace MppRouter.Catalog

open Decimal FreshName

/-! ## The snapshot and the routes -/

/-- The payment block of an endpoint. -/
structure Payment where
  amount : Option String
  decimals : Option ℤ := none
  amountHint : Option String := none
  dynamic : Bool := false
  deriving DecidableEq

structure MppEndpoint where
  method : String
  path : String
  payment : Option Payment
  description : Option String := none
  deriving DecidableEq

structure MppService where
  id : String
  name : String
  serviceUrl : String
  endpoints : List MppEndpoint
  description : Option String := none
  categories : List String := []
  status : Option String := none
  /-- `methods.tempo.intents` -/
  intents : List String := []
  deriving DecidableEq

structure MppSnapshot where
  services : List MppService

inductive UpstreamPaymentMethod where
  | tempoCharge
  | tempoSession
  deriving DecidableEq, Repr

inductive VerifiedMode where
  | session
  | charge
  | broken
  deriving DecidableEq, Repr

structure PublicServiceRoute where
  id : String
  service : String
  operation : String
  name : String
  categories : List String
  description : String
  method : String
  price : String
  upstreamPaymentMethod : UpstreamPaymentMethod
  publicPath : String
  upstreamHost : String
  upstreamPath : String
  verifiedMode : Option VerifiedMode
  verifiedNote : Option String
  placeholderDefaults : Option (List (String × String)) := none
  deriving DecidableEq

/-- Operator-only overrides of a route. -/
structure PublicServiceRouteOverlay where
  id : Option String := none
  publicPath : Option String := none
  upstreamPath : Option String := none
  verifiedMode : Option VerifiedMode := none
  verifiedNote : Option String := none
  placeholderDefaults : Option (List (String × String)) := none
  upstreamPaymentMethod : Option UpstreamPaymentMethod := none

/-- A record of overlay entries by key. -/
abbrev Overlay := String → Option PublicServiceRouteOverlay

/-- A text that counts as set in a condition. -/
def truthy (text : Option String) : Option String := text.filter (· ≠ "")

/-! ## Slugs -/

def STRIPPABLE_LEADING_SEGMENTS : List String := ["api", "fal-ai", "xai"]

/-- `/^v\d+(?:[a-z]+)?$/` -/
def isVersionSegment : List Char → Bool
  | 'v' :: digit :: rest => digit.isDigit && (rest.dropWhile Char.isDigit).all Char.isLower
  | _ => false

/-- Drop the noise segments in front of a path, but never its last segment. -/
def stripLeading : List (List Char) → List (List Char)
  | segment :: next :: rest =>
    if String.ofList segment ∈ STRIPPABLE_LEADING_SEGMENTS ∨ isVersionSegment segment then stripLeading (next :: rest)
    else segment :: next :: rest
  | segments => segments

/-- The non-empty segments of a path. -/
def segmentsOf (path : List Char) : List (List Char) := (path.splitOn '/').filter fun segment => !segment.isEmpty

/-- `replace(/{([^}]+)}/g, '$1')`, with what has been read since an opening brace. -/
def unbrace : Option (List Char) → List Char → List Char
  | none, [] => []
  | some run, [] => '{' :: run
  | none, c :: rest => if c = '{' then unbrace (some []) rest else c :: unbrace none rest
  | some run, c :: rest =>
    if c = '}' then (if run = [] then ['{', '}'] else run) ++ unbrace none rest else unbrace (some (run ++ [c])) rest

/-- `[a-z_]` under the flag `i` -/
def isNameStart (c : Char) : Bool := c.isAlpha || c = '_'

/-- `[a-z0-9_]` under the flag `i` -/
def isNameRest (c : Char) : Bool := isNameStart c || c.isDigit

/-- `replace(/:([a-z_][a-z0-9_]*)/gi, '$1')` -/
def uncolon : List Char → List Char
  | [] => []
  | [c] => [c]
  | c :: next :: rest => if c = ':' ∧ isNameStart next then uncolon (next :: rest) else c :: uncolon (next :: rest)

/-- Replace each run of such characters by one underscore. -/
def collapse (inRun : Char → Bool) : Bool → List Char → List Char
  | _, [] => []
  | running, c :: rest =>
    if inRun c then (if running then [] else ['_']) ++ collapse inRun true rest else c :: collapse inRun false rest

/-- `replace(/^_|_$/g, '')` -/
def trimUnderscores (text : List Char) : List Char :=
  let front := if text.head? = some '_' then text.tail else text
  if front.getLast? = some '_' then front.dropLast else front

/-- Slug a path into an identifier: strip the noise in front, unwrap placeholders, and lower-case the rest. -/
def slugifyPath (path : String) : String :=
  let joined := ['_'].intercalate (stripLeading (segmentsOf path.toList))
  let named := uncolon (unbrace none joined)
  let cleaned := collapse (fun c => !(c.isAlphanum || c = '_' || c = '-')) false named
  let s := (trimUnderscores (collapse (· = '_') false cleaned)).map Char.toLower
  if s = [] then "root" else String.ofList s

example : slugifyPath "/v1beta/models/{model}:gen" = "models_modelgen" ∧ slugifyPath "/" = "root" ∧
    slugifyPath "/fal-ai/flux/:Size" = "flux_size" ∧ slugifyPath "/api" = "api" := by decide +kernel

/-- Compute the route id for a service and an endpoint. -/
def makeRouteId (serviceId : String) (endpoint : MppEndpoint) : String :=
  serviceId ++ "_" ++ slugifyPath endpoint.path

/-- Where in a segment of a path a character stands. -/
inductive Place where
  | start
  | inside
  | placeholder

/-- `replace(/(^|\/):([a-z_][a-z0-9_]*)/gi, '$1{$2}')` -/
def rewriteFrom : Place → List Char → List Char
  | .placeholder, [] => ['}']
  | _, [] => []
  | place, c :: rest =>
    match place with
    | .start =>
      if c = ':' ∧ rest.head?.any isNameStart then '{' :: rewriteFrom .placeholder rest
      else c :: rewriteFrom (if c = '/' then .start else .inside) rest
    | .inside => c :: rewriteFrom (if c = '/' then .start else .inside) rest
    | .placeholder =>
      if isNameRest c then c :: rewriteFrom .placeholder rest
      else '}' :: c :: rewriteFrom (if c = '/' then .start else .inside) rest

/-- Rewrite `:name` segments to the placeholders that `resolveUpstreamPath` knows. -/
def rewritePathPlaceholders (path : String) : String := String.ofList (rewriteFrom .start path.toList)

example : rewritePathPlaceholders "/:network/nft/v3/:endpoint" = "/{network}/nft/v3/{endpoint}" ∧
    rewritePathPlaceholders "/v1beta/models/foo:gen" = "/v1beta/models/foo:gen" := by decide +kernel

/-! ## Prices -/

/-- Where in a price hint a character stands. -/
inductive Hint where
  | text
  | dollar
  | amount

def isSeparator (c : Char) : Bool := c ∈ ['-', '–', '—', '~'] || isSpace c

def isAmount (c : Char) : Bool := c.isDigit || c = '.' || c = ','

/-- Nothing remains of a hint once its amounts and the separators are stripped. -/
def onlyAmounts : Hint → List Char → Bool
  | .dollar, [] => false
  | _, [] => true
  | place, c :: rest =>
    match place with
    | .dollar => if isAmount c then onlyAmounts .amount rest else isSpace c && onlyAmounts .dollar rest
    | .amount =>
      if isAmount c then onlyAmounts .amount rest
      else if c = '$' then onlyAmounts .dollar rest
      else isSeparator c && onlyAmounts .text rest
    | .text => if c = '$' then onlyAmounts .dollar rest else isSeparator c && onlyAmounts .text rest

def hintNeedsUnit (hint : String) : Bool := onlyAmounts .text hint.toList

/-- Render an integer amount of base units as an exact decimal string. -/
def baseUnitsToPriceString (amount : ℤ) (decimals : ℕ) : String :=
  let divisor : ℤ := 10 ^ decimals
  let frac := (toString (amount.tmod divisor)).toList.leftpad decimals '0'
  let padded := (frac.rdropWhile (· = '0')).rightpad 3 '0'
  toString (amount.tdiv divisor) ++ "." ++ String.ofList padded

/-- Pretty-format the amount of a payment block; a merchant that quotes at call time is `dynamic`. -/
def formatPrice (payment : Payment) : String :=
  let amount := truthy payment.amount
  match amount, truthy payment.amountHint with
  | none, some hint => hint ++ (if hintNeedsUnit hint then "/request" else "") ++ " (dynamic)"
  | none, none => "dynamic"
  | some raw, hint =>
    match payment.dynamic, hint with
    | true, some hint => hint ++ (if hintNeedsUnit hint then "/request" else "") ++ " (dynamic)"
    | _, _ =>
      match bigInt raw, payment.decimals.getD 6 with
      | none, _ => "unknown"
      | some 0, _ => "free"
      | some big, .ofNat decimals => "$" ++ baseUnitsToPriceString big decimals ++ "/request"
      -- a negative exponent is a `RangeError`
      | some _, .negSucc _ => "unknown"

example : formatPrice { amount := some "3750", decimals := some 6 } = "$0.00375/request" ∧
    formatPrice { amount := none, amountHint := some "$0.05-$4" } = "$0.05-$4/request (dynamic)" ∧
    formatPrice { amount := some "0" } = "free" := by decide +kernel

/-! ## The generated route of an endpoint -/

/-- The upper case of a character, as far as a word of the letters A to Z can be made of it. -/
def upperCase (c : Char) : List Char :=
  if c = 'ſ' then ['S'] else if c = 'ﬅ' ∨ c = 'ﬆ' then ['S', 'T'] else [c.toUpper]

/-- `method.toUpperCase()` -/
def toUpperCase (method : String) : String := String.ofList (method.toList.flatMap upperCase)

/-- `(endpoint.method || 'POST').toUpperCase()` -/
def methodOf (endpoint : MppEndpoint) : String :=
  toUpperCase (if endpoint.method = "" then "POST" else endpoint.method)

def PROXYABLE_METHODS : List String := ["POST", "GET"]

/-- POST is processed before any other method. -/
def orderEndpointsPostFirst (endpoints : List MppEndpoint) : List MppEndpoint :=
  endpoints.filter (methodOf · = "POST") ++ endpoints.filter (methodOf · ≠ "POST")

def pickUpstreamPaymentMethod (service : MppService) : UpstreamPaymentMethod :=
  if "charge" ∈ service.intents then .tempoCharge
  else if "session" ∈ service.intents then .tempoSession
  else .tempoCharge

/-- `${name}_${n}` -/
def numbered (name : String) (n : ℕ) : String := name ++ "_" ++ toString n

/-- Disambiguate an id by the method, and by a counter where that is taken too. -/
def freshId (seenIds : List String) (id method : String) : String :=
  let id := if id ∈ seenIds then id ++ "_" ++ method.toLower else id
  if id ∈ seenIds then numbered id (firstFree seenIds (numbered id) 2) else id

/-- The key a public path is taken under. -/
def pathKey (method publicPath : String) : String := method ++ " " ++ publicPath

/-- Number a public path that another endpoint of the method has. -/
def freshPublicPath (seenPublicPaths : List String) (method publicPath : String) : String :=
  if pathKey method publicPath ∈ seenPublicPaths then
    numbered publicPath (firstFree seenPublicPaths (fun n => pathKey method (numbered publicPath n)) 2)
  else publicPath

section Build

-- `new URL(serviceUrl).host`, and nothing where it throws
variable (urlHost : String → Option String)

/-- Derive the upstream host; a service may give the bare host instead of its origin. -/
def deriveHost (serviceUrl : String) : String := (urlHost serviceUrl).getD serviceUrl

/-- The route of an endpoint under its id and public path, with no overlay; only POST is payable unless proven broken. -/
def generatedRoute (service : MppService) (endpoint : MppEndpoint) (payment : Payment) (id publicPath : String) :
    PublicServiceRoute where
  id := id
  service := service.id
  operation := slugifyPath endpoint.path
  name := match truthy endpoint.description with
    | some description =>
      if (TextEncoding.units description.toList).length < 60 then service.name ++ " – " ++ description
      else service.name
    | none => service.name
  categories := service.categories
  description := (endpoint.description <|> service.description).getD (service.name ++ " " ++ endpoint.path)
  method := methodOf endpoint
  price := formatPrice payment
  upstreamPaymentMethod := pickUpstreamPaymentMethod service
  publicPath := publicPath
  upstreamHost := deriveHost urlHost service.serviceUrl
  upstreamPath := rewritePathPlaceholders endpoint.path
  verifiedMode := if methodOf endpoint = "POST" then none else some .broken
  verifiedNote :=
    if methodOf endpoint = "POST" then none
    else some (methodOf endpoint ++ " route is wired end-to-end but has not been real-money " ++
      "verified by Rozo yet. Enable per-route in OPERATOR_OVERLAY after a probe.")

/-- Merge the service-level overlay into a route. -/
def applyService (serviceOverlay : Overlay) (route : PublicServiceRoute) : PublicServiceRoute :=
  match serviceOverlay route.service with
  | none => route
  | some entry =>
    { route with
      verifiedMode := entry.verifiedMode <|> route.verifiedMode
      verifiedNote := entry.verifiedNote <|> route.verifiedNote }

/-- The entry of a route: under the key with the method, or for POST under the historical one. -/
def overlayEntry (overlay : Overlay) (service method upstreamPath : String) : Option PublicServiceRouteOverlay :=
  overlay (service ++ "::" ++ method ++ "::" ++ upstreamPath) <|>
    (if method = "POST" then overlay (service ++ "::" ++ upstreamPath) else none)

/-- Merge the operator's entry into a route; a public path counts only beside an id. -/
def applyOverlay (overlay : Overlay) (route : PublicServiceRoute) : PublicServiceRoute :=
  match overlayEntry overlay route.service route.method route.upstreamPath with
  | none => route
  | some entry =>
    let named := match truthy entry.id with
      | none => route
      | some id => { route with id := id, publicPath := (truthy entry.publicPath).getD route.publicPath }
    { named with
      upstreamPath := entry.upstreamPath.getD named.upstreamPath
      verifiedMode := entry.verifiedMode <|> named.verifiedMode
      verifiedNote := entry.verifiedNote <|> named.verifiedNote
      placeholderDefaults := entry.placeholderDefaults <|> named.placeholderDefaults
      upstreamPaymentMethod := entry.upstreamPaymentMethod.getD named.upstreamPaymentMethod }

/-- The routes so far, and the names that were generated for them. -/
structure Table where
  routes : List PublicServiceRoute := []
  seenIds : List String := []
  seenPublicPaths : List String := []

variable (overlay serviceOverlay : Overlay)

/-- One round of the loop over a service's endpoints; free ones and other methods are left out. -/
def addEndpoint (service : MppService) (table : Table) (endpoint : MppEndpoint) : Table :=
  let method := methodOf endpoint
  if method ∉ PROXYABLE_METHODS then table
  else
    match endpoint.payment with
    | none => table
    | some payment =>
      let id := freshId table.seenIds (makeRouteId service.id endpoint) method
      let publicPath := freshPublicPath table.seenPublicPaths method
        ("/v1/services/" ++ service.id ++ "/" ++ slugifyPath endpoint.path)
      let route := generatedRoute urlHost service endpoint payment id publicPath
      { routes := table.routes ++ [applyOverlay overlay (applyService serviceOverlay route)]
        seenIds := id :: table.seenIds
        seenPublicPaths := pathKey method publicPath :: table.seenPublicPaths }

/-- One round of the loop over the services; one with another status than `active` is left out. -/
def addService (table : Table) (service : MppService) : Table :=
  if (truthy service.status).any (· ≠ "active") then table
  else (orderEndpointsPostFirst service.endpoints).foldl (addEndpoint urlHost overlay serviceOverlay service) table

/-- Build the full route table from a frozen snapshot plus the operator's overlays. -/
def buildRoutesFromMppSnapshot (snapshot : MppSnapshot) : List PublicServiceRoute :=
  (snapshot.services.foldl (addService urlHost overlay serviceOverlay) {}).routes

end Build

/-- The first route of the path and the method. -/
def getRouteByPublicPath (routes : List PublicServiceRoute) (pathname method : String) : Option PublicServiceRoute :=
  routes.find? fun route => route.publicPath = pathname ∧ route.method = toUpperCase method

end MppRouter.Catalog
