import MppRouter.Catalog.BuildRoutes
import MppRouter.Core.DecimalFraction

/-! # The keys of the catalog

An id and a pair of method and public path are the keys the catalog is looked up by. The renaming loops give every
generated route keys of its own; the overlay puts the operator's names in their place without a look at the others.
-/

namespace MppRouter.Catalog

open Decimal FreshName List

/-! ## The loops find a free name -/

theorem toString_injective : Function.Injective (toString : ℕ → String) := by
  intro first second same
  have digits := congrArg (fun text => digitsValue text.toList) same
  have read (n : ℕ) : digitsValue (toString n).toList = n := by
    rw [Nat.toString_eq_repr, Nat.toList_repr, digitsValue_toDigits]
  simpa only [read] using digits

theorem numbered_injective (name : String) : Function.Injective (numbered name) := by
  intro first second same
  exact toString_injective (String.append_right_inj _ |>.mp same)

theorem pathKey_injective (method : String) : Function.Injective (pathKey method) := by
  intro first second same
  exact String.append_right_inj _ |>.mp same

theorem freshId_free (seenIds : List String) (id method : String) : freshId seenIds id method ∉ seenIds := by
  unfold freshId
  generalize (if id ∈ seenIds then id ++ "_" ++ method.toLower else id) = tried
  dsimp only
  split
  · exact firstFree_free (numbered_injective tried) 2
  · assumption

theorem freshPublicPath_free (seen : List String) (method publicPath : String) :
    pathKey method (freshPublicPath seen method publicPath) ∉ seen := by
  unfold freshPublicPath
  split
  · have distinct : Function.Injective fun n => pathKey method (numbered publicPath n) :=
      (pathKey_injective method).comp (numbered_injective publicPath)
    exact firstFree_free distinct 2
  · assumption

/-! ## Generated names -/

section Generated
variable (urlHost : String → Option String)

def noOverlay : Overlay := fun _ => none

/-- The routes the snapshot gives on its own. -/
def generatedRoutes (snapshot : MppSnapshot) : List PublicServiceRoute :=
  buildRoutesFromMppSnapshot urlHost noOverlay noOverlay snapshot

/-- Every name of a route is taken, and no two routes share one. -/
structure Table.Fresh (table : Table) : Prop where
  ids_seen : ∀ route ∈ table.routes, route.id ∈ table.seenIds
  paths_seen : ∀ route ∈ table.routes, pathKey route.method route.publicPath ∈ table.seenPublicPaths
  ids : table.routes.Pairwise fun first second => first.id ≠ second.id
  paths : table.routes.Pairwise fun first second =>
    (first.method, first.publicPath) ≠ (second.method, second.publicPath)
  proxyable : ∀ route ∈ table.routes, route.method ∈ PROXYABLE_METHODS

@[simp] theorem applyService_noOverlay (route : PublicServiceRoute) : applyService noOverlay route = route := rfl

@[simp] theorem applyOverlay_noOverlay (route : PublicServiceRoute) : applyOverlay noOverlay route = route := by
  simp [applyOverlay, overlayEntry, noOverlay]

variable {table : Table}

theorem Table.Fresh.push (fresh : table.Fresh) (route : PublicServiceRoute)
    (id : route.id ∉ table.seenIds) (path : pathKey route.method route.publicPath ∉ table.seenPublicPaths)
    (proxyable : route.method ∈ PROXYABLE_METHODS) :
    Table.Fresh {
      routes := table.routes ++ [route]
      seenIds := route.id :: table.seenIds
      seenPublicPaths := pathKey route.method route.publicPath :: table.seenPublicPaths } := by
  constructor
  · intro other member
    rcases mem_append.mp member with old | new
    · exact mem_cons_of_mem _ (fresh.ids_seen other old)
    · rw [mem_singleton.mp new]
      exact mem_cons_self
  · intro other member
    rcases mem_append.mp member with old | new
    · exact mem_cons_of_mem _ (fresh.paths_seen other old)
    · rw [mem_singleton.mp new]
      exact mem_cons_self
  · apply pairwise_append.mpr
    refine ⟨fresh.ids, pairwise_singleton _ _, ?_⟩
    intro old member new last same
    rw [mem_singleton.mp last] at same
    exact id (same ▸ fresh.ids_seen old member)
  · apply pairwise_append.mpr
    refine ⟨fresh.paths, pairwise_singleton _ _, ?_⟩
    intro old member new last same
    rw [mem_singleton.mp last, Prod.mk.injEq] at same
    exact path (same.1 ▸ same.2 ▸ fresh.paths_seen old member)
  · intro other member
    rcases mem_append.mp member with old | new
    · exact fresh.proxyable other old
    · rwa [mem_singleton.mp new]

theorem addEndpoint_fresh (service : MppService) (fresh : table.Fresh) (endpoint : MppEndpoint) :
    (addEndpoint urlHost noOverlay noOverlay service table endpoint).Fresh := by
  unfold addEndpoint
  dsimp only
  split
  · exact fresh
  · next proxyable =>
    split
    · exact fresh
    · next payment _ =>
      rw [applyService_noOverlay, applyOverlay_noOverlay]
      exact fresh.push (generatedRoute urlHost service endpoint payment _ _)
        (freshId_free table.seenIds _ _) (freshPublicPath_free table.seenPublicPaths _ _) (not_not.mp proxyable)

theorem addService_fresh (fresh : table.Fresh) (service : MppService) :
    (addService urlHost noOverlay noOverlay table service).Fresh := by
  unfold addService
  split
  · exact fresh
  · generalize orderEndpointsPostFirst service.endpoints = endpoints
    induction endpoints generalizing table with
    | nil => exact fresh
    | cons endpoint endpoints ih => exact ih (addEndpoint_fresh urlHost service fresh endpoint)

/-- The table of the routes that a snapshot gives on its own. -/
theorem generated_fresh (services : List MppService) (fresh : table.Fresh) :
    (services.foldl (addService urlHost noOverlay noOverlay) table).Fresh := by
  induction services generalizing table with
  | nil => exact fresh
  | cons service services ih => exact ih (addService_fresh urlHost fresh service)

theorem empty_fresh : Table.Fresh {} := by
  constructor <;> simp

end Generated

/-! ## The overlay is merged route by route -/

section Merged
variable (urlHost : String → Option String) (overlay serviceOverlay : Overlay)

/-- A generated route with both overlays merged into it. -/
def merged (route : PublicServiceRoute) : PublicServiceRoute := applyOverlay overlay (applyService serviceOverlay route)

/-- The table with the overlays merged into its routes; the names taken stay the generated ones. -/
def Table.merge (table : Table) : Table := { table with routes := table.routes.map (merged overlay serviceOverlay) }

theorem addEndpoint_merge (service : MppService) (table : Table) (endpoint : MppEndpoint) :
    addEndpoint urlHost overlay serviceOverlay service (table.merge overlay serviceOverlay) endpoint =
      (addEndpoint urlHost noOverlay noOverlay service table endpoint).merge overlay serviceOverlay := by
  unfold addEndpoint
  dsimp only
  split
  · rfl
  · split
    · rfl
    · simp [Table.merge, merged]

theorem addService_merge (table : Table) (service : MppService) :
    addService urlHost overlay serviceOverlay (table.merge overlay serviceOverlay) service =
      (addService urlHost noOverlay noOverlay table service).merge overlay serviceOverlay := by
  unfold addService
  split
  · rfl
  · generalize orderEndpointsPostFirst service.endpoints = endpoints
    induction endpoints generalizing table with
    | nil => rfl
    | cons endpoint endpoints ih => rw [foldl_cons, addEndpoint_merge, ih, foldl_cons]

theorem services_merge (services : List MppService) (table : Table) :
    services.foldl (addService urlHost overlay serviceOverlay) (table.merge overlay serviceOverlay) =
      (services.foldl (addService urlHost noOverlay noOverlay) table).merge overlay serviceOverlay := by
  induction services generalizing table with
  | nil => rfl
  | cons service services ih => rw [foldl_cons, addService_merge, ih, foldl_cons]

theorem build_eq_map (snapshot : MppSnapshot) : buildRoutesFromMppSnapshot urlHost overlay serviceOverlay snapshot =
      (generatedRoutes urlHost snapshot).map (merged overlay serviceOverlay) := by
  exact congrArg Table.routes (services_merge urlHost overlay serviceOverlay snapshot.services {})

/-- The id an operator's entry gives a route. -/
def givenId (route : PublicServiceRoute) : Option String :=
  (overlayEntry overlay route.service route.method route.upstreamPath).bind fun entry => truthy entry.id

/-- The public path an operator's entry gives a route. -/
def givenPublicPath (route : PublicServiceRoute) : Option String :=
  (overlayEntry overlay route.service route.method route.upstreamPath).bind fun entry =>
    (truthy entry.id).bind fun _ => truthy entry.publicPath

variable (route : PublicServiceRoute)

theorem applyService_keys : (applyService serviceOverlay route).id = route.id ∧
    (applyService serviceOverlay route).method = route.method ∧
    (applyService serviceOverlay route).publicPath = route.publicPath ∧
    (applyService serviceOverlay route).service = route.service ∧
    (applyService serviceOverlay route).upstreamPath = route.upstreamPath := by
  unfold applyService
  split <;> simp

theorem applyOverlay_keys : (applyOverlay overlay route).id = (givenId overlay route).getD route.id ∧
    (applyOverlay overlay route).method = route.method ∧
    (applyOverlay overlay route).publicPath = (givenPublicPath overlay route).getD route.publicPath := by
  unfold applyOverlay givenId givenPublicPath
  cases overlayEntry overlay route.service route.method route.upstreamPath with
  | none => simp
  | some entry => cases named : truthy entry.id <;> simp [named]

theorem merged_keys : (merged overlay serviceOverlay route).id = (givenId overlay route).getD route.id ∧
    (merged overlay serviceOverlay route).method = route.method ∧
    (merged overlay serviceOverlay route).publicPath = (givenPublicPath overlay route).getD route.publicPath := by
  obtain ⟨id, method, publicPath, service, upstreamPath⟩ := applyService_keys serviceOverlay route
  have keys := applyOverlay_keys overlay (applyService serviceOverlay route)
  rwa [givenId, givenPublicPath, id, method, publicPath, service, upstreamPath] at keys

end Merged

/-! ## The keys are unique -/

/-- Ids are distinct, pairs of method and public path are distinct, and both lookups reach every route. -/
structure KeysUnique (routes : List PublicServiceRoute) : Prop where
  ids : routes.Pairwise fun first second => first.id ≠ second.id
  paths : routes.Pairwise fun first second =>
    (first.method, first.publicPath) ≠ (second.method, second.publicPath)
  by_id : ∀ route ∈ routes, routes.find? (fun other => other.id = route.id) = some route
  by_path : ∀ route ∈ routes, getRouteByPublicPath routes route.publicPath route.method = some route

/-- The method and the public path an operator's entry gives a route. -/
def givenKey (overlay : Overlay) (route : PublicServiceRoute) : Option (String × String) :=
  (givenPublicPath overlay route).map fun path => (route.method, path)

/-- The names in the operator's entries meet neither each other nor a generated name that is kept. -/
structure OverlayClear (overlay : Overlay) (generated : List PublicServiceRoute) : Prop where
  ids_apart : generated.Pairwise fun first second =>
    ∀ x ∈ givenId overlay first, ∀ y ∈ givenId overlay second, x ≠ y
  ids_fresh : ∀ renamed ∈ generated, ∀ kept ∈ generated, givenId overlay kept = none →
    ∀ x ∈ givenId overlay renamed, x ≠ kept.id
  paths_apart : generated.Pairwise fun first second =>
    ∀ x ∈ givenKey overlay first, ∀ y ∈ givenKey overlay second, x ≠ y
  paths_fresh : ∀ renamed ∈ generated, ∀ kept ∈ generated, givenKey overlay kept = none →
    ∀ x ∈ givenKey overlay renamed, x ≠ (kept.method, kept.publicPath)

theorem toUpperCase_proxyable {method : String} (proxyable : method ∈ PROXYABLE_METHODS) :
    toUpperCase method = method := by
  rcases mem_cons.mp proxyable with rfl | get
  · decide +kernel
  · rw [mem_singleton.mp get]
    decide +kernel

/-- Distinct keys are what the lookups need. -/
theorem KeysUnique.of_distinct {routes : List PublicServiceRoute}
    (proxyable : ∀ route ∈ routes, route.method ∈ PROXYABLE_METHODS)
    (ids : routes.Pairwise fun first second => first.id ≠ second.id)
    (paths : routes.Pairwise fun first second =>
      (first.method, first.publicPath) ≠ (second.method, second.publicPath)) : KeysUnique routes := by
  refine ⟨ids, paths, fun route member => find_named ids member, ?_⟩
  intro route member
  rw [getRouteByPublicPath, toUpperCase_proxyable (proxyable route member),
    ← find_named paths member]
  congr
  funext other
  simp [and_comm]

/-- The catalog's keys are unique exactly when the operator's names meet neither each other nor a generated name that is
kept. -/
theorem keysUnique_iff (urlHost : String → Option String) (snapshot : MppSnapshot) (overlay serviceOverlay : Overlay) :
    KeysUnique (buildRoutesFromMppSnapshot urlHost overlay serviceOverlay snapshot) ↔
      OverlayClear overlay (generatedRoutes urlHost snapshot) := by
  have fresh : Table.Fresh _ := generated_fresh urlHost snapshot.services empty_fresh
  have keys := merged_keys overlay serviceOverlay
  have idsClear := renamed_distinct_iff fresh.ids (givenId overlay)
  have pathsClear := renamed_distinct_iff fresh.paths (givenKey overlay)
  have ids (route : PublicServiceRoute) :
      (givenId overlay route).getD route.id = (merged overlay serviceOverlay route).id := (keys route).1.symm
  have paths (route : PublicServiceRoute) : (givenKey overlay route).getD (route.method, route.publicPath) =
      ((merged overlay serviceOverlay route).method, (merged overlay serviceOverlay route).publicPath) := by
    rw [(keys route).2.1, (keys route).2.2, givenKey]
    cases givenPublicPath overlay route <;> rfl
  simp only [ids, paths] at idsClear pathsClear
  rw [build_eq_map]
  constructor
  · intro ⟨idsDistinct, pathsDistinct, _, _⟩
    rw [pairwise_map] at idsDistinct pathsDistinct
    obtain ⟨idsApart, idsFresh⟩ := idsClear.mp idsDistinct
    obtain ⟨pathsApart, pathsFresh⟩ := pathsClear.mp pathsDistinct
    exact ⟨idsApart, idsFresh, pathsApart, pathsFresh⟩
  · intro clear
    apply KeysUnique.of_distinct
    · intro route member
      obtain ⟨generated, listed, rfl⟩ := mem_map.mp member
      rw [(keys generated).2.1]
      exact fresh.proxyable generated listed
    · rw [pairwise_map]
      exact idsClear.mpr ⟨clear.ids_apart, clear.ids_fresh⟩
    · rw [pairwise_map]
      exact pathsClear.mpr ⟨clear.paths_apart, clear.paths_fresh⟩

/-- A refreshed snapshot lists an endpoint whose generated id and public path an operator's entry gives another one. -/
theorem operator_name_taken : ¬KeysUnique (buildRoutesFromMppSnapshot (fun _ => none)
    (fun key => if key = "openrouter::/v1/chat/completions" then
      some { id := some "openrouter_chat", publicPath := some "/v1/services/openrouter/chat" } else none)
    noOverlay
    { services := [{
        id := "openrouter", name := "OpenRouter", serviceUrl := "openrouter.mpp.tempo.xyz"
        endpoints := [
          { method := "POST", path := "/v1/chat/completions", payment := some { amount := some "1000" } },
          { method := "POST", path := "/v1/chat", payment := some { amount := some "1000" } }] }] }) := by
  intro unique
  have distinct := List.Pairwise.map (fun route : PublicServiceRoute => route.id) (fun _ _ differ => differ) unique.ids
  revert distinct
  decide +kernel

end MppRouter.Catalog
