import Mathlib.Data.List.Infix
import OpenRun.RepoCache.Invariant

/-!
# Dev mode: the library cache and the download cache of `AppDev`

An app in dev mode keeps two caches for the server session. `jsCache` maps each JavaScript
library that `SetupJsLibs` set up to its target file, so that a reload does not set it up
again; `filesDownloaded` maps each URL that `downloadFile` fetched to the paths it was written
to, so that it is not fetched again.

`SetupJsLibs` first appends htmx and its SSE extension to `JsLibs` when no library of the list
looks like them (`Libraries.withHtmx`). It then sets up each listed library that is not in the
cache (`setupLoop`), returning at the first failure for which no target file is left, and
finally drops from the cache, and removes from the disk, every library with a target file
that is no longer listed (`removeStale`). Go visits the map in a random order; the model visits
the cache in its stored order, and the cache that results is the same for every order
(`removeStale_fst`).

The libraries are of any type with equality: the code reads of a `types.JSLibrary` only
whether its type is `types.Library` and its `DirectUrl`, and `NewLibrary`, outside src/, makes
a library of type `Library` with the URL it is given. The world is any type `σ`, and
`JsLibManager.Setup`, the source file system and `http.Get` are functions of it (`DevEnv`).

A session is the calls the app makes on its `AppDev`, each on the state the one before left
(`AppDev.runCalls`), and what every call keeps a session keeps (`runCalls_preserves`).

* A successful `SetupJsLibs` leaves the cache coherent with the list: every listed library is
  cached, every cached library with a target file is listed, each library is cached once, and
  an entry of the old cache stays as it was when its library is still listed or its target is
  empty, so no cached library is set up again (`setupJsLibs_coherent`).
* So a second `SetupJsLibs` right after a successful one calls nothing outside the model and
  leaves the world and the cache as they are; it only runs the htmx checks on the list again
  (`setupJsLibs_again`).
* Those checks never find the SSE extension they append, whose URL names `htmx-ext-sse` and
  not `htmx.org`: each `SetupJsLibs` of a session appends one more copy of it to `JsLibs`
  (`setupJsLibs_appends_sse`).
* `filesDownloaded` only grows, and a URL and path it records are never fetched again, into
  whatever file system a later call names (`downloadFile_run`).

`GenerateHTML` writes the generated index (or, for an app with its own layout, removes it) and
the framework's generated file only where they differ from the embedded ones, since a write
makes the file watcher reload the app. Right after a `GenerateHTML` that succeeded, another one
writes and removes nothing (`generateHTML_again`).
-/

set_option autoImplicit false

namespace OpenRun.Dev

open GitCache (mapSet mapSet_of_lookup_eq_none)

/-- `strings.Contains(s, substr)`. -/
def contains (s substr : String) : Bool := decide (substr.toList <:+: s.toList)

/-- What the dev code reads of a `types.JSLibrary`: whether its `LibType` is `types.Library`,
and its `DirectUrl`; and `NewLibrary(url)`, which makes a library of type `Library` with
that URL. -/
structure Libraries (Lib : Type) where
  isLibrary : Lib → Bool
  directUrl : Lib → String
  newLibrary : String → Lib
  newLibrary_isLibrary : ∀ url, isLibrary (newLibrary url) = true
  newLibrary_directUrl : ∀ url, directUrl (newLibrary url) = url

/-- The htmx library `SetupJsLibs` adds, for the htmx version of the app config. -/
def htmxUrl (version : String) : String :=
  "https://unpkg.com/htmx.org@" ++ version ++ "/dist/htmx.min.js"

/-- The htmx SSE extension `SetupJsLibs` adds. -/
def sseUrl : String := "https://unpkg.com/htmx-ext-sse@2.2.2/sse.js"

/-- The calls the library setup and the downloads make outside the model, as functions of
the world `σ`: `JsLibManager.Setup` (its target file and error), `Stat` and `Remove` on the
source file system, `http.Get` with the copy of its body, and `Write` on a file system of
type `Fs`. An error is `none` for Go's `nil`. -/
structure DevEnv (Lib σ Fs : Type) where
  setup : Lib → σ → (String × Option String) × σ
  stat : String → σ → Option String
  remove : String → σ → Option String × σ
  get : String → σ → Except String String × σ
  write : Fs → String → String → σ → Option String × σ

/-- The fields of `AppDev` the library setup and the downloads read and write. -/
structure AppDev (Lib : Type) where
  /-- `Config.Htmx.Version`. -/
  htmxVersion : String
  /-- `JsLibs`. -/
  jsLibs : List Lib
  /-- `jsCache`: each library set up, with its target file. -/
  jsCache : List (Lib × String)
  /-- `filesDownloaded`: each URL with the paths it was downloaded to. -/
  filesDownloaded : List (String × List String)

variable {Lib σ Fs : Type} (L : Libraries Lib) (env : DevEnv Lib σ Fs)

/-! ## Go maps as association lists -/

section Maps

variable {κ ν : Type} [DecidableEq κ]

theorem lookup_isSome_iff_mem {m : List (κ × ν)} {k : κ} :
    (m.lookup k).isSome ↔ k ∈ m.map Prod.fst := by
  rw [List.lookup_isSome_iff, List.mem_map]
  exact ⟨fun ⟨p, hp, e⟩ => ⟨p, hp, (beq_iff_eq.mp e).symm⟩,
    fun ⟨p, hp, e⟩ => ⟨p, hp, beq_iff_eq.mpr e.symm⟩⟩

theorem lookup_filter_ne (m : List (κ × ν)) {k k' : κ} (h : k' ≠ k) :
    (m.filter fun p => p.1 ≠ k).lookup k' = m.lookup k' := by
  induction m with
  | nil => rfl
  | cons p m ih =>
    obtain ⟨a, b⟩ := p
    by_cases ha : a = k
    · subst ha
      rw [List.filter_cons_of_neg (by simp), ih, List.lookup_cons, beq_false_of_ne h]
    · rw [List.filter_cons_of_pos (by simpa using ha), List.lookup_cons, List.lookup_cons, ih]

theorem lookup_filter_self (m : List (κ × ν)) (k : κ) :
    (m.filter fun p => p.1 ≠ k).lookup k = none := by
  induction m with
  | nil => rfl
  | cons p m ih =>
    obtain ⟨a, b⟩ := p
    by_cases ha : a = k
    · subst ha
      rw [List.filter_cons_of_neg (by simp), ih]
    · rw [List.filter_cons_of_pos (by simpa using ha), List.lookup_cons, beq_false_of_ne (Ne.symm ha), ih]

theorem lookup_mapSet (m : List (κ × ν)) (k k' : κ) (v : ν) :
    (mapSet m k v).lookup k' = if k' = k then some v else m.lookup k' := by
  by_cases h : k' = k
  · simp [mapSet, h]
  · rw [if_neg h, mapSet, List.lookup_cons, beq_false_of_ne h]
    exact lookup_filter_ne m h

theorem mapSet_of_not_mem {m : List (κ × ν)} {k : κ} (v : ν) (fresh : k ∉ m.map Prod.fst) :
    mapSet m k v = (k, v) :: m :=
  mapSet_of_lookup_eq_none v (Option.not_isSome_iff_eq_none.mp (mt lookup_isSome_iff_mem.mp fresh))

end Maps

/-! ## The htmx checks of `SetupJsLibs` -/

/-- A library of type `Library` whose URL names htmx but no extension. -/
def Libraries.isHtmx (lib : Lib) : Bool :=
  L.isLibrary lib && contains (L.directUrl lib) "htmx.org" && !contains (L.directUrl lib) "ext"

/-- A library of type `Library` whose URL names the htmx SSE extension. -/
def Libraries.isHtmxSSE (lib : Lib) : Bool :=
  L.isLibrary lib && contains (L.directUrl lib) "htmx.org" &&
    contains (L.directUrl lib) "ext/sse.js"

/-- The list after the htmx checks: htmx and then its SSE extension are appended when no
library of the list is one. -/
def Libraries.withHtmx (version : String) (libs : List Lib) : List Lib :=
  let withCore := if libs.any L.isHtmx then libs else libs ++ [L.newLibrary (htmxUrl version)]
  if libs.any L.isHtmxSSE then withCore else withCore ++ [L.newLibrary sseUrl]

theorem mem_withHtmx {version : String} {libs : List Lib} {x : Lib} :
    x ∈ L.withHtmx version libs ↔ x ∈ libs ∨
      (libs.any L.isHtmx = false ∧ x = L.newLibrary (htmxUrl version)) ∨
      (libs.any L.isHtmxSSE = false ∧ x = L.newLibrary sseUrl) := by
  unfold Libraries.withHtmx
  cases hasHtmx : libs.any L.isHtmx <;> cases hasSSE : libs.any L.isHtmxSSE <;> simp [or_assoc]

theorem subset_withHtmx (version : String) {libs : List Lib} {x : Lib} (hx : x ∈ libs) :
    x ∈ L.withHtmx version libs :=
  (mem_withHtmx L).mpr (.inl hx)

/-- The checks find what they appended before, so a second pass appends nothing new. -/
theorem mem_withHtmx_withHtmx {version : String} {libs : List Lib} {x : Lib}
    (hx : x ∈ L.withHtmx version (L.withHtmx version libs)) : x ∈ L.withHtmx version libs := by
  have absent : ∀ {p : Lib → Bool}, (L.withHtmx version libs).any p = false → libs.any p = false :=
    fun none => List.any_eq_false.mpr fun a ha => List.any_eq_false.mp none a (subset_withHtmx L _ ha)
  rcases (mem_withHtmx L).mp hx with hx | ⟨noHtmx, rfl⟩ | ⟨noSSE, rfl⟩
  · exact hx
  · exact (mem_withHtmx L).mpr (.inr (.inl ⟨absent noHtmx, rfl⟩))
  · exact (mem_withHtmx L).mpr (.inr (.inr ⟨absent noSSE, rfl⟩))

theorem htmxUrl_ne_sseUrl (version : String) : htmxUrl version ≠ sseUrl := fun h => by
  have lengths := congrArg String.length h
  have prefix_length : "https://unpkg.com/htmx.org@".length = 27 := by decide
  have suffix_length : "/dist/htmx.min.js".length = 17 := by decide
  have sse_length : sseUrl.length = 43 := by decide
  simp only [htmxUrl, String.length_append, prefix_length, suffix_length, sse_length] at lengths
  omega

/-- The SSE extension `SetupJsLibs` appends does not pass its own check: its URL names
`htmx-ext-sse`, not `htmx.org`. -/
theorem isHtmxSSE_sse : L.isHtmxSSE (L.newLibrary sseUrl) = false := by
  have : contains sseUrl "htmx.org" = false := by decide
  simp [Libraries.isHtmxSSE, L.newLibrary_directUrl, this]

/-- With no htmx SSE library in the list, and a version that does not name the extension,
the checks append one more SSE extension and leave the list with no htmx SSE library. -/
theorem withHtmx_sse [DecidableEq Lib] {version : String} {libs : List Lib} (noSSE : libs.any L.isHtmxSSE = false)
    (plain : contains (htmxUrl version) "ext/sse.js" = false) :
    (L.withHtmx version libs).count (L.newLibrary sseUrl) = libs.count (L.newLibrary sseUrl) + 1 ∧
      (L.withHtmx version libs).any L.isHtmxSSE = false := by
  have distinct : L.newLibrary (htmxUrl version) ≠ L.newLibrary sseUrl := fun h =>
    htmxUrl_ne_sseUrl version (by simpa only [L.newLibrary_directUrl] using congrArg L.directUrl h)
  have htmxPlain : L.isHtmxSSE (L.newLibrary (htmxUrl version)) = false := by
    simp [Libraries.isHtmxSSE, L.newLibrary_directUrl, plain]
  unfold Libraries.withHtmx
  rw [noSSE]
  split <;> simp [List.count_append, List.count_cons, noSSE, isHtmxSSE_sse, htmxPlain, distinct]

/-! ## `downloadFile` -/

/-- `downloadFile(url, appFS, path)`: nothing when the URL was already downloaded to the path,
else the body of `http.Get(url)` is written to `path` of `appFS` and the path recorded. -/
def AppDev.downloadFile (dev : AppDev Lib) (url : String) (appFS : Fs) (path : String) (w : σ) :
    (Option String × AppDev Lib) × σ :=
  let alreadyDone := (dev.filesDownloaded.lookup url).getD []
  if path ∈ alreadyDone then ((none, dev), w)
  else
    match env.get url w with
    | (.error err, w) => ((some err, dev), w)
    | (.ok body, w) =>
      match env.write appFS path body w with
      | (some err, w) => ((some err, dev), w)
      | (none, w) =>
        ((none, { dev with filesDownloaded := mapSet dev.filesDownloaded url (alreadyDone ++ [path]) }),
          w)

section Download

variable (dev : AppDev Lib) (w : σ) variable (url : String) (appFS : Fs) (path : String)

/-- A download does nothing, fails with the state as it was, or records the path. -/
theorem downloadFile_spec :
    dev.downloadFile env url appFS path w = ((none, dev), w) ∨
      (∃ err w', dev.downloadFile env url appFS path w = ((some err, dev), w')) ∨
      ∃ w', dev.downloadFile env url appFS path w =
        ((none, { dev with
          filesDownloaded := mapSet dev.filesDownloaded url
            ((dev.filesDownloaded.lookup url).getD [] ++ [path]) }), w') := by
  by_cases done : path ∈ (dev.filesDownloaded.lookup url).getD []
  · exact .inl (if_pos done)
  · rcases get : env.get url w with ⟨err | body, w₁⟩
    · exact .inr (.inl ⟨err, w₁, by simp only [AppDev.downloadFile, if_neg done, get]⟩)
    · rcases write : env.write appFS path body w₁ with ⟨_ | err, w₂⟩
      · exact .inr (.inr ⟨w₂, by simp only [AppDev.downloadFile, if_neg done, get, write]⟩)
      · exact .inr (.inl ⟨err, w₂, by simp only [AppDev.downloadFile, if_neg done, get, write]⟩)

theorem downloadFile_of_mem (done : path ∈ (dev.filesDownloaded.lookup url).getD []) :
    dev.downloadFile env url appFS path w = ((none, dev), w) :=
  if_pos done

/-- A download changes `filesDownloaded` only. -/
theorem downloadFile_other :
    (dev.downloadFile env url appFS path w).1.2 =
      { dev with filesDownloaded := (dev.downloadFile env url appFS path w).1.2.filesDownloaded } := by
  rcases downloadFile_spec env dev w url appFS path with same | ⟨_, _, failed⟩ | ⟨_, ok⟩
  · rw [same]
  · rw [failed]
  · rw [ok]

/-- A download forgets no URL and path it recorded. -/
theorem recorded_downloadFile {url' path' : String}
    (recorded : path' ∈ (dev.filesDownloaded.lookup url').getD []) :
    path' ∈ ((dev.downloadFile env url appFS path w).1.2.filesDownloaded.lookup url').getD [] := by
  rcases downloadFile_spec env dev w url appFS path with same | ⟨_, _, failed⟩ | ⟨_, ok⟩
  · rw [same]; exact recorded
  · rw [failed]; exact recorded
  · rw [ok, lookup_mapSet]
    split
    · subst url'; exact List.mem_append_left _ recorded
    · exact recorded

end Download

/-! ## The setup loop and the removal loop -/

/-- What a run of the setup loop over `libs` from `cache` left in `r`: a map, which holds every
entry of `cache`, adds only entries of listed libraries, and covers the list when no error
came back. -/
structure LoopResult (libs : List Lib) (cache : List (Lib × String))
    (r : Option String × List (Lib × String)) : Prop where
  nodup : (r.2.map Prod.fst).Nodup
  keeps : ∀ p ∈ cache, p ∈ r.2
  adds : ∀ p ∈ r.2, p ∈ cache ∨ p.1 ∈ libs
  covers : r.1 = none → ∀ lib ∈ libs, lib ∈ r.2.map Prod.fst

theorem LoopResult.stop {libs : List Lib} {cache : List (Lib × String)} (err : String)
    (nodup : (cache.map Prod.fst).Nodup) : LoopResult libs cache (some err, cache) :=
  ⟨nodup, fun _ => id, fun _ => .inl, fun h => nomatch h⟩

theorem LoopResult.skip {lib : Lib} {rest : List Lib} {cache : List (Lib × String)}
    {r : Option String × List (Lib × String)} (cached : lib ∈ cache.map Prod.fst)
    (h : LoopResult rest cache r) : LoopResult (lib :: rest) cache r where
  nodup := h.nodup
  keeps := h.keeps
  adds p hp := (h.adds p hp).imp_right (List.mem_cons_of_mem _)
  covers ok b hb := by
    rcases List.mem_cons.mp hb with rfl | hb
    · obtain ⟨p, hp, rfl⟩ := List.mem_map.mp cached
      exact List.mem_map_of_mem _ (h.keeps p hp)
    · exact h.covers ok b hb

variable [DecidableEq Lib]

/-- The setup loop: each library not in the cache is set up; a failure is kept when its
target file exists, and returned otherwise. -/
def setupLoop : List Lib → List (Lib × String) → σ → (Option String × List (Lib × String)) × σ
  | [], cache, w => ((none, cache), w)
  | lib :: rest, cache, w =>
    if (cache.lookup lib).isSome then setupLoop rest cache w
    else
      match env.setup lib w with
      | ((targetFile, none), w) => setupLoop rest (mapSet cache lib targetFile) w
      | ((targetFile, some err), w) =>
        if targetFile = "" then ((some err, cache), w)
        else
          match env.stat targetFile w with
          | some _ => ((some err, cache), w)
          | none => setupLoop rest (mapSet cache lib targetFile) w

/-- The removal loop: every cached library with a target file that is not in `libs` is
deleted from the cache, and its file removed; an error of `Remove` is only logged. -/
def removeStale (libs : List Lib) : List (Lib × String) → σ → List (Lib × String) × σ
  | [], w => ([], w)
  | (lib, target) :: rest, w =>
    if target ≠ "" ∧ lib ∉ libs then removeStale libs rest (env.remove target w).2
    else
      match removeStale libs rest w with
      | (kept, w) => ((lib, target) :: kept, w)

theorem LoopResult.insert {lib : Lib} {rest : List Lib} {cache : List (Lib × String)}
    {r : Option String × List (Lib × String)} {target : String}
    (fresh : lib ∉ cache.map Prod.fst) (h : LoopResult rest (mapSet cache lib target) r) :
    LoopResult (lib :: rest) cache r := by
  rw [mapSet_of_not_mem _ fresh] at h
  refine ⟨h.nodup, fun p hp => h.keeps p (List.mem_cons_of_mem _ hp), fun p hp => ?_,
    fun ok b hb => ?_⟩
  · rcases h.adds p hp with hp | hp
    · rcases List.mem_cons.mp hp with rfl | hp
      · exact .inr (List.mem_cons_self _ _)
      · exact .inl hp
    · exact .inr (List.mem_cons_of_mem _ hp)
  · rcases List.mem_cons.mp hb with rfl | hb
    · exact List.mem_map_of_mem Prod.fst (h.keeps _ (List.mem_cons_self _ _))
    · exact h.covers ok b hb

theorem setupLoop_spec :
    ∀ (libs : List Lib) (cache : List (Lib × String)) (w : σ), (cache.map Prod.fst).Nodup →
      LoopResult libs cache (setupLoop env libs cache w).1
  | [], _, _, nodup => ⟨nodup, fun _ => id, fun _ => .inl, fun _ _ h => nomatch h⟩
  | lib :: rest, cache, w, nodup => by
    have fresh_nodup : ∀ target, lib ∉ cache.map Prod.fst →
        ((mapSet cache lib target).map Prod.fst).Nodup := fun target fresh => by
      rw [mapSet_of_not_mem _ fresh]
      exact List.nodup_cons.mpr ⟨fresh, nodup⟩
    simp only [setupLoop]
    split
    case isTrue cached =>
      exact (setupLoop_spec rest cache w nodup).skip (lookup_isSome_iff_mem.mp cached)
    case isFalse fresh =>
      replace fresh : lib ∉ cache.map Prod.fst := fun h => fresh (lookup_isSome_iff_mem.mpr h)
      split
      · exact (setupLoop_spec rest _ _ (fresh_nodup _ fresh)).insert fresh
      · split
        · exact .stop _ nodup
        · split
          · exact .stop _ nodup
          · exact (setupLoop_spec rest _ _ (fresh_nodup _ fresh)).insert fresh

/-- A loop over libraries that are all cached sets up nothing. -/
theorem setupLoop_cached :
    ∀ {libs : List Lib} {cache : List (Lib × String)} (w : σ),
      (∀ lib ∈ libs, lib ∈ cache.map Prod.fst) → setupLoop env libs cache w = ((none, cache), w)
  | [], _, _, _ => rfl
  | lib :: rest, cache, w, cached => by
    have hit : (cache.lookup lib).isSome := lookup_isSome_iff_mem.mpr (cached lib (.head _))
    simp only [setupLoop, hit, if_true]
    exact setupLoop_cached w fun b hb => cached b (List.mem_cons_of_mem _ hb)

/-- The removal loop keeps the entries with no target file or with a listed library,
whatever order it visits them in. -/
theorem removeStale_fst (libs : List Lib) :
    ∀ (cache : List (Lib × String)) (w : σ),
      (removeStale env libs cache w).1 = cache.filter fun p => p.2 = "" ∨ p.1 ∈ libs
  | [], _ => rfl
  | (lib, target) :: rest, w => by
    simp only [removeStale]
    split
    case isTrue stale =>
      rw [removeStale_fst libs rest, List.filter_cons_of_neg (by simpa [not_or] using stale)]
    case isFalse kept =>
      rw [List.filter_cons_of_pos (by by_cases h : target = "" <;> simp_all)]
      exact congrArg _ (removeStale_fst libs rest w)

/-- A removal loop with nothing stale removes nothing. -/
theorem removeStale_keep {libs : List Lib} :
    ∀ {cache : List (Lib × String)} (w : σ), (∀ p ∈ cache, p.2 = "" ∨ p.1 ∈ libs) →
      removeStale env libs cache w = (cache, w)
  | [], _, _ => rfl
  | (lib, target) :: rest, w, keep => by
    have fresh : ¬(target ≠ "" ∧ lib ∉ libs) := by
      rcases keep _ (.head _) with h | h
      exacts [fun c => c.1 h, fun c => c.2 h]
    simp only [removeStale, fresh, if_false]
    rw [removeStale_keep w fun p hp => keep p (List.mem_cons_of_mem _ hp)]

/-! ## `SetupJsLibs` -/

/-- `SetupJsLibs`: the error, and the dev state with its new list and cache. -/
def AppDev.setupJsLibs (dev : AppDev Lib) (w : σ) : (Option String × AppDev Lib) × σ :=
  let libs := L.withHtmx dev.htmxVersion dev.jsLibs
  match setupLoop env libs dev.jsCache w with
  | ((some err, cache), w) => ((some err, { dev with jsLibs := libs, jsCache := cache }), w)
  | ((none, cache), w) =>
    match removeStale env libs cache w with
    | (cache, w) => ((none, { dev with jsLibs := libs, jsCache := cache }), w)

section Setup

variable (dev : AppDev Lib) (w : σ)

@[simp] theorem setupJsLibs_jsLibs :
    (dev.setupJsLibs L env w).1.2.jsLibs = L.withHtmx dev.htmxVersion dev.jsLibs := by
  simp only [AppDev.setupJsLibs]; split <;> rfl

@[simp] theorem setupJsLibs_htmxVersion : (dev.setupJsLibs L env w).1.2.htmxVersion = dev.htmxVersion := by
  simp only [AppDev.setupJsLibs]; split <;> rfl

@[simp] theorem setupJsLibs_filesDownloaded :
    (dev.setupJsLibs L env w).1.2.filesDownloaded = dev.filesDownloaded := by
  simp only [AppDev.setupJsLibs]; split <;> rfl

/-- `SetupJsLibs` returns the error of its setup loop over the list after the htmx checks, with
the cache that loop left, of which the removal loop keeps the entries with no target or with a
listed library when there was no error. -/
theorem setupJsLibs_cases :
    ∃ r cache w₁, setupLoop env (L.withHtmx dev.htmxVersion dev.jsLibs) dev.jsCache w =
        ((r, cache), w₁) ∧
      (dev.setupJsLibs L env w).1 = (r, { dev with
        jsLibs := L.withHtmx dev.htmxVersion dev.jsLibs
        jsCache := if r.isSome then cache
          else cache.filter fun p => p.2 = "" ∨ p.1 ∈ L.withHtmx dev.htmxVersion dev.jsLibs }) := by
  simp only [AppDev.setupJsLibs]
  rcases loop : setupLoop env (L.withHtmx dev.htmxVersion dev.jsLibs) dev.jsCache w with
    ⟨⟨_ | err, cache⟩, w₁⟩
  · exact ⟨none, cache, w₁, rfl, by simp [removeStale_fst]⟩
  · exact ⟨some err, cache, w₁, rfl, rfl⟩

end Setup

/-- A successful `SetupJsLibs` ran the setup loop to its end, and its cache is what the removal
loop kept of the cache that loop left. -/
theorem setupJsLibs_eq_ok {dev dev' : AppDev Lib} {w w' : σ}
    (first : dev.setupJsLibs L env w = ((none, dev'), w')) :
    ∃ cache w₁, setupLoop env (L.withHtmx dev.htmxVersion dev.jsLibs) dev.jsCache w =
        ((none, cache), w₁) ∧
      dev' = { dev with
        jsLibs := L.withHtmx dev.htmxVersion dev.jsLibs
        jsCache := cache.filter fun p => p.2 = "" ∨ p.1 ∈ L.withHtmx dev.htmxVersion dev.jsLibs } := by
  obtain ⟨r, cache, w₁, loop, eq⟩ := setupJsLibs_cases L env dev w
  rw [first, Prod.mk.injEq] at eq
  obtain ⟨rfl, rfl⟩ := eq
  exact ⟨cache, w₁, loop, rfl⟩

/-- The library cache agrees with the list: it is a map, it covers the list, and it holds a
library with a target file only when that library is listed. -/
structure Coherent (dev : AppDev Lib) : Prop where
  nodup : (dev.jsCache.map Prod.fst).Nodup
  cached : ∀ lib ∈ dev.jsLibs, lib ∈ dev.jsCache.map Prod.fst
  listed : ∀ p ∈ dev.jsCache, p.2 ≠ "" → p.1 ∈ dev.jsLibs

section Success

variable {dev dev' : AppDev Lib} {w w' : σ} (nodup : (dev.jsCache.map Prod.fst).Nodup)
  (first : dev.setupJsLibs L env w = ((none, dev'), w'))
include nodup first

theorem Coherent.of_setupJsLibs : Coherent dev' := by
  obtain ⟨cache, w₁, loop, rfl⟩ := setupJsLibs_eq_ok L env first
  have result := setupLoop_spec env (L.withHtmx dev.htmxVersion dev.jsLibs) dev.jsCache w nodup
  rw [loop] at result
  refine ⟨result.nodup.sublist ((List.filter_sublist _).map _), fun lib listed => ?_,
    fun p hp target => ?_⟩
  · obtain ⟨p, hp, rfl⟩ := List.mem_map.mp (result.covers rfl lib listed)
    exact List.mem_map_of_mem _ (List.mem_filter.mpr ⟨hp, decide_eq_true (.inr listed)⟩)
  · exact ((of_decide_eq_true (List.mem_filter.mp hp).2).resolve_left target)

/-- A successful `SetupJsLibs` leaves the cache a map that covers the list, holds a library
with a target file only when it is listed, and keeps each old entry still listed or with no
target as it was. -/
theorem setupJsLibs_coherent :
    Coherent dev' ∧ ∀ p ∈ dev.jsCache, (p.2 = "" ∨ p.1 ∈ dev'.jsLibs) → p ∈ dev'.jsCache := by
  refine ⟨.of_setupJsLibs L env nodup first, fun p hp kept => ?_⟩
  obtain ⟨cache, w₁, loop, rfl⟩ := setupJsLibs_eq_ok L env first
  have result := setupLoop_spec env (L.withHtmx dev.htmxVersion dev.jsLibs) dev.jsCache w nodup
  rw [loop] at result
  exact List.mem_filter.mpr ⟨result.keeps p hp, decide_eq_true kept⟩

end Success

/-- Libraries named by their URL. -/
def urlLibraries : Libraries String := ⟨fun _ => true, id, id, fun _ => rfl, fun _ => rfl⟩

/-- A world that counts the calls made outside the model; every library is set up into one
target file. -/
def countingEnv : DevEnv String Nat Unit where
  setup _ n := (("static/gen/lib/lib.js", none), n + 1)
  stat _ _ := none
  remove _ n := (none, n + 1)
  get _ n := (.ok "", n + 1)
  write _ _ _ n := (none, n + 1)

/-- The first `SetupJsLibs` of a new session, with htmx 2.0.3. -/
def firstSetup : (Option String × AppDev String) × Nat :=
  (⟨"2.0.3", [], [], []⟩ : AppDev String).setupJsLibs urlLibraries countingEnv 0

/-- A reload of an app whose list holds one library, whose cache holds that library, a library
no longer listed, and a library without a target file. -/
def staleDev : AppDev String :=
  ⟨"2.0.3", ["https://cdn/a.js"],
    [("https://cdn/a.js", "static/gen/lib/a.js"), ("https://cdn/old.js", "static/gen/lib/old.js"),
      ("https://cdn/b.css", "")], []⟩

/-- The `SetupJsLibs` of that reload: htmx and its SSE extension are set up, and `old.js` is
removed. -/
def staleSetup : (Option String × AppDev String) × Nat :=
  staleDev.setupJsLibs urlLibraries countingEnv 0

theorem setupJsLibs_coherent_stale :
    (staleDev.jsCache.map Prod.fst).Nodup ∧
      staleDev.setupJsLibs urlLibraries countingEnv 0 = ((none, staleSetup.1.2), staleSetup.2) ∧
      Coherent staleSetup.1.2 ∧
      ∀ p ∈ staleDev.jsCache, (p.2 = "" ∨ p.1 ∈ staleSetup.1.2.jsLibs) → p ∈ staleSetup.1.2.jsCache :=
  have nodup : (staleDev.jsCache.map Prod.fst).Nodup := by decide
  have first : staleDev.setupJsLibs urlLibraries countingEnv 0 =
      ((none, staleSetup.1.2), staleSetup.2) := rfl
  ⟨nodup, first, setupJsLibs_coherent urlLibraries countingEnv nodup first⟩

/-- On a coherent state whose list already holds what the htmx checks would append,
`SetupJsLibs` calls nothing outside the model and changes the list only. -/
theorem Coherent.setupJsLibs_eq {dev : AppDev Lib} (coherent : Coherent dev)
    (closed : ∀ lib ∈ L.withHtmx dev.htmxVersion dev.jsLibs, lib ∈ dev.jsLibs) (w : σ) :
    dev.setupJsLibs L env w =
      ((none, { dev with jsLibs := L.withHtmx dev.htmxVersion dev.jsLibs }), w) := by
  have loop := setupLoop_cached env w fun lib listed => coherent.cached lib (closed lib listed)
  have stale : removeStale env (L.withHtmx dev.htmxVersion dev.jsLibs) dev.jsCache w =
      (dev.jsCache, w) := removeStale_keep env w fun p hp =>
    (em (p.2 = "")).imp_right fun target => subset_withHtmx L _ (coherent.listed p hp target)
  simp only [AppDev.setupJsLibs, loop, stale]

/-- A second `SetupJsLibs` right after a successful one calls nothing outside the model, and
leaves the world and the cache as they are. -/
theorem setupJsLibs_again {dev dev' : AppDev Lib} {w w' : σ}
    (nodup : (dev.jsCache.map Prod.fst).Nodup)
    (first : dev.setupJsLibs L env w = ((none, dev'), w')) :
    dev'.setupJsLibs L env w' =
      ((none, { dev' with jsLibs := L.withHtmx dev'.htmxVersion dev'.jsLibs }), w') := by
  refine (Coherent.of_setupJsLibs L env nodup first).setupJsLibs_eq L env (fun lib listed => ?_) w'
  obtain ⟨cache, w₁, -, rfl⟩ := setupJsLibs_eq_ok L env first
  exact mem_withHtmx_withHtmx L listed

theorem setupJsLibs_again_first :
    (⟨"2.0.3", [], [], []⟩ : AppDev String).setupJsLibs urlLibraries countingEnv 0 =
        ((none, firstSetup.1.2), firstSetup.2) ∧
      firstSetup.1.2.setupJsLibs urlLibraries countingEnv firstSetup.2 =
        ((none, { firstSetup.1.2 with
          jsLibs := urlLibraries.withHtmx firstSetup.1.2.htmxVersion firstSetup.1.2.jsLibs }),
          firstSetup.2) :=
  have first : (⟨"2.0.3", [], [], []⟩ : AppDev String).setupJsLibs urlLibraries countingEnv 0 =
      ((none, firstSetup.1.2), firstSetup.2) := rfl
  ⟨first, setupJsLibs_again urlLibraries countingEnv (by exact List.nodup_nil) first⟩

/-! ## A dev session -/

/-- `NewAppDev`: no library and empty caches, with the htmx version of the `Config` the app
sets before its first reload. -/
def AppDev.new (htmxVersion : String) : AppDev Lib := ⟨htmxVersion, [], [], []⟩

/-- A call the app makes on its `AppDev`. -/
inductive DevCall (Fs : Type)
  | setupJsLibs
  | downloadFile (url : String) (appFS : Fs) (path : String)

/-- A call on `dev`; its error goes back to the caller. -/
def DevCall.run (dev : AppDev Lib) (w : σ) : DevCall Fs → (Option String × AppDev Lib) × σ
  | .setupJsLibs => dev.setupJsLibs L env w
  | .downloadFile url appFS path => dev.downloadFile env url appFS path w

/-- A session: each call runs on the state and the world the call before left. -/
def AppDev.runCalls : AppDev Lib → List (DevCall Fs) → σ → AppDev Lib × σ
  | dev, [], w => (dev, w)
  | dev, call :: calls, w => AppDev.runCalls (call.run L env dev w).1.2 calls (call.run L env dev w).2

/-- What every call keeps, a session keeps. -/
theorem runCalls_preserves {P : AppDev Lib → Prop}
    (step : ∀ (call : DevCall Fs) dev w, P dev → P (call.run L env dev w).1.2) :
    ∀ (calls : List (DevCall Fs)) (dev : AppDev Lib) (w : σ), P dev → P (dev.runCalls L env calls w).1
  | [], _, _, h => h
  | call :: calls, dev, w, h => runCalls_preserves step calls _ _ (step call dev w h)

/-- With no htmx SSE library in the list and a version that does not name the extension, each
`SetupJsLibs` of a session appends one more copy of the SSE extension to `JsLibs`. -/
theorem setupJsLibs_appends_sse :
    ∀ (calls : List (DevCall Fs)) (dev : AppDev Lib) (w : σ),
      dev.jsLibs.any L.isHtmxSSE = false →
      contains (htmxUrl dev.htmxVersion) "ext/sse.js" = false →
      (dev.runCalls L env calls w).1.jsLibs.count (L.newLibrary sseUrl) =
        dev.jsLibs.count (L.newLibrary sseUrl) + calls.countP (fun call => call matches .setupJsLibs)
  | [], _, _, _, _ => rfl
  | .setupJsLibs :: calls, dev, w, noSSE, plain => by
    obtain ⟨grows, noSSE'⟩ := withHtmx_sse L noSSE plain
    have rest := setupJsLibs_appends_sse calls (dev.setupJsLibs L env w).1.2 (dev.setupJsLibs L env w).2
      (by rw [setupJsLibs_jsLibs]; exact noSSE') (by rw [setupJsLibs_htmxVersion]; exact plain)
    rw [AppDev.runCalls, DevCall.run, rest, setupJsLibs_jsLibs, grows, List.countP_cons]
    simp only [if_true]
    omega
  | .downloadFile url appFS path :: calls, dev, w, noSSE, plain => by
    have same := downloadFile_other env dev w url appFS path
    have rest := setupJsLibs_appends_sse calls (dev.downloadFile env url appFS path w).1.2
      (dev.downloadFile env url appFS path w).2
      (by rw [same]; exact noSSE) (by rw [same]; exact plain)
    rw [AppDev.runCalls, DevCall.run, rest, same, List.countP_cons]
    rfl

theorem setupJsLibs_appends_sse_twice :
    (AppDev.new "2.0.3" : AppDev String).jsLibs.any urlLibraries.isHtmxSSE = false ∧
      contains (htmxUrl "2.0.3") "ext/sse.js" = false ∧
      ((AppDev.new "2.0.3").runCalls urlLibraries countingEnv
          [(.setupJsLibs : DevCall Unit), .setupJsLibs] 0).1.jsLibs.count sseUrl = 0 + 2 :=
  ⟨rfl, by decide,
    setupJsLibs_appends_sse urlLibraries countingEnv _ (AppDev.new "2.0.3") 0 rfl (by decide)⟩

/-- A URL and path that `filesDownloaded` records stay recorded through any session, and a
later download of them, into whatever file system, does nothing. -/
theorem downloadFile_run (calls : List (DevCall Fs)) (dev : AppDev Lib) (w : σ)
    {url path : String} (recorded : path ∈ (dev.filesDownloaded.lookup url).getD []) :
    path ∈ ((dev.runCalls L env calls w).1.filesDownloaded.lookup url).getD [] ∧
      ∀ (appFS : Fs) (w' : σ), (dev.runCalls L env calls w).1.downloadFile env url appFS path w' =
        ((none, (dev.runCalls L env calls w).1), w') := by
  have kept : path ∈ ((dev.runCalls L env calls w).1.filesDownloaded.lookup url).getD [] := by
    refine runCalls_preserves L env (P := fun dev => path ∈ (dev.filesDownloaded.lookup url).getD [])
      (fun call dev w recorded => ?_) calls dev w recorded
    cases call with
    | setupJsLibs => rw [DevCall.run, setupJsLibs_filesDownloaded]; exact recorded
    | downloadFile url' appFS path' => exact recorded_downloadFile env dev w url' appFS path' recorded
  exact ⟨kept, fun appFS w' => downloadFile_of_mem env _ w' url appFS path kept⟩

/-- Another download of Alpine.js, to another path, and a library setup. -/
def alpineCalls : List (DevCall Unit) :=
  [.downloadFile "https://unpkg.com/alpinejs@3/dist/cdn.min.js" () "static/lib/alpine.js",
    .setupJsLibs]

/-- A session whose app already downloaded Alpine.js. -/
def alpineSession : AppDev String :=
  { AppDev.new "2.0.3" with
    filesDownloaded := [("https://unpkg.com/alpinejs@3/dist/cdn.min.js", ["static/alpine.js"])] }

theorem downloadFile_run_alpine :
    "static/alpine.js" ∈
        (alpineSession.filesDownloaded.lookup "https://unpkg.com/alpinejs@3/dist/cdn.min.js").getD [] ∧
      "static/alpine.js" ∈ ((alpineSession.runCalls urlLibraries countingEnv alpineCalls 0).1.filesDownloaded.lookup
          "https://unpkg.com/alpinejs@3/dist/cdn.min.js").getD [] ∧
      ∀ (appFS : Unit) (w' : Nat),
        (alpineSession.runCalls urlLibraries countingEnv alpineCalls 0).1.downloadFile countingEnv
            "https://unpkg.com/alpinejs@3/dist/cdn.min.js" appFS "static/alpine.js" w' =
          ((none, (alpineSession.runCalls urlLibraries countingEnv alpineCalls 0).1), w') :=
  ⟨by decide, downloadFile_run urlLibraries countingEnv alpineCalls alpineSession 0 (by decide)⟩

/-! ## The generated layout files -/

/-- The source files of a dev app as `GenerateHTML` reads and writes them: the contents of each
file, and the error writing or removing a path fails with, if any. -/
structure SourceFiles where
  files : List (String × String)
  fails : String → Option String

/-- `sourceFS.Write`. -/
def SourceFiles.write (fs : SourceFiles) (path content : String) : Option String × SourceFiles :=
  match fs.fails path with
  | some err => (some err, fs)
  | none => (none, { fs with files := mapSet fs.files path content })

/-- `sourceFS.Remove`. -/
def SourceFiles.remove (fs : SourceFiles) (path : String) : Option String × SourceFiles :=
  match fs.fails path with
  | some err => (some err, fs)
  | none => (none, { fs with files := fs.files.filter fun p => p.1 ≠ path })

/-- The call `GenerateHTML` makes on the generated index, if any: without a custom layout, a
write of the embedded index when the file cannot be read or differs from it; with one, the
removal of the file when `Stat` finds it. -/
def indexStep (customLayout : Bool) (indexGenFile indexEmbed : String) (fs : SourceFiles) :
    Option (Option String × SourceFiles) :=
  if !customLayout then
    if fs.files.lookup indexGenFile = some indexEmbed then none
    else some (fs.write indexGenFile indexEmbed)
  else if (fs.files.lookup indexGenFile).isSome then some (fs.remove indexGenFile)
  else none

/-- The rest of `GenerateHTML` once the index is done and `calls` writes and removals were
made: the write of the framework's generated file when it cannot be read or differs from the
embedded one. -/
def finishGen (genFile genEmbed : String) (fs : SourceFiles) (calls : Nat) :
    Option String × SourceFiles × Nat :=
  if fs.files.lookup genFile = some genEmbed then (none, fs, calls)
  else ((fs.write genFile genEmbed).1, (fs.write genFile genEmbed).2, calls + 1)

/-- `AppDev.GenerateHTML` on the files, with the number of writes and removals it made. -/
def generateHTML (customLayout : Bool) (indexGenFile indexEmbed genFile genEmbed : String)
    (fs : SourceFiles) : Option String × SourceFiles × Nat :=
  match indexStep customLayout indexGenFile indexEmbed fs with
  | some (some err, fs') => (some err, fs', 1)
  | some (none, fs') => finishGen genFile genEmbed fs' 1
  | none => finishGen genFile genEmbed fs 0

theorem SourceFiles.write_ok {fs fs' : SourceFiles} {path content : String}
    (wrote : fs.write path content = (none, fs')) : fs'.files = mapSet fs.files path content := by
  unfold SourceFiles.write at wrote
  split at wrote <;> cases wrote
  rfl

theorem SourceFiles.remove_ok {fs fs' : SourceFiles} {path : String}
    (removed : fs.remove path = (none, fs')) : fs'.files = fs.files.filter fun p => p.1 ≠ path := by
  unfold SourceFiles.remove at removed
  split at removed <;> cases removed
  rfl

/-- The index as `GenerateHTML` leaves it: the embedded one, or none with a custom layout. -/
def indexDone (customLayout : Bool) (indexGenFile indexEmbed : String) (fs : SourceFiles) : Prop :=
  fs.files.lookup indexGenFile = if customLayout then none else some indexEmbed

theorem indexStep_eq_none_iff {customLayout : Bool} {indexGenFile indexEmbed : String}
    {fs : SourceFiles} :
    indexStep customLayout indexGenFile indexEmbed fs = none ↔
      indexDone customLayout indexGenFile indexEmbed fs := by
  unfold indexStep indexDone
  cases customLayout
  · simp
  · cases h : fs.files.lookup indexGenFile <;> simp

theorem indexStep_ok {customLayout : Bool} {indexGenFile indexEmbed : String} {fs fs' : SourceFiles}
    (step : indexStep customLayout indexGenFile indexEmbed fs = some (none, fs')) :
    indexDone customLayout indexGenFile indexEmbed fs' := by
  unfold indexStep at step
  cases customLayout
  · simp only [Bool.not_false, if_true] at step
    split at step
    · cases step
    · rw [indexDone, SourceFiles.write_ok (Option.some.inj step), lookup_mapSet, if_pos rfl]; rfl
  · simp only [Bool.not_true, Bool.false_eq_true, if_false] at step
    split at step
    · rw [indexDone, SourceFiles.remove_ok (Option.some.inj step), lookup_filter_self]; rfl
    · cases step

/-- A successful end of `GenerateHTML` leaves the embedded generated file and every other file
as it was. -/
theorem finishGen_ok {genFile genEmbed : String} {fs fs' : SourceFiles} {calls calls' : Nat}
    (ran : finishGen genFile genEmbed fs calls = (none, fs', calls')) :
    fs'.files.lookup genFile = some genEmbed ∧ ∀ k ≠ genFile, fs'.files.lookup k = fs.files.lookup k := by
  unfold finishGen at ran
  split at ran
  · cases ran
    exact ⟨by assumption, fun _ _ => rfl⟩
  · simp only [Prod.mk.injEq] at ran
    have wrote : fs.write genFile genEmbed = (none, fs') := Prod.ext ran.1 ran.2.1
    rw [SourceFiles.write_ok wrote]
    exact ⟨by rw [lookup_mapSet, if_pos rfl], fun k other => by rw [lookup_mapSet, if_neg other]⟩

/-- **Generating the layout twice.** For every state of the source files, right after a
`GenerateHTML` that succeeded, another `GenerateHTML` writes and removes nothing, so it gives the
file watcher no change to reload on. -/
theorem generateHTML_again (customLayout : Bool) {indexGenFile indexEmbed genFile genEmbed : String}
    (other : indexGenFile ≠ genFile) {fs fs' : SourceFiles} {calls : Nat}
    (first : generateHTML customLayout indexGenFile indexEmbed genFile genEmbed fs = (none, fs', calls)) :
    generateHTML customLayout indexGenFile indexEmbed genFile genEmbed fs' = (none, fs', 0) := by
  obtain ⟨fs₁, n, indexed, finished⟩ : ∃ fs₁ n, indexDone customLayout indexGenFile indexEmbed fs₁ ∧
      finishGen genFile genEmbed fs₁ n = (none, fs', calls) := by
    unfold generateHTML at first
    split at first
    · cases first
    · exact ⟨_, _, indexStep_ok (by assumption), first⟩
    · exact ⟨_, _, indexStep_eq_none_iff.mp (by assumption), first⟩
  obtain ⟨generated, kept⟩ := finishGen_ok finished
  have indexed' : indexDone customLayout indexGenFile indexEmbed fs' := by
    rw [indexDone, kept _ other]; exact indexed
  simp only [generateHTML, indexStep_eq_none_iff.mpr indexed', finishGen, generated, if_true]

/-- The source files of a new app: its code, an old generated index, and no generated file. -/
def newAppFiles : SourceFiles :=
  ⟨[("app.star", "app = ace.app()"), ("index_gen.go.html", "<html>old</html>")], fun _ => none⟩

/-- The first `GenerateHTML` of that app, without a custom layout. -/
def newAppGen : Option String × SourceFiles × Nat :=
  generateHTML false "index_gen.go.html" "<html></html>" "openrun_gen.go.html" "<div></div>"
    newAppFiles

theorem generateHTML_again_newApp :
    "index_gen.go.html" ≠ "openrun_gen.go.html" ∧
      generateHTML false "index_gen.go.html" "<html></html>" "openrun_gen.go.html" "<div></div>"
          newAppFiles = (none, newAppGen.2.1, 2) ∧
      generateHTML false "index_gen.go.html" "<html></html>" "openrun_gen.go.html" "<div></div>"
          newAppGen.2.1 = (none, newAppGen.2.1, 0) :=
  have other : "index_gen.go.html" ≠ "openrun_gen.go.html" := by decide
  have first : generateHTML false "index_gen.go.html" "<html></html>" "openrun_gen.go.html"
      "<div></div>" newAppFiles = (none, newAppGen.2.1, 2) := rfl
  ⟨other, first, generateHTML_again false other first⟩

end OpenRun.Dev
