import BrickLint.Proofs.SessionHistory

/-!
# Fresh catalogs

A cache is asked for its catalog, pointed at other sources, and sees its files change, in any order.
Here it is shown what it gives out in the course of that: always the catalog of the present sources
and the present files, the object of the previous call as long as no modification time has changed
since that object was read, and a new object whenever it is pointed at sources.
-/

namespace BrickLint

/-- What happens to a cache and to the files around it. -/
inductive CacheStep where
  /-- The cache is asked for its catalog. -/
  | get
  /-- The cache is pointed at new sources, where given, and asked for their catalog. -/
  | reload (source constantsSource : Option String)
  /-- The files change. -/
  | changeFiles (change : FileChange)

/-- The sources of a catalog, as they were named. -/
structure CatalogSources where
  /-- The file of signatures, if one is named. -/
  source : Option String := none
  /-- The file of further constants, if one is named. -/
  constantsSource : Option String := none

namespace CatalogSources

/-- The sources after a step. Those that a reload does not name stay. -/
def next (sources : CatalogSources) : CacheStep → CatalogSources
  | .reload source constantsSource =>
    ⟨source.or sources.source, constantsSource.or sources.constantsSource⟩
  | _ => sources

/-- The sources after some steps. -/
def after (sources : CatalogSources) (steps : List CacheStep) : CatalogSources :=
  steps.foldl next sources

/-- The paths of the sources: the installed file of signatures is read when no other one is
named. -/
def paths (sources : CatalogSources) : List String :=
  sources.source.getD Catalog.defaultPath :: sources.constantsSource.toList

/-- The catalog that given files hold, unless a source is no path. -/
def load? (sources : CatalogSources) (files : FileStore) : Option Catalog :=
  Catalog.load? files sources.source sources.constantsSource

end CatalogSources

/-- A catalog that was given out, and the files at that moment. -/
structure Delivery where
  /-- The catalog. -/
  loaded : LoadedCatalog
  /-- The files. -/
  files : FileStore

/-- A cache and the files around it, with what has happened to them so far. -/
structure CacheRun where
  /-- The cache. -/
  cache : CatalogCache
  /-- The present files. -/
  files : FileStore
  /-- The catalogs that were given out, the oldest first. -/
  given : List Delivery := []
  /-- The files at earlier moments. -/
  past : List FileStore := []

namespace CacheRun

/-- A new cache. -/
def start (sources : CatalogSources) (files : FileStore) : CacheRun where
  cache := { source := sources.source, constantsSource := sources.constantsSource }
  files := files

/-- Notes what a cache gave out, if anything. A cache whose sources are no paths gives nothing out
and stays as it is. -/
def note (run : CacheRun) (cache : CatalogCache) (answer? : Option (LoadedCatalog × CatalogCache)) :
    CacheRun :=
  match answer? with
  | some (loaded, cache) => { run with cache := cache, given := run.given ++ [⟨loaded, run.files⟩] }
  | none => { run with cache := cache }

/-- Performs a step. -/
def perform (run : CacheRun) : CacheStep → CacheRun
  | .get => run.note run.cache (run.cache.get? run.files)
  | .reload source constantsSource =>
    run.note (run.cache.redirect source constantsSource)
      (run.cache.reload? run.files source constantsSource)
  | .changeFiles change =>
    { run with files := run.files.change change, past := run.past ++ [run.files] }

/-- Performs steps one after the other. -/
def performAll (run : CacheRun) (steps : List CacheStep) : CacheRun :=
  steps.foldl perform run

/-- The files at all moments. -/
def moments (run : CacheRun) : List FileStore :=
  run.past ++ [run.files]

/-- At the given paths, equal modification times have always meant equal contents. -/
def IsFaithful (run : CacheRun) (paths : List String) : Prop :=
  ∀ path ∈ paths, ∀ files ∈ run.moments, ∀ files' ∈ run.moments, files.AgreesAt files' path

/-- The first time that an object was given out, which is when it was read. -/
def firstDelivery? (run : CacheRun) (serial : Nat) : Option Delivery :=
  run.given.find? fun delivery => delivery.loaded.serial == serial

end CacheRun

namespace CatalogCache

variable {cache : CatalogCache} {files files' : FileStore}

/-- The sources of a cache. -/
def sources (cache : CatalogCache) : CatalogSources :=
  ⟨cache.source, cache.constantsSource⟩

/-- The stamp of a cache consists of the modification times of its sources. -/
theorem stamp_eq_iff : cache.stamp files = cache.stamp files' ↔
    ∀ path ∈ cache.paths, files.modified? path.toList = files'.modified? path.toList := by
  obtain ⟨source, constantsSource, _, _⟩ := cache
  cases source <;> cases constantsSource <;> simp [stamp, paths]

/-- A cache gives a catalog out when its sources can be read. -/
theorem get?_eq_some_iff {answer : LoadedCatalog × CatalogCache} :
    cache.get? files = some answer ↔ cache.isReadable = true ∧ cache.get files = answer := by
  unfold get?
  split <;> simp_all

/-- A cache that keeps nothing reads its sources. -/
theorem get_of_current_eq_none (h : cache.current = none) :
    cache.get files = cache.reread files := by
  rw [get, h]

end CatalogCache

namespace CacheRun

/-- The kept catalog and the catalogs that were given out fit together. -/
structure Traced (run : CacheRun) : Prop where
  /-- The kept catalog comes from the files of some moment. -/
  sound : run.cache.Sound run.moments
  /-- What was given out is older than the next catalog to be read. -/
  serial_lt : ∀ delivery ∈ run.given, delivery.loaded.serial < run.cache.loads
  /-- The kept catalog carries the modification times of the moment when it was first given out. -/
  first : ∀ loaded, run.cache.current = some loaded →
    ∃ first, run.firstDelivery? loaded.serial = some first ∧
      loaded.stamp = run.cache.stamp first.files

/-- What holds of a cache and its files at all times. -/
structure Consistent (run : CacheRun) : Prop extends Traced run where
  /-- While the sources can be read, the catalog that was given out last is kept. -/
  current : run.cache.isReadable = true → ∀ last, run.given.getLast? = some last →
    run.cache.current = some last.loaded

variable {run : CacheRun}

/-- A new cache has given nothing out. -/
theorem consistent_start (sources : CatalogSources) (files : FileStore) :
    (start sources files).Consistent :=
  ⟨⟨nofun, nofun, nofun⟩, nofun⟩

/-- The present files belong to the moments. -/
theorem files_mem_moments (run : CacheRun) : run.files ∈ run.moments :=
  List.mem_append_right _ (List.mem_singleton_self _)

/-- A catalog with a new number has not been given out. -/
theorem firstDelivery?_eq_none {serial : Nat}
    (h : ∀ delivery ∈ run.given, delivery.loaded.serial < serial) :
    run.firstDelivery? serial = none := by
  refine List.find?_eq_none.mpr fun delivery hdelivery heq => ?_
  have hlt := h delivery hdelivery
  rw [beq_iff_eq.mp heq] at hlt
  exact Nat.lt_irrefl _ hlt

/-- A run after the cache gave its catalog out. -/
def deliver (run : CacheRun) : CacheRun :=
  { run with
    cache := (run.cache.get run.files).2
    given := run.given ++ [Delivery.mk (run.cache.get run.files).1 run.files] }

/-- Giving the catalog out makes a run consistent. -/
theorem Traced.deliver (h : run.Traced) : run.deliver.Consistent := by
  have hsound := h.sound.get run.files_mem_moments
  have hcurrent := run.cache.get_current run.files
  refine ⟨⟨hsound, ?_, ?_⟩, ?_⟩
  · intro delivery hdelivery
    rcases List.mem_append.mp hdelivery with hold | hnew
    · exact Nat.lt_of_lt_of_le (h.serial_lt delivery hold) (run.cache.le_loads_get run.files)
    · rw [List.mem_singleton.mp hnew]
      exact (hsound _ hcurrent).1
  · intro loaded hloaded
    obtain rfl := Option.some.inj (hcurrent.symm.trans hloaded)
    simp only [firstDelivery?, CacheRun.deliver, List.find?_append]
    obtain ⟨kept, hkept, _, hget⟩ | hget := run.cache.get_cases run.files
    · obtain ⟨first, hfirst, hstamp⟩ := h.first kept hkept
      rw [firstDelivery?] at hfirst
      rw [hget, hfirst]
      exact ⟨first, rfl, hstamp⟩
    · -- The catalog has just been read, so its first delivery is this one.
      have hnone := firstDelivery?_eq_none h.serial_lt
      rw [firstDelivery?] at hnone
      rw [hget]
      simp only [CatalogCache.reread]
      rw [hnone, Option.none_or, List.find?_singleton, if_pos (beq_self_eq_true _)]
      exact ⟨_, rfl, rfl⟩
  · intro _ last hlast
    rw [CacheRun.deliver, List.getLast?_concat] at hlast
    rw [← Option.some.inj hlast]
    exact hcurrent

/-- Asking for the catalog makes a run consistent, also when the sources are no paths. -/
theorem Traced.note {cache : CatalogCache} (h : { run with cache := cache }.Traced) :
    (run.note cache (cache.get? run.files)).Consistent := by
  by_cases hreadable : cache.isReadable = true
  · rw [CatalogCache.get?_eq_some_iff.mpr ⟨hreadable, rfl⟩]
    exact h.deliver
  · have hnone : cache.get? run.files = none := if_neg hreadable
    rw [hnone]
    exact ⟨h, fun hreads => absurd hreads hreadable⟩

/-- Pointing a cache elsewhere keeps nothing. -/
theorem Traced.redirect (h : run.Traced) (source constantsSource : Option String) :
    { run with cache := run.cache.redirect source constantsSource }.Traced :=
  ⟨run.cache.sound_redirect _ source constantsSource, h.serial_lt, nofun⟩

/-- Every step keeps a run consistent. -/
theorem Consistent.perform (h : run.Consistent) (step : CacheStep) :
    (run.perform step).Consistent := by
  cases step with
  | get => exact h.toTraced.note
  | reload source constantsSource => exact (h.toTraced.redirect source constantsSource).note
  | changeFiles change =>
    refine ⟨⟨fun loaded hloaded => ?_, h.serial_lt, h.first⟩, h.current⟩
    obtain ⟨hserial, files, hfiles, hread⟩ := h.sound loaded hloaded
    exact ⟨hserial, files, List.mem_append_left _ hfiles, hread⟩

/-- Steps one after the other keep a run consistent. -/
theorem Consistent.performAll (h : run.Consistent) (steps : List CacheStep) :
    (run.performAll steps).Consistent := by
  induction steps generalizing run with
  | nil => exact h
  | cons step steps ih => exact ih (h.perform step)

/-- Asking for the catalog changes no source. -/
theorem sources_note (run : CacheRun) (cache : CatalogCache) :
    (run.note cache (cache.get? run.files)).cache.sources = cache.sources := by
  obtain ⟨hsource, hconstants⟩ := cache.get_sources run.files
  unfold CatalogCache.get?
  split
  · simp only [note, CatalogCache.sources, hsource, hconstants]
  · rfl

/-- A step changes the sources that it names. -/
theorem sources_perform (run : CacheRun) (step : CacheStep) :
    (run.perform step).cache.sources = run.cache.sources.next step := by
  cases step with
  | get => exact run.sources_note run.cache
  | reload source constantsSource =>
    obtain ⟨hsource, hconstants⟩ := run.cache.redirect_sources source constantsSource
    have hnoted := run.sources_note (run.cache.redirect source constantsSource)
    refine hnoted.trans ?_
    rw [CatalogCache.sources, hsource, hconstants]
    rfl
  | changeFiles change => rfl

/-- Steps one after the other change the sources that they name. -/
theorem sources_performAll (run : CacheRun) (steps : List CacheStep) :
    (run.performAll steps).cache.sources = run.cache.sources.after steps := by
  induction steps generalizing run with
  | nil => rfl
  | cons step steps ih =>
    have hlater := ih (run.perform step)
    rw [sources_perform] at hlater
    exact hlater

/-- The catalog that is given out is the one of the present sources. -/
theorem Consistent.catalog_get? (h : run.Consistent)
    (hfaithful : run.IsFaithful run.cache.sources.paths) :
    (run.cache.get? run.files).map (·.1.catalog) = run.cache.sources.load? run.files := by
  have hcatalog := h.sound.catalog_get run.files fun path hpath older holder =>
    hfaithful path hpath older holder run.files run.files_mem_moments
  have hload : run.cache.sources.load? run.files = if run.cache.isReadable then
      some (Catalog.load run.files run.cache.source run.cache.constantsSource) else none :=
    rfl
  rw [hload, CatalogCache.get?]
  split
  · rw [← hcatalog]
    rfl
  · rfl

/-- A cache that is pointed elsewhere reads its sources. -/
theorem reload?_eq_some_iff {source constantsSource : Option String}
    {answer : LoadedCatalog × CatalogCache} :
    run.cache.reload? run.files source constantsSource = some answer ↔
      (run.cache.redirect source constantsSource).isReadable = true ∧
        (run.cache.redirect source constantsSource).reread run.files = answer := by
  rw [CatalogCache.reload?, CatalogCache.get?_eq_some_iff,
    CatalogCache.get_of_current_eq_none rfl]

/-- The catalog of other sources is read from them. -/
theorem catalog_reload? (run : CacheRun) (source constantsSource : Option String) :
    (run.cache.reload? run.files source constantsSource).map (·.1.catalog) =
      (run.cache.sources.next (.reload source constantsSource)).load? run.files := by
  obtain ⟨hsource, hconstants⟩ := run.cache.redirect_sources source constantsSource
  simp only [CatalogSources.load?, CatalogSources.next, CatalogCache.sources]
  rw [← hsource, ← hconstants, CatalogCache.reload?, CatalogCache.get?, Catalog.load?,
    ← CatalogCache.isReadable]
  split
  · rw [CatalogCache.get_of_current_eq_none rfl]
    rfl
  · rfl

/-- A catalog that has just been read is none of those that were given out. -/
theorem Traced.serial_ne (h : run.Traced) (cache : CatalogCache)
    (hloads : cache.loads = run.cache.loads) :
    ∀ delivery ∈ run.given, delivery.loaded.serial ≠ (cache.reread run.files).1.serial := by
  intro delivery hdelivery heq
  have hlt := h.serial_lt delivery hdelivery
  rw [heq, ← hloads] at hlt
  exact Nat.lt_irrefl _ hlt

/-- Asking again gives the same object out when no modification time has changed since it was read,
and a new one otherwise. -/
theorem Consistent.get?_eq_last_iff (h : run.Consistent)
    {answer : LoadedCatalog × CatalogCache} (hanswer : run.cache.get? run.files = some answer)
    {last : Delivery} (hlast : run.given.getLast? = some last) :
    ∃ first, run.firstDelivery? last.loaded.serial = some first ∧
      (answer.1 = last.loaded ↔ ∀ path ∈ run.cache.sources.paths,
        first.files.modified? path.toList = run.files.modified? path.toList) ∧
      (answer.1 ≠ last.loaded →
        ∀ delivery ∈ run.given, delivery.loaded.serial ≠ answer.1.serial) := by
  obtain ⟨hreadable, rfl⟩ := CatalogCache.get?_eq_some_iff.mp hanswer
  have hcurrent := h.current hreadable last hlast
  obtain ⟨first, hfirst, hstamp⟩ := h.first _ hcurrent
  have hget : run.cache.get run.files = if last.loaded.stamp = run.cache.stamp run.files then
      (last.loaded, run.cache) else run.cache.reread run.files := by
    rw [CatalogCache.get, hcurrent]
  have hpaths : run.cache.sources.paths = run.cache.paths := rfl
  refine ⟨first, hfirst, ?_⟩
  rw [hpaths, ← CatalogCache.stamp_eq_iff, ← hstamp, hget]
  by_cases hsame : last.loaded.stamp = run.cache.stamp run.files
  · rw [if_pos hsame]
    exact ⟨⟨fun _ => hsame, fun _ => rfl⟩, fun hne => absurd rfl hne⟩
  · rw [if_neg hsame]
    have hnew := h.serial_ne run.cache rfl
    refine ⟨⟨fun heq => ?_, fun heq => absurd heq hsame⟩, fun _ => hnew⟩
    exact absurd (congrArg LoadedCatalog.serial heq.symm)
      (hnew last (List.mem_of_getLast? hlast))

end CacheRun

/-- A catalog cache is always fresh. Whatever has happened to it and its files, it gives out the
catalog of the sources that were named last as the files are now, if these sources are paths. It
gives the object of the previous call out again when the modification times are those of the moment
when the object was read, and a new object otherwise; and when it is pointed at sources it always
gives out a new object. -/
theorem catalogCache_fresh (sources : CatalogSources) (files : FileStore) (steps : List CacheStep)
    (hfaithful : ((CacheRun.start sources files).performAll steps).IsFaithful
      (sources.after steps).paths) :
    let run := (CacheRun.start sources files).performAll steps
    let present := sources.after steps
    (run.cache.get? run.files).map (·.1.catalog) = present.load? run.files ∧
      (∀ source constantsSource : Option String,
        (run.cache.reload? run.files source constantsSource).map (·.1.catalog) =
          (present.next (.reload source constantsSource)).load? run.files) ∧
      (∀ answer last, run.cache.get? run.files = some answer → run.given.getLast? = some last →
        ∃ first, run.firstDelivery? last.loaded.serial = some first ∧
          (answer.1 = last.loaded ↔ ∀ path ∈ present.paths,
            first.files.modified? path.toList = run.files.modified? path.toList) ∧
          (answer.1 ≠ last.loaded →
            ∀ delivery ∈ run.given, delivery.loaded.serial ≠ answer.1.serial)) ∧
      ∀ source constantsSource answer,
        run.cache.reload? run.files source constantsSource = some answer →
          ∀ delivery ∈ run.given, delivery.loaded.serial ≠ answer.1.serial := by
  intro run present
  have hrun : run.Consistent := (CacheRun.consistent_start sources files).performAll steps
  have hpresent : run.cache.sources = present :=
    (CacheRun.start sources files).sources_performAll steps
  change run.IsFaithful present.paths at hfaithful
  rw [← hpresent] at hfaithful ⊢
  refine ⟨hrun.catalog_get? hfaithful, run.catalog_reload?, ?_, ?_⟩
  · exact fun answer last hanswer hlast => hrun.get?_eq_last_iff hanswer hlast
  · intro source constantsSource answer hanswer
    obtain ⟨_, rfl⟩ := CacheRun.reload?_eq_some_iff.mp hanswer
    exact hrun.serial_ne _ rfl

/-- The sources of the sample. -/
def sampleSources : CatalogSources where
  source := some "api.txt"

/-- The catalog is asked for, and then the file of signatures is written again. -/
def sampleSteps : List CacheStep :=
  [.get, .changeFiles sampleChange]

/-- The run of the sample is faithful, and the cache now gives a new object out, with the catalog of
the changed file. -/
theorem catalogCache_fresh_sample :
    let run := (CacheRun.start sampleSources sampleStore).performAll sampleSteps
    run.IsFaithful ["api.txt"] ∧
      (run.cache.get? run.files).map (·.1.catalog) =
        some (Catalog.load (sampleStore.change sampleChange) (some "api.txt") none) ∧
      ∀ answer, run.cache.get? run.files = some answer →
        ∀ delivery ∈ run.given, delivery.loaded.serial ≠ answer.1.serial := by
  intro run
  have htimes : sampleStore.modified? "api.txt".toList ≠
      (sampleStore.change sampleChange).modified? "api.txt".toList := by
    decide +kernel
  have hfaithful : run.IsFaithful ["api.txt"] := by
    intro path hpath files hfiles files' hfiles'
    change files ∈ [sampleStore, sampleStore.change sampleChange] at hfiles
    change files' ∈ [sampleStore, sampleStore.change sampleChange] at hfiles'
    simp only [List.mem_cons, List.not_mem_nil, or_false] at hpath hfiles hfiles'
    subst hpath
    rcases hfiles with rfl | rfl <;> rcases hfiles' with rfl | rfl
    · exact fun _ => rfl
    · exact fun htime => absurd htime htimes
    · exact fun htime => absurd htime.symm htimes
    · exact fun _ => rfl
  obtain ⟨hget, _, hobject, _⟩ :=
    catalogCache_fresh sampleSources sampleStore sampleSteps hfaithful
  refine ⟨hfaithful, hget, fun answer hanswer => ?_⟩
  obtain ⟨first, hfirst, hsame, hnew⟩ := hobject answer _ hanswer rfl
  obtain rfl := Option.some.inj hfirst
  refine hnew fun heq => htimes ?_
  exact hsame.mp heq "api.txt" (List.mem_singleton_self _)

end BrickLint
