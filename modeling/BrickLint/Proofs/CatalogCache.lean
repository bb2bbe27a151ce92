import BrickLint.Catalog.Cache

/-!
# Kept catalogs

A catalog cache notices changes of its files by their modification times only. As long as equal
times mean equal contents, the catalog that it gives out is the one that would be read now, whether
it was kept or read anew.
-/

namespace BrickLint

/-- Equal modification times at a path mean equal contents there. -/
def FileStore.AgreesAt (files files' : FileStore) (path : String) : Prop :=
  files.modified? path.toList = files'.modified? path.toList →
    files.read? path.toList = files'.read? path.toList

namespace CatalogCache

/-- The paths of the sources. -/
def paths (cache : CatalogCache) : List String :=
  cache.source.getD Catalog.defaultPath :: cache.constantsSource.toList

/-- The lines of a file are determined by its content. -/
theorem fileLines?_congr {files files' : FileStore} {path : String}
    (h : files.read? path.toList = files'.read? path.toList) :
    Catalog.fileLines? files path = Catalog.fileLines? files' path := by
  rw [Catalog.fileLines?, Catalog.fileLines?, h]

/-- Sources with the same modification times hold the same catalog. -/
theorem load_eq_of_stamp_eq {cache : CatalogCache} {files files' : FileStore}
    (hagree : ∀ path ∈ cache.paths, files.AgreesAt files' path)
    (hstamp : cache.stamp files = cache.stamp files') :
    Catalog.load files cache.source cache.constantsSource =
      Catalog.load files' cache.source cache.constantsSource := by
  obtain ⟨hsignatures, hconstants⟩ := SourceStamp.mk.inj hstamp
  have hfurther : cache.constantsSource.bind (Catalog.fileLines? files) =
      cache.constantsSource.bind (Catalog.fileLines? files') := by
    cases hsource : cache.constantsSource with
    | none => rfl
    | some path =>
      have hmem : path ∈ cache.paths := by simp [paths, hsource]
      rw [hsource] at hconstants
      exact fileLines?_congr (hagree path hmem hconstants)
  have hlines := fileLines?_congr (hagree _ List.mem_cons_self hsignatures)
  simp only [Catalog.load, hfurther, hlines]

/-- The kept catalog was read from the sources at one of the given moments and is older than the
next one to be read. -/
def Sound (stores : List FileStore) (cache : CatalogCache) : Prop :=
  ∀ loaded, cache.current = some loaded → loaded.serial < cache.loads ∧
    ∃ files ∈ stores, loaded.stamp = cache.stamp files ∧
      loaded.catalog = Catalog.load files cache.source cache.constantsSource

/-- Asking for the catalog gives the kept one out or reads the sources. -/
theorem get_cases (cache : CatalogCache) (files : FileStore) :
    (∃ loaded, cache.current = some loaded ∧ loaded.stamp = cache.stamp files ∧
      cache.get files = (loaded, cache)) ∨ cache.get files = cache.reread files := by
  unfold get
  cases hcurrent : cache.current with
  | none => exact .inr rfl
  | some loaded =>
    by_cases hstamp : loaded.stamp = cache.stamp files
    · exact .inl ⟨loaded, rfl, hstamp, if_pos hstamp⟩
    · exact .inr (if_neg hstamp)

variable {stores : List FileStore} {cache : CatalogCache} {files : FileStore}

/-- Asking for the catalog changes no source. -/
theorem get_sources (cache : CatalogCache) (files : FileStore) :
    (cache.get files).2.source = cache.source ∧
      (cache.get files).2.constantsSource = cache.constantsSource := by
  obtain ⟨loaded, _, _, hget⟩ | hget := cache.get_cases files <;> rw [hget] <;> exact ⟨rfl, rfl⟩

/-- The catalog that is given out is kept. -/
theorem get_current (cache : CatalogCache) (files : FileStore) :
    (cache.get files).2.current = some (cache.get files).1 := by
  obtain ⟨loaded, hcurrent, _, hget⟩ | hget := cache.get_cases files <;> rw [hget]
  · exact hcurrent
  · rfl

/-- Catalogs are only ever added to those that have been read. -/
theorem le_loads_get (cache : CatalogCache) (files : FileStore) :
    cache.loads ≤ (cache.get files).2.loads := by
  obtain ⟨loaded, _, _, hget⟩ | hget := cache.get_cases files
  · have hloads : (cache.get files).2.loads = cache.loads := by rw [hget]
    exact Nat.le_of_eq hloads.symm
  · have hloads : (cache.get files).2.loads = cache.loads + 1 := by rw [hget]; rfl
    omega

/-- A catalog that was read before is the kept one. -/
theorem current_of_serial_lt (h : (cache.get files).1.serial < cache.loads) :
    cache.current = some (cache.get files).1 := by
  obtain ⟨loaded, hcurrent, _, hget⟩ | hget := cache.get_cases files <;> rw [hget] at h ⊢
  · exact hcurrent
  · exact absurd h (Nat.lt_irrefl _)

/-- Asking for the catalog keeps a cache sound. -/
theorem Sound.get (h : cache.Sound stores) (hfiles : files ∈ stores) :
    (cache.get files).2.Sound stores := by
  obtain ⟨loaded, _, _, hget⟩ | hget := cache.get_cases files <;> rw [hget]
  · exact h
  · intro loaded hloaded
    obtain rfl := Option.some.inj hloaded
    exact ⟨Nat.lt_succ_self _, files, hfiles, rfl, rfl⟩

/-- Whether it was kept or not, the catalog is what the sources hold now. -/
theorem Sound.catalog_get (h : cache.Sound stores) (files : FileStore)
    (hagree : ∀ path ∈ cache.paths, ∀ older ∈ stores, older.AgreesAt files path) :
    (cache.get files).1.catalog = Catalog.load files cache.source cache.constantsSource := by
  obtain ⟨loaded, hcurrent, hstamp, hget⟩ | hget := cache.get_cases files <;> rw [hget]
  · obtain ⟨_, older, holder, holderStamp, hcatalog⟩ := h loaded hcurrent
    rw [hcatalog]
    exact load_eq_of_stamp_eq (fun path hpath => hagree path hpath older holder)
      (holderStamp.symm.trans hstamp)
  · rfl

/-- Pointing a cache elsewhere keeps nothing. -/
theorem sound_redirect (stores : List FileStore) (cache : CatalogCache)
    (source constantsSource : Option String) :
    (cache.redirect source constantsSource).Sound stores := by
  intro loaded hloaded
  cases hloaded

/-- Sources that are given replace the old ones. -/
theorem redirect_sources (cache : CatalogCache) (source constantsSource : Option String) :
    (cache.redirect source constantsSource).source = source.or cache.source ∧
      (cache.redirect source constantsSource).constantsSource =
        constantsSource.or cache.constantsSource := by
  cases source <;> cases constantsSource <;> exact ⟨rfl, rfl⟩

/-- The sources of a cache that was pointed elsewhere are old or new ones. -/
theorem mem_paths_redirect {source constantsSource : Option String} {path : String}
    (h : path ∈ (cache.redirect source constantsSource).paths) :
    path ∈ cache.paths ∨ path ∈ source.toList ++ constantsSource.toList := by
  simp only [paths, redirect, List.mem_cons, List.mem_append, Option.mem_toList] at h ⊢
  rcases h with h | h
  · cases source with
    | none => exact .inl (.inl h)
    | some new => exact .inr (.inl (congrArg some h.symm))
  · cases constantsSource with
    | none => exact .inl (.inr h)
    | some new => exact .inr (.inr h)

end CatalogCache

end BrickLint
