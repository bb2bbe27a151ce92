import BrickLint.Catalog

/-!
# Catalog cache

A cache keeps the catalog of its sources and reads it again when a modification time has changed.
Every catalog that is read gets a serial number of its own, so that a kept catalog can be told from
one that was read anew and happens to be equal.
-/

namespace BrickLint

/-- The modification times of the two sources, where they exist. -/
structure SourceStamp where
  /-- The time of the file of signatures. -/
  signatures : Option Double
  /-- The time of the file of constants. -/
  constants : Option Double
  deriving DecidableEq

/-- A catalog that has been read. -/
structure LoadedCatalog where
  /-- The catalog. -/
  catalog : Catalog
  /-- The modification times when it was read. -/
  stamp : SourceStamp
  /-- The number of catalogs read before it. -/
  serial : Nat

/-- A catalog source with the catalog last read from it (`CatalogCache`). -/
structure CatalogCache where
  /-- The file of signatures; the installed one if none is named. -/
  source : Option String := none
  /-- The file of further constants. -/
  constantsSource : Option String := none
  /-- The catalog last read. -/
  current : Option LoadedCatalog := none
  /-- How many catalogs have been read. -/
  loads : Nat := 0

namespace CatalogCache

/-- The present modification times of the sources (`CatalogCache._current_stamp`). -/
def stamp (cache : CatalogCache) (files : FileStore) : SourceStamp where
  signatures := files.modified? (cache.source.getD Catalog.defaultPath).toList
  constants := cache.constantsSource.bind fun path => files.modified? path.toList

/-- The catalog of the sources as they are now. -/
def reread (cache : CatalogCache) (files : FileStore) : LoadedCatalog × CatalogCache :=
  let loaded : LoadedCatalog :=
    ⟨Catalog.load files cache.source cache.constantsSource, cache.stamp files, cache.loads⟩
  (loaded, { cache with current := some loaded, loads := cache.loads + 1 })

/-- The kept catalog while both modification times are as they were, and the catalog read anew
otherwise (`CatalogCache.get`). -/
def get (cache : CatalogCache) (files : FileStore) : LoadedCatalog × CatalogCache :=
  match cache.current with
  | some loaded => if loaded.stamp = cache.stamp files then (loaded, cache) else cache.reread files
  | none => cache.reread files

/-- Points the cache at new sources, where given, and forgets the kept catalog. -/
def redirect (cache : CatalogCache) (source constantsSource : Option String) : CatalogCache :=
  { cache with
    source := source.orElse fun _ => cache.source
    constantsSource := constantsSource.orElse fun _ => cache.constantsSource
    current := none }

/-- Points the cache at new sources, where given, and reads them (`CatalogCache.reload`). -/
def reload (cache : CatalogCache) (files : FileStore) (source constantsSource : Option String) :
    LoadedCatalog × CatalogCache :=
  (cache.redirect source constantsSource).get files

/-- Whether the sources are paths at all. Otherwise the catalog must not be asked for. -/
def isReadable (cache : CatalogCache) : Bool :=
  Catalog.validSources cache.source cache.constantsSource

/-- The catalog as `get` finds it, unless a source is no path. -/
def get? (cache : CatalogCache) (files : FileStore) : Option (LoadedCatalog × CatalogCache) :=
  if cache.isReadable then some (cache.get files) else none

/-- Points the cache at new sources, where given, and reads them, unless one of them is no path. -/
def reload? (cache : CatalogCache) (files : FileStore) (source constantsSource : Option String) :
    Option (LoadedCatalog × CatalogCache) :=
  (cache.redirect source constantsSource).get? files

end CatalogCache

end BrickLint
