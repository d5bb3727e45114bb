import EcmaRegex.Property.Lookup
/-!
# The property cache

The sets built are kept in a cache shared by every lookup of the process, keyed by query:
`getProperty` answers from the cache when it can, and otherwise builds the set and caches it.
A failed lookup caches nothing.
-/

namespace EcmaRegex

namespace Property

/-- Look a name up through the cache of built sets, keyed by query: the answer, and the cache
after the lookup.  A set built is cached; a failure leaves the cache as it was. -/
def getProperty (lib : UnicodeLibrary) (cache : List (String × CodePointSet)) (name : String) :
    Except LookupError CodePointSet × List (String × CodePointSet) :=
  match queryOf name with
  | .error e => (.error e, cache)
  | .ok q =>
    match cache.lookup q with
    | some s => (.ok s, cache)
    | none =>
      match build lib q with
      | some s => (.ok s, (q, s) :: cache)
      | none => (.error (unresolved name), cache)

/-- The cache after the names have been looked up one after another. -/
def cacheAfter (lib : UnicodeLibrary) (cache : List (String × CodePointSet))
    (names : List String) : List (String × CodePointSet) :=
  names.foldl (fun c name => (getProperty lib c name).2) cache

end Property

end EcmaRegex
