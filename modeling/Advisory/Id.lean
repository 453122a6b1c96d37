import Advisory.Order

/-!
# Numbers of records

A snapshot numbers its records table by table and refers to them by number only. The numbers of one
kind of record are a type of their own, so that a package id cannot be looked up among
repositories.
-/

namespace Advisory

/-- The kinds of record a snapshot numbers. -/
inductive Numbered where
  | name | evr | arch | text | package | repository | erratum | cve | stream
deriving DecidableEq, Repr

/-- The number of a record of one kind. Any 64-bit integer may occur, also a negative one. -/
structure Id (kind : Numbered) where
  value : Int
deriving DecidableEq, Repr

abbrev NameId := Id .name
abbrev EvrId := Id .evr
abbrev ArchId := Id .arch
abbrev TextId := Id .text
abbrev PackageId := Id .package
abbrev RepositoryId := Id .repository
abbrev ErratumId := Id .erratum
abbrev CveId := Id .cve
/-- Number of one build of a module stream; many builds share a stream. -/
abbrev StreamId := Id .stream

namespace Id

instance : Ord (Id kind) where
  compare := compareOn Id.value

instance : Std.TransOrd (Id kind) := inferInstanceAs (Std.TransCmp (compareOn Id.value))

instance : Std.LawfulEqOrd (Id kind) where
  eq_of_compare {a b} h := by
    obtain ⟨a⟩ := a
    obtain ⟨b⟩ := b
    exact congrArg Id.mk (Std.LawfulEqOrd.eq_of_compare (show compare a b = .eq from h))

/-- Relations between two kinds of record are looked up by pairs of ids. -/
instance instTransOrdIdPair : Std.TransOrd (Id a × Id b) := instTransOrdPair

end Id

end Advisory
