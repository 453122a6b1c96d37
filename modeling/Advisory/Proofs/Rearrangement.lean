import Advisory.Proofs.Placement
import Advisory.Proofs.Storage

/-!
# Loading does not depend on how a snapshot is stored

Two snapshots that store the same hold the same rows, but rows that tie are
delivered as they are stored. Ties are where the tables differ. Links are
delivered by everything that is read of them, so links that tie are the same
link twice. Records are delivered by their numbers, which is enough if no
number is given twice. Only the index is delivered by less than it holds and
may well have ties, rows of one name and place for different versions. The
catalogue groups them by version, and under one version rows that tie are the
same place again.
-/

namespace Advisory

/-! ## Rows that do not tie -/

namespace Tables

/-- No number, place, module or export is given twice. -/
structure Unrepeated (t : Tables) : Prop where
  names : (t.names.map (·.1)).Nodup
  evrs : (t.evrs.map (·.1)).Nodup
  arches : (t.arches.map (·.1)).Nodup
  texts : (t.texts.map (·.1)).Nodup
  packages : (t.packages.map (·.1)).Nodup
  updates : (t.updates.map fun r => (r.name, r.order)).Nodup
  repositories : (t.repositories.map (·.1)).Nodup
  erratumModules : (t.erratumModules.map fun r =>
    (r.1, r.2.name, r.2.stream)).Nodup
  errata : (t.errata.map (·.id)).Nodup
  cves : (t.cves.map (·.id)).Nodup
  freshness : (t.freshness.map (·.spelling)).Nodup

/-- Tables with another index. -/
def withIndex (t : Tables) (rows : List IndexRow) : Tables :=
  { t with index := rows }

@[simp] theorem freshness?_withIndex (t : Tables) (rows : List IndexRow) :
    (t.withIndex rows).freshness? = t.freshness? := rfl

end Tables

section Ties

variable {ρ κ : Type} [Ord κ] [Std.TransOrd κ] [Std.LawfulEqOrd κ]
variable {l : Layout ρ} {s s' : Snapshot} {rows rows' : List ρ}

/-- Rows that are delivered by a key that no two different ones share are
delivered in one way only. -/
theorem Layout.Delivers.eq_of_perm (h : l.Delivers s rows)
    (h' : l.Delivers s' rows') (hperm : rows.Perm rows') (key : ρ → κ)
    (hcmp : l.compare = compareOn key)
    (hkey : ∀ a ∈ rows, ∀ b ∈ rows, key a = key b → a = b) :
    rows = rows' := by
  have hs := h.sorted
  have hs' := h'.sorted
  rw [hcmp] at hs hs'
  exact eq_of_sorted_perm hs hs' hperm fun a ha b hb hab =>
    hkey a ha b hb (Std.LawfulEqOrd.eq_of_compare hab)

theorem Layout.Delivers.eq_of_nodup (h : l.Delivers s rows)
    (h' : l.Delivers s' rows') (hperm : rows.Perm rows') (key : ρ → κ)
    (hcmp : l.compare = compareOn key) (hkey : (rows.map key).Nodup) :
    rows = rows' :=
  h.eq_of_perm h' hperm key hcmp fun _ ha _ hb =>
    List.inj_on_of_nodup_map hkey ha hb

theorem Layout.Delivers.eq_of_injective (h : l.Delivers s rows)
    (h' : l.Delivers s' rows') (hperm : rows.Perm rows') (key : ρ → κ)
    (hcmp : l.compare = compareOn key) (hkey : key.Injective) :
    rows = rows' :=
  h.eq_of_perm h' hperm key hcmp fun _ _ _ _ => @hkey _ _

end Ties

/-- Links are delivered by all that is read of them. -/
theorem Layout.Delivers.eq_of_link {κ : Type} [Ord κ] [Std.TransOrd κ]
    [Std.LawfulEqOrd κ] {l : Layout κ} {s s' : Snapshot} {rows rows' : List κ}
    (h : l.Delivers s rows) (h' : l.Delivers s' rows')
    (hperm : rows.Perm rows') (hcmp : l.compare = Ord.compare) :
    rows = rows' :=
  h.eq_of_injective h' hperm id hcmp Function.injective_id

theorem ModularRow.key_injective : Function.Injective
    fun r : ModularRow => (r.package, r.erratum, r.stream) := by
  intro a b h
  obtain ⟨_, _, _⟩ := a
  obtain ⟨_, _, _⟩ := b
  simp only [Prod.mk.injEq] at h
  simp only [h]

/-- Freshness records are delivered by their spelling, the greatest first. -/
theorem FreshnessRow.eq_of_delivers {s s' : Snapshot}
    {rows rows' : List FreshnessRow} (h : freshnessLayout.Delivers s rows)
    (h' : freshnessLayout.Delivers s' rows') (hperm : rows.Perm rows')
    (hkey : (rows.map (·.spelling)).Nodup) : rows = rows' := by
  refine eq_of_sorted_perm h.sorted h'.sorted hperm fun a ha b hb hab => ?_
  have hspelling := Std.LawfulEqOrd.eq_of_compare hab
  exact (List.inj_on_of_nodup_map hkey hb ha hspelling).symm

namespace Tables

variable {s s' : Snapshot} {t t' : Tables}

attribute [ext] Tables

/-- Of the same rows in any order everything but the index is delivered the
same. -/
theorem Permuted.eq_withIndex (h : t.Permuted t') (hu : t.Unrepeated)
    (hd : t.DeliveredBy s) (hd' : t'.DeliveredBy s') :
    t = t'.withIndex t.index := by
  apply Tables.ext
  case names =>
    exact hd.names.eq_of_nodup hd'.names h.names _ rfl hu.names
  case evrs =>
    exact hd.evrs.eq_of_nodup hd'.evrs h.evrs _ rfl hu.evrs
  case arches =>
    exact hd.arches.eq_of_nodup hd'.arches h.arches _ rfl hu.arches
  case archCompat =>
    exact hd.archCompat.eq_of_link hd'.archCompat h.archCompat rfl
  case texts =>
    exact hd.texts.eq_of_nodup hd'.texts h.texts _ rfl hu.texts
  case packages =>
    exact hd.packages.eq_of_nodup hd'.packages h.packages _ rfl hu.packages
  case updates =>
    exact hd.updates.eq_of_nodup hd'.updates h.updates _ rfl hu.updates
  case index => rfl
  case repositories =>
    exact hd.repositories.eq_of_nodup hd'.repositories h.repositories _ rfl
      hu.repositories
  case packageRepositories =>
    exact hd.packageRepositories.eq_of_link hd'.packageRepositories
      h.packageRepositories rfl
  case packageErrata =>
    exact hd.packageErrata.eq_of_link hd'.packageErrata h.packageErrata rfl
  case erratumRepositories =>
    exact hd.erratumRepositories.eq_of_link hd'.erratumRepositories
      h.erratumRepositories rfl
  case erratumCves =>
    exact hd.erratumCves.eq_of_link hd'.erratumCves h.erratumCves rfl
  case erratumBugzillas =>
    exact hd.erratumBugzillas.eq_of_link hd'.erratumBugzillas h.erratumBugzillas
      rfl
  case erratumReferences =>
    exact hd.erratumReferences.eq_of_link hd'.erratumReferences
      h.erratumReferences rfl
  case erratumModules =>
    exact hd.erratumModules.eq_of_nodup hd'.erratumModules h.erratumModules _
      rfl hu.erratumModules
  case modular =>
    exact hd.modular.eq_of_injective hd'.modular h.modular _ rfl
      ModularRow.key_injective
  case errata =>
    exact hd.errata.eq_of_nodup hd'.errata h.errata _ rfl hu.errata
  case cveWeaknesses =>
    exact hd.cveWeaknesses.eq_of_link hd'.cveWeaknesses h.cveWeaknesses rfl
  case cvePackages =>
    exact hd.cvePackages.eq_of_link hd'.cvePackages h.cvePackages rfl
  case cves =>
    exact hd.cves.eq_of_nodup hd'.cves h.cves _ rfl hu.cves
  case streams =>
    exact hd.streams.eq_of_link hd'.streams h.streams rfl
  case freshness =>
    exact FreshnessRow.eq_of_delivers hd.freshness hd'.freshness h.freshness
      hu.freshness

/-! ## The index -/

/-- The index is grouped by name and version, and under one key places that
tie are the same, so only the places themselves count. -/
theorem positions_congr {rows rows' : List IndexRow}
    (hperm : rows.Perm rows') (hrows : Sorted indexLayout.compare rows)
    (hrows' : Sorted indexLayout.compare rows') :
    Dict.group (rows.filterMap fun r => r.place?.map ((r.name, r.evr), ·)) =
      .group (rows'.filterMap fun r => r.place?.map ((r.name, r.evr), ·)) := by
  refine Dict.group_congr fun key => ?_
  have hplaces := ((hperm.filterMap fun r =>
    r.place?.map ((r.name, r.evr), ·)).filter (·.1 = key)).map (·.2)
  exact hplaces.eq_of_pairwise (fun _ _ _ _ => Nat.le_antisymm)
    (places_ascend hrows key) (places_ascend hrows' key)

theorem orderingViolations_withIndex {rows : List IndexRow}
    (hperm : rows.Perm t.index) :
    (t.withIndex rows).orderingViolations = t.orderingViolations :=
  congrArg (t.misplacedVersions + ·) (hperm.filter _).length_eq

theorem catalog_withIndex {rows : List IndexRow} {f : Freshness}
    (hperm : rows.Perm t.index) (hrows : Sorted indexLayout.compare rows)
    (hindex : Sorted indexLayout.compare t.index) :
    (t.withIndex rows).catalog f = t.catalog f := by
  show { t.catalog f with
    positions := .group (rows.filterMap fun r : IndexRow =>
      r.place?.map ((r.name, r.evr), ·))
    orderingViolations := (t.withIndex rows).orderingViolations } = _
  rw [positions_congr hperm hrows hindex, orderingViolations_withIndex hperm]
  rfl

end Tables

/-! ## Loading -/

/-- Two snapshots that store the same give the same catalogue, or fail to load
for the same reason, unless something is given twice that rows are delivered
by. -/
theorem load_storedAlike {s s' : Snapshot} (h : s.StoredAlike s')
    (hu : ∀ t, Tables.read s = .ok t → t.Unrepeated) :
    Catalog.load s = Catalog.load s' := by
  rw [Catalog.load, Catalog.load]
  refine (Tables.read_alike h).bind_eq fun t t' ht ht' hperm => ?_
  have hd := Tables.read_delivers ht
  have hd' := Tables.read_delivers ht'
  have heq := hperm.eq_withIndex (hu t ht) hd hd'
  have hcatalog : ∀ f, t.catalog f = t'.catalog f := fun f => calc
    t.catalog f = (t'.withIndex t.index).catalog f :=
      congrArg (·.catalog f) heq
    _ = t'.catalog f :=
      Tables.catalog_withIndex hperm.index hd.index.sorted hd'.index.sorted
  have hfreshness : t.freshness? = t'.freshness? := by
    rw [heq, Tables.freshness?_withIndex]
  rw [hfreshness]
  cases t'.freshness? with
  | none => rfl
  | some f => exact congrArg Except.ok (hcatalog f)

/-! ## Snapshots written the other way round -/

/-- A table with its rows and its columns in reverse and a column of remarks in
front. -/
def Table.turned (t : Table) : Table where
  columns := "remark" :: t.columns.reverse
  rows := t.rows.reverse.map fun row => .null :: row.reverse

/-- A snapshot with each table turned. -/
def Snapshot.turned (s : Snapshot) : Snapshot where
  tables := s.tables.map fun (name, t) => (name, t.map Table.turned)

/-- A table as a database stores it: no two columns have one name, and every
row has a cell for each column. -/
structure Table.WellFormed (t : Table) : Prop where
  distinct : t.columns.Pairwise fun a b => sameColumn a b = false
  width : ∀ row ∈ t.rows, row.length = t.columns.length

instance (t : Table) : Decidable t.WellFormed :=
  decidable_of_iff (_ ∧ _) ⟨fun ⟨h, h'⟩ => ⟨h, h'⟩, fun ⟨h, h'⟩ => ⟨h, h'⟩⟩

theorem Table.namedCells_turned {names : List String} {t : Table}
    {row : List Cell} (hremark : isNamed names "remark" = false)
    (hwidth : row.length = t.columns.length) :
    t.turned.namedCells names (.null :: row.reverse) =
      (t.namedCells names row).reverse := by
  have hzip : t.columns.reverse.zip row.reverse =
      (t.columns.zip row).reverse := (List.reverse_zipWith hwidth.symm).symm
  show (("remark", Cell.null) ::
    t.columns.reverse.zip row.reverse).filter _ = _
  rw [List.filter_cons_of_neg (by simp [hremark]), hzip, List.filter_reverse]
  rfl

theorem Table.WellFormed.alike_turned {names : List String} {t : Table}
    (h : t.WellFormed) (hremark : isNamed names "remark" = false) :
    t.Alike names t.turned where
  distinct := h.distinct
  columns := by
    show List.Perm _ (("remark" :: t.columns.reverse).filter _)
    rw [List.filter_cons_of_neg (by simp [hremark]), List.filter_reverse]
    exact (List.reverse_perm _).symm
  rows := by
    refine ⟨t.rows.reverse, (List.reverse_perm _).symm, ?_⟩
    rw [turned, List.forall₂_map_right_iff, List.forall₂_same]
    intro row hrow
    show List.Perm _ (t.turned.namedCells names (.null :: row.reverse))
    rw [namedCells_turned hremark (h.width row (List.mem_reverse.1 hrow))]
    exact (List.reverse_perm _).symm

theorem Table.WellFormed.alike_self {names : List String} {t : Table}
    (h : t.WellFormed) : t.Alike names t where
  distinct := h.distinct
  columns := .refl _
  rows := ⟨t.rows, .refl _, List.forall₂_same.2 fun _ _ => .refl _⟩

/-- No table has two columns of one name or one of remarks. -/
theorem standardColumns_distinct : ∀ entry ∈ standardColumns,
    (entry.2.Pairwise fun a b => sameColumn a b = false) ∧
      Table.isNamed entry.2 "remark" = false := by
  decide +kernel

/-- A snapshot that is turned stores the same. -/
theorem Snapshot.storedAlike_turned {s : Snapshot}
    (h : ∀ entry ∈ s.tables, ∀ t ∈ entry.2, t.WellFormed) :
    s.StoredAlike s.turned := by
  intro name columns hmem
  obtain ⟨hdistinct, hremark⟩ := standardColumns_distinct _ hmem
  have hfind : s.turned.tables.find? (·.1 = name) =
      (s.tables.find? (·.1 = name)).map fun (name, t) =>
        (name, t.map Table.turned) := List.find?_map
  rw [stored?, stored?, hfind]
  cases hentry : s.tables.find? (·.1 = name) with
  | none =>
      exact .some (Table.WellFormed.alike_self ⟨hdistinct, by simp⟩)
  | some entry =>
      obtain ⟨_, t⟩ := entry
      cases t with
      | none => exact .none
      | some t =>
          have ht := h _ (List.mem_of_find?_eq_some hentry) t rfl
          exact .some (ht.alike_turned hremark)

theorem unrepeated_reportedTables : reportedTables.Unrepeated := by
  constructor <;> decide

/-- Turning the snapshot with vulnerabilities changes nothing. -/
theorem load_storedAlike_turned :
    reportedSnapshot.StoredAlike reportedSnapshot.turned ∧
    (∀ t, Tables.read reportedSnapshot = .ok t → t.Unrepeated) ∧
    Catalog.load reportedSnapshot.turned =
      .ok (reportedTables.catalog kernelFreshness) := by
  have halike : reportedSnapshot.StoredAlike reportedSnapshot.turned :=
    Snapshot.storedAlike_turned (by decide +kernel)
  have hu : ∀ t, Tables.read reportedSnapshot = .ok t → t.Unrepeated := by
    intro t ht
    rw [read_reportedSnapshot] at ht
    cases ht
    exact unrepeated_reportedTables
  exact ⟨halike, hu,
    (load_storedAlike halike hu).symm.trans load_reportedSnapshot⟩

end Advisory
