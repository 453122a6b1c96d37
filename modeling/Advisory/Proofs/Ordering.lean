import Advisory.Proofs.Recognition

/-!
# The order of versions

Two tables describe the order of versions: one gives every package its place
under its name, the other one says at which places a version stands. Loading
counts the rows that do not fit. A row of the first table does not fit if it
does not stand at the place it names, and that is seen from the list that the
rows of a name form when they are sorted by place. A row of the second does not
fit if no package of its version stands at its place in that list.

No count at all means that the rows themselves, however they are stored, keep a
contract. The sorted places of a name are the numbers from zero exactly if the
stored ones are these numbers in some order; and then the place of a package in
the list is the place that its row names, so that a row of the index is compared
with the row it means.
-/

namespace Advisory

/-! ## Places without gaps -/

/-- Some numbers are those from zero on, each once, in any order. -/
def Gapless (orders : List Int) : Prop :=
  orders.Perm ((List.range orders.length).map Int.ofNat)

theorem Tables.displaced_eq_zero_iff {orders : List Int} :
    displaced orders = 0 ↔
      orders = (List.range orders.length).map Int.ofNat := by
  rw [displaced, List.length_eq_zero_iff, List.filter_eq_nil_iff]
  simp only [decide_not, Bool.not_eq_true', decide_eq_false_iff_not,
    not_not, Prod.forall, List.mem_zipIdx_iff_getElem?]
  constructor
  · intro h
    refine List.ext_getElem (by simp) fun i hi _ => ?_
    rw [List.getElem_map, List.getElem_range]
    exact h _ _ (List.getElem?_eq_getElem hi)
  · intro h order place horder
    obtain ⟨hplace, rfl⟩ := List.getElem?_eq_some_iff.1 horder
    rw [List.getElem_of_eq h, List.getElem_map, List.getElem_range]
    rfl

/-- Sorted numbers stand at the places they name exactly if they have no
gaps. -/
theorem Tables.displaced_eq_zero_iff_gapless {orders : List Int}
    (h : orders.Pairwise (· ≤ ·)) : displaced orders = 0 ↔ Gapless orders := by
  rw [displaced_eq_zero_iff]
  constructor
  · intro heq
    rw [Gapless, ← heq]
  · intro hperm
    refine hperm.eq_of_pairwise (fun _ _ _ _ => Int.le_antisymm) h ?_
    exact List.pairwise_map.2
      (List.pairwise_le_range.imp fun hle => Int.ofNat_le.2 hle)

theorem Gapless.congr {orders orders' : List Int} (h : orders.Perm orders') :
    Gapless orders ↔ Gapless orders' := by
  rw [Gapless, Gapless, h.length_eq]
  exact ⟨h.symm.trans, h.trans⟩

/-- The lists of a grouped dictionary are the values under its keys. -/
theorem Dict.mem_toList_group_iff {κ α : Type} [Ord κ] [Std.TransOrd κ]
    [Std.LawfulEqOrd κ] [DecidableEq κ] {pairs : List (κ × α)} {k : κ}
    {vs : List α} : (k, vs) ∈ (group pairs).toList ↔
      vs = valuesOf pairs k ∧ vs ≠ [] := by
  rw [Std.ExtTreeMap.mem_toList_iff_getElem?_eq_some,
    getElem?_group_eq_valuesOf]
  split
  · next h =>
      rw [List.isEmpty_iff] at h
      simp [h]
  · next h =>
      rw [List.isEmpty_iff] at h
      constructor
      · rintro ⟨rfl⟩
        exact ⟨rfl, h⟩
      · rintro ⟨rfl, -⟩
        rfl

/-! ## The versions of a name -/

namespace Tables

variable {s : Snapshot} {t : Tables}

/-- The rows of the version table under a name. -/
def rowsOf (t : Tables) (name : NameId) : List UpdateRow :=
  t.updates.filter (·.name = name)

theorem valuesOf_map {ρ κ α : Type} [DecidableEq κ] (rows : List ρ)
    (key : ρ → κ) (value : ρ → α) (k : κ) :
    valuesOf (rows.map fun r => (key r, value r)) k =
      (rows.filter (key · = k)).map value := by
  rw [valuesOf, List.filter_map, List.map_map]
  rfl

theorem listAt_versionsByName (t : Tables) (name : NameId) :
    t.versionsByName.listAt name = (t.rowsOf name).map (·.package) := by
  rw [versionsByName, Dict.listAt_group_eq_valuesOf, valuesOf_map]
  rfl

/-- Rows are delivered by name and place, so the places of a name ascend. -/
theorem orders_ascend (h : t.DeliveredBy s) (name : NameId) :
    ((t.rowsOf name).map (·.order)).Pairwise (· ≤ ·) := by
  rw [List.pairwise_map]
  refine (h.updates.sorted.filter _).imp_of_mem fun {a b} ha hb hab => ?_
  have hcmp : ((compare a.name b.name).then (compare a.order b.order)).isLE :=
    hab
  have hname : a.name = b.name :=
    (of_decide_eq_true (List.mem_filter.1 ha).2).trans
      (of_decide_eq_true (List.mem_filter.1 hb).2).symm
  rw [hname, Std.ReflOrd.compare_self, Ordering.eq_then,
    Int.isLE_compare] at hcmp
  exact hcmp

theorem misplacedVersions_eq_zero_iff (h : t.DeliveredBy s) :
    t.misplacedVersions = 0 ↔
      ∀ name, Gapless ((t.rowsOf name).map (·.order)) := by
  have hname : ∀ name, displaced ((t.rowsOf name).map (·.order)) = 0 ↔
      Gapless ((t.rowsOf name).map (·.order)) :=
    fun name => displaced_eq_zero_iff_gapless (orders_ascend h name)
  rw [misplacedVersions, ← List.sum_eq_foldr, List.sum_eq_zero_iff_forall_eq_nat,
    List.forall_mem_map, Prod.forall]
  simp only [Dict.mem_toList_group_iff, valuesOf_map]
  constructor
  · intro h' name
    by_cases hnil : (t.rowsOf name).map (·.order) = []
    · rw [hnil]
      exact .refl _
    · exact (hname name).1 (h' name _ ⟨rfl, hnil⟩)
  · rintro h' name _ ⟨rfl, -⟩
    exact (hname name).2 (h' name)

theorem mem_rowsOf {name : NameId} {u : UpdateRow} :
    u ∈ t.rowsOf name ↔ u ∈ t.updates ∧ u.name = name := by
  rw [rowsOf, List.mem_filter, decide_eq_true_eq]

/-- Without gaps a row stands at the place it names. -/
theorem order_eq_of_getElem? (hs : t.DeliveredBy s) {name : NameId}
    (h : Gapless ((t.rowsOf name).map (·.order))) {place : Nat}
    {u : UpdateRow} (hu : (t.rowsOf name)[place]? = some u) :
    u.order = place := by
  have horders := displaced_eq_zero_iff.1
    ((displaced_eq_zero_iff_gapless (orders_ascend hs name)).2 h)
  obtain ⟨hplace, rfl⟩ := List.getElem?_eq_some_iff.1 hu
  have horder := List.getElem_of_eq horders (by simpa using hplace)
  simpa using horder

theorem getElem?_rowsOf_iff (hs : t.DeliveredBy s) {name : NameId}
    (h : Gapless ((t.rowsOf name).map (·.order))) {place : Nat}
    {u : UpdateRow} : (t.rowsOf name)[place]? = some u ↔
      u ∈ t.updates ∧ u.name = name ∧ u.order = place := by
  constructor
  · intro hu
    obtain ⟨hupdates, hname⟩ := mem_rowsOf.1 (List.mem_of_getElem? hu)
    exact ⟨hupdates, hname, order_eq_of_getElem? hs h hu⟩
  · rintro ⟨hupdates, hname, horder⟩
    obtain ⟨i, hi⟩ :=
      List.mem_iff_getElem?.1 (mem_rowsOf.2 ⟨hupdates, hname⟩)
    obtain rfl : i = place :=
      Int.ofNat.inj ((order_eq_of_getElem? hs h hi).symm.trans horder)
    exact hi

end Tables

/-! ## The index -/

namespace IndexRow

variable {r : IndexRow} {versions : Dict NameId (List PackageId)}
  {packages : Dict PackageId Package}

theorem place?_eq_some_iff {place : Nat} :
    r.place? = some place ↔ r.order = place := by
  rw [IndexRow.place?]
  split
  · next h =>
      rw [Option.some.injEq]
      omega
  · next h =>
      constructor
      · intro h'
        cases h'
      · intro h'
        omega

theorem isFaithful_iff : r.isFaithful versions packages = true ↔
    ∃ (place : Nat) (id : PackageId) (p : Package), r.order = place ∧
      (versions.listAt r.name)[place]? = some id ∧
      packages[id]? = some p ∧ p.evr = r.evr := by
  simp only [IndexRow.isFaithful, Option.any_eq_true, decide_eq_true_eq,
    IndexRow.package?, Option.bind_eq_bind, Option.bind_eq_some_iff,
    place?_eq_some_iff]
  constructor
  · rintro ⟨p, ⟨place, hplace, id, hid, hp⟩, hevr⟩
    exact ⟨place, id, p, hplace, hid, hp, hevr⟩
  · rintro ⟨place, id, p, hplace, hid, hp, hevr⟩
    exact ⟨p, ⟨place, hplace, id, hid, hp⟩, hevr⟩

end IndexRow

namespace Tables

/-- The detail of a package. Of several rows with its number the last one
counts. -/
def detail? (packages : List (PackageId × Package)) (id : PackageId) :
    Option Package :=
  (valuesOf packages id).getLast?

/-- The rows of the two tables that describe the order of versions keep their
contract: under every name the places are the numbers from zero on, and a row of
the index stands for a row of the version table whose package has the version. -/
structure PositionalContract (updates : List UpdateRow) (index : List IndexRow)
    (packages : List (PackageId × Package)) : Prop where
  gapless : ∀ name,
    Gapless ((updates.filter (·.name = name)).map (·.order))
  indexed : ∀ r ∈ index, ∃ u ∈ updates, u.name = r.name ∧ u.order = r.order ∧
    ∃ p, detail? packages u.package = some p ∧ p.evr = r.evr

/-- With the rows of the version table in order, a row of the index fits exactly
if it stands for one of them. -/
theorem isFaithful_iff_of_gapless {s : Snapshot} {t : Tables}
    (hs : t.DeliveredBy s)
    (h : ∀ name, Gapless ((t.rowsOf name).map (·.order))) {r : IndexRow} :
    r.isFaithful t.versionsByName (.ofPairs t.packages) = true ↔
      ∃ u ∈ t.updates, u.name = r.name ∧ u.order = r.order ∧
        ∃ p, detail? t.packages u.package = some p ∧ p.evr = r.evr := by
  simp only [detail?, IndexRow.isFaithful_iff, listAt_versionsByName,
    List.getElem?_map, Option.map_eq_some_iff, getElem?_rowsOf_iff hs (h _),
    Dict.getElem?_ofPairs]
  constructor
  · rintro ⟨place, id, p, hplace, ⟨u, ⟨hu, hname, horder⟩, rfl⟩, hp, hevr⟩
    exact ⟨u, hu, hname, horder.trans hplace.symm, p, hp, hevr⟩
  · rintro ⟨u, hu, hname, horder, p, hp, hevr⟩
    obtain ⟨place, hu'⟩ := List.mem_iff_getElem?.1 (mem_rowsOf.2 ⟨hu, hname⟩)
    have hplace := order_eq_of_getElem? hs (h _) hu'
    exact ⟨place, u.package, p, horder.symm.trans hplace,
      ⟨u, ⟨hu, hname, hplace⟩, rfl⟩, hp, hevr⟩

/-- There are no violations if neither of the tables has any. -/
theorem no_violations_iff_rows {t : Tables} : t.orderingViolations = 0 ↔
    t.misplacedVersions = 0 ∧ ∀ r ∈ t.index,
      r.isFaithful t.versionsByName (.ofPairs t.packages) = true := by
  rw [orderingViolations, Nat.add_eq_zero_iff, List.length_eq_zero_iff,
    List.filter_eq_nil_iff]
  simp only [Bool.not_eq_true', Bool.not_eq_false]

theorem orderingViolations_eq_zero_iff {s : Snapshot} {t : Tables}
    (h : t.DeliveredBy s) : t.orderingViolations = 0 ↔
      PositionalContract t.updates t.index t.packages := by
  rw [no_violations_iff_rows, misplacedVersions_eq_zero_iff h]
  constructor
  · rintro ⟨hgapless, hindex⟩
    exact ⟨hgapless, fun r hr =>
      (isFaithful_iff_of_gapless h hgapless).1 (hindex r hr)⟩
  · rintro ⟨hgapless, hindex⟩
    exact ⟨hgapless, fun r hr =>
      (isFaithful_iff_of_gapless h hgapless).2 (hindex r hr)⟩

end Tables

/-! ## Stored rows -/

/-- Reading a table decodes its rows as they are stored, and sorts them. -/
theorem Layout.decode_of_read {ρ : Type} {l : Layout ρ} {s : Snapshot}
    {rows : List ρ} (h : l.read s = .ok rows) :
    ∃ stored, l.decode s = some stored ∧ rows = stableSort l.compare stored := by
  rw [Layout.read] at h
  split at h
  · next stored hstored =>
      cases h
      exact ⟨stored, hstored, rfl⟩
  · cases h

theorem Tables.read_versions {s : Snapshot} {t : Tables}
    (h : Tables.read s = .ok t) : packageLayout.read s = .ok t.packages ∧
      updateLayout.read s = .ok t.updates ∧
      indexLayout.read s = .ok t.index := by
  simp only [Tables.read, bind_eq_ok] at h
  obtain ⟨_, -, _, -, _, -, _, -, _, -, _, hpackages, _, hupdates, _, hindex,
    _, -, _, -, _, -, _, -, _, -, _, -, _, -, _, -, _, -, _, -, _, -, _, -,
    _, -, _, -, _, -, h⟩ := h
  cases h
  exact ⟨hpackages, hupdates, hindex⟩

/-- The rows of one package stay in their order when all are sorted. -/
theorem Tables.detail?_stableSort (rows : List (PackageId × Package))
    (id : PackageId) :
    detail? (stableSort packageLayout.compare rows) id = detail? rows id := by
  have : Std.TransCmp packageLayout.compare :=
    inferInstanceAs (Std.TransCmp (compareOn Prod.fst))
  rw [detail?, detail?, valuesOf, valuesOf, filter_stableSort,
    stableSort_of_sorted]
  refine List.pairwise_of_forall_mem_list fun x hx y hy => ?_
  have hids : x.1 = y.1 := (of_decide_eq_true (List.mem_filter.1 hx).2).trans
    (of_decide_eq_true (List.mem_filter.1 hy).2).symm
  show (compare x.1 y.1).isLE = true
  rw [hids, Std.ReflOrd.compare_self]
  rfl

/-- The contract is about the rows and not about how they are stored. -/
theorem Tables.positionalContract_stableSort_iff {updates : List UpdateRow}
    {index : List IndexRow} {packages : List (PackageId × Package)} :
    PositionalContract (stableSort updateLayout.compare updates)
        (stableSort indexLayout.compare index)
        (stableSort packageLayout.compare packages) ↔
      PositionalContract updates index packages := by
  have hgapless : ∀ name, Gapless (((stableSort updateLayout.compare
      updates).filter (·.name = name)).map (·.order)) ↔
        Gapless ((updates.filter (·.name = name)).map (·.order)) := fun name =>
    Gapless.congr (((stableSort_perm _ updates).filter _).map _)
  constructor
  · rintro ⟨h, hindex⟩
    refine ⟨fun name => (hgapless name).1 (h name), ?_⟩
    simpa only [mem_stableSort, detail?_stableSort] using hindex
  · rintro ⟨h, hindex⟩
    refine ⟨fun name => (hgapless name).2 (h name), ?_⟩
    simpa only [mem_stableSort, detail?_stableSort] using hindex

/-- No row of the index has a negative place where the contract is kept. -/
theorem Tables.PositionalContract.order_nonneg {updates : List UpdateRow}
    {index : List IndexRow} {packages : List (PackageId × Package)}
    (h : PositionalContract updates index packages) {r : IndexRow}
    (hr : r ∈ index) : 0 ≤ r.order := by
  obtain ⟨u, hu, -, horder, -⟩ := h.indexed r hr
  have hmem : u.order ∈ (updates.filter (·.name = u.name)).map (·.order) :=
    List.mem_map_of_mem (List.mem_filter.2 ⟨hu, decide_eq_true rfl⟩)
  obtain ⟨place, -, hplace⟩ :=
    List.mem_map.1 ((h.gapless u.name).mem_iff.1 hmem)
  rw [← horder, ← hplace]
  exact Int.natCast_nonneg place

/-- A snapshot that loads has no violations of the order of versions exactly if
its rows, as they are stored, keep the contract. No row of the index has a
negative place then. -/
theorem no_violations_iff {s : Snapshot} {c : Catalog}
    (hload : Catalog.load s = .ok c) :
    ∃ updates index packages, updateLayout.decode s = some updates ∧
      indexLayout.decode s = some index ∧
      packageLayout.decode s = some packages ∧
      (c.orderingViolations = 0 ↔
        Tables.PositionalContract updates index packages) ∧
      (c.orderingViolations = 0 → ∀ r ∈ index, 0 ≤ r.order) := by
  obtain ⟨t, f, hread, -, rfl⟩ := Catalog.load_eq_ok_iff.1 hload
  obtain ⟨hpackages, hupdates, hindex⟩ := Tables.read_versions hread
  obtain ⟨packages, hpackages, hp⟩ := Layout.decode_of_read hpackages
  obtain ⟨updates, hupdates, hu⟩ := Layout.decode_of_read hupdates
  obtain ⟨index, hindex, hi⟩ := Layout.decode_of_read hindex
  have hiff : (t.catalog f).orderingViolations = 0 ↔
      Tables.PositionalContract updates index packages := by
    rw [← Tables.positionalContract_stableSort_iff, ← hp, ← hu, ← hi]
    exact Tables.orderingViolations_eq_zero_iff (Tables.read_delivers hread)
  exact ⟨updates, index, packages, hupdates, hindex, hpackages, hiff,
    fun hzero _ hr => (hiff.1 hzero).order_nonneg hr⟩

theorem no_violations_iff_kernel :
    Catalog.load kernelSnapshot =
      .ok (kernelTables.catalog kernelFreshness) ∧
    (kernelTables.catalog kernelFreshness).orderingViolations = 0 ∧
    ∃ updates index packages,
      updateLayout.decode kernelSnapshot = some updates ∧
      indexLayout.decode kernelSnapshot = some index ∧
      packageLayout.decode kernelSnapshot = some packages ∧
      Tables.PositionalContract updates index packages := by
  have hzero : (kernelTables.catalog kernelFreshness).orderingViolations = 0 := by
    decide +kernel
  obtain ⟨updates, index, packages, hupdates, hindex, hpackages, hiff, -⟩ :=
    no_violations_iff load_kernelSnapshot
  exact ⟨load_kernelSnapshot, hzero, updates, index, packages, hupdates, hindex,
    hpackages, hiff.1 hzero⟩

end Advisory
