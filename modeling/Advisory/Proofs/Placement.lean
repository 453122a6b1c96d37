import Advisory.Query.Updates
import Advisory.Proofs.Delivery
import Advisory.Proofs.Dictionaries

/-!
# Where an installed package stands

Which package a text stands for is looked for among the places that the
index gives to the version: the installed package is the one at the greatest
of them that holds a package of the wanted architecture, and candidates stand
behind the greatest of them all. The engine finds both by taking the last
element of a list. That is the greatest one because rows of the index are
delivered by name and place, so the places under any key ascend; everything
else here is independent of how the catalogue came about.

`Catalog.Denotes`, `Catalog.StandsAt` and `Catalog.Installs` say where a
package stands without the engine, and `Catalog.placed_iff` says that the
engine finds exactly that.
-/

namespace Advisory

/-! ## Places ascend -/

/-- The places under every key of the index ascend. -/
def Catalog.PlacesAscend (c : Catalog) : Prop :=
  ∀ key, (c.positions.listAt key).Pairwise (· ≤ ·)

/-- Of two rows of the index in the order of delivery, the later one names no
smaller place under the same name. -/
theorem IndexRow.place_le {a b : IndexRow} {p q : Nat}
    (h : (indexLayout.compare a b).isLE) (hname : a.name = b.name)
    (hp : a.place? = some p) (hq : b.place? = some q) : p ≤ q := by
  have hcmp : ((compare a.name b.name).then (compare a.order b.order)).isLE :=
    h
  rw [hname, Std.ReflOrd.compare_self, Ordering.eq_then,
    Int.isLE_compare] at hcmp
  simp only [IndexRow.place?] at hp hq
  split at hp
  · split at hq
    · injection hp with hp
      injection hq with hq
      omega
    · cases hq
  · cases hp

/-- Rows in the order of delivery give ascending places to every key. -/
theorem places_ascend {rows : List IndexRow}
    (h : Sorted indexLayout.compare rows) (key : NameId × EvrId) :
    (valuesOf (rows.filterMap fun r => r.place?.map ((r.name, r.evr), ·))
      key).Pairwise (· ≤ ·) := by
  rw [valuesOf, List.pairwise_map]
  -- Rows under one key have one name, so their places ascend with the rows.
  have hrows : (rows.filterMap fun r =>
      r.place?.map ((r.name, r.evr), ·)).Pairwise
        fun a b => a.1 = b.1 → a.2 ≤ b.2 := by
    rw [List.pairwise_filterMap]
    refine h.imp fun {a b} hab => ?_
    intro x hx y hy hkey
    obtain ⟨p, hp, rfl⟩ := Option.map_eq_some_iff.1 hx
    obtain ⟨q, hq, rfl⟩ := Option.map_eq_some_iff.1 hy
    exact IndexRow.place_le hab (congrArg Prod.fst hkey) hp hq
  refine (List.Pairwise.filter _ hrows).imp_of_mem ?_
  intro a b ha hb hab
  have hka := (List.mem_filter.1 ha).2
  have hkb := (List.mem_filter.1 hb).2
  simp only [decide_eq_true_eq] at hka hkb
  exact hab (hka.trans hkb.symm)

theorem Tables.placesAscend {s : Snapshot} {t : Tables} {f : Freshness}
    (h : t.DeliveredBy s) : (t.catalog f).PlacesAscend := by
  intro key
  show ((Dict.group _).listAt key).Pairwise (· ≤ ·)
  rw [Dict.listAt_group_eq_valuesOf]
  exact places_ascend h.index.sorted key

theorem Catalog.load_placesAscend {s : Snapshot} {c : Catalog}
    (h : Catalog.load s = .ok c) : c.PlacesAscend := by
  obtain ⟨t, f, ht, -, rfl⟩ := Catalog.load_eq_ok_iff.1 h
  exact Tables.placesAscend (Tables.read_delivers ht)

/-- Looking from the end, the first element that has a value is the greatest
one that has. -/
theorem exists_greatest_of_findSome? {α : Type} {places : List Nat}
    (h : places.Pairwise (· ≤ ·)) {f : Nat → Option α} {x : α}
    (hx : places.reverse.findSome? f = some x) :
    ∃ p ∈ places, f p = some x ∧
      ∀ q ∈ places, ∀ y, f q = some y → q ≤ p := by
  obtain ⟨later, p, earlier, hsplit, hp, hnone⟩ :=
    List.findSome?_eq_some_iff.1 hx
  have hplaces : places = earlier.reverse ++ p :: later.reverse := by
    rw [← List.reverse_reverse places, hsplit]
    simp
  rw [hplaces] at h
  refine ⟨p, by simp [hplaces], hp, fun q hq y hy => ?_⟩
  rw [hplaces, List.mem_append, List.mem_cons] at hq
  rcases hq with hq | rfl | hq
  · exact (List.pairwise_append.1 h).2.2 q hq p List.mem_cons_self
  · exact Nat.le_refl q
  · rw [hnone q (List.mem_reverse.1 hq)] at hy
    cases hy

/-- In an ascending list the last element that has a value is the greatest
one that has. -/
theorem getLast?_filterMap_ascending {α : Type} {places : List Nat}
    (h : places.Pairwise (· ≤ ·)) {f : Nat → Option α} {x : α} :
    (places.filterMap f).getLast? = some x ↔
      ∃ p ∈ places, f p = some x ∧
        ∀ q ∈ places, ∀ y, f q = some y → q ≤ p := by
  rw [List.getLast?_filterMap]
  constructor
  · exact exists_greatest_of_findSome? h
  · intro h'
    obtain ⟨p, hp, hpx, hmax⟩ := h'
    cases hy : places.reverse.findSome? f with
    | none =>
        have hnone := List.findSome?_eq_none_iff.1 hy p (by simpa using hp)
        rw [hpx] at hnone
        cases hnone
    | some y =>
        obtain ⟨q, hq, hqy, hqmax⟩ := exists_greatest_of_findSome? h hy
        have hpq : p = q :=
          Nat.le_antisymm (hqmax p hp x hpx) (hmax q hq y hqy)
        rw [← hqy, ← hpq, hpx]

theorem exists_getLast? {α : Type} {xs : List α} {x : α} (h : x ∈ xs) :
    ∃ last, xs.getLast? = some last :=
  ⟨_, List.getLast?_eq_getLast_of_ne_nil (List.ne_nil_of_mem h)⟩

/-- What is behind the last place of an ascending list is behind all of
them. -/
theorem lt_of_getLast?_ascending {places : List Nat}
    (h : places.Pairwise (· ≤ ·)) {last : Nat}
    (hlast : places.getLast? = some last) (q : Nat) :
    last + 1 ≤ q ↔ ∀ place ∈ places, place < q := by
  obtain ⟨earlier, rfl⟩ := List.getLast?_eq_some_iff.1 hlast
  constructor
  · intro hq place hplace
    rcases List.mem_append.1 hplace with hm | hm
    · have := (List.pairwise_append.1 h).2.2 place hm last (by simp)
      omega
    · rw [List.mem_singleton.1 hm]
      omega
  · intro hall
    exact hall last (by simp)

/-! ## Where a version stands -/

namespace Catalog

/-- A text stands for a name, a version and an architecture: it is a package
identifier, and each of its parts has a number. -/
def Denotes (c : Catalog) (text : String) (key : PackageKey) : Prop :=
  ∃ n, Nevra.parse text = .ok n ∧ c.nameIds[n.name]? = some key.name ∧
    c.evrIds[n.evr]? = some key.evr ∧ c.archIds[n.arch]? = some key.arch

/-- The index gives a place to a version of a name, and a package of the
architecture stands there. -/
def StandsAt (c : Catalog) (key : PackageKey) (place : Nat)
    (id : PackageId) : Prop :=
  place ∈ c.positions.listAt (key.name, key.evr) ∧
  (c.versions.listAt key.name)[place]? = some id ∧
  ∃ p, c.packages[id]? = some p ∧ p.arch = key.arch

/-- The installed package is the one at the greatest place of its version
that holds a package of its architecture. -/
def Installs (c : Catalog) (key : PackageKey) (id : PackageId) : Prop :=
  ∃ place, c.StandsAt key place id ∧
    ∀ place' id', c.StandsAt key place' id' → place' ≤ place

/-- What the engine goes by after it has placed a package. -/
structure Places (c : Catalog) (key : PackageKey) (i : Installed) :
    Prop where
  installs : c.Installs key i.package
  arch : i.arch = key.arch
  versions : i.versions = c.versions.listAt key.name
  /-- What stands from `next` on stands behind every place of the version. -/
  behind : ∀ q, i.next ≤ q ↔
    ∀ place ∈ c.positions.listAt (key.name, key.evr), place < q

theorem key?_eq_some_iff {c : Catalog} {n : Nevra} {key : PackageKey} :
    c.key? n = some key ↔ c.nameIds[n.name]? = some key.name ∧
      c.evrIds[n.evr]? = some key.evr ∧
      c.archIds[n.arch]? = some key.arch := by
  obtain ⟨name, evr, arch⟩ := key
  simp only [key?, Option.bind_eq_bind, Option.bind_eq_some_iff,
    Option.pure_def, Option.some.injEq, PackageKey.mk.injEq]
  constructor
  · intro h
    obtain ⟨_, hn, _, he, _, ha, rfl, rfl, rfl⟩ := h
    exact ⟨hn, he, ha⟩
  · intro h
    obtain ⟨hn, he, ha⟩ := h
    exact ⟨_, hn, _, he, _, ha, rfl, rfl, rfl⟩

/-- A text stands for the key that the engine looks up for it. -/
theorem denotes_iff {c : Catalog} {text : String} {key : PackageKey} :
    c.Denotes text key ↔
      ∃ n, Nevra.parse text = .ok n ∧ c.key? n = some key := by
  simp only [Denotes, key?_eq_some_iff]

/-- What is looked up at a place: the package there, if it has the wanted
architecture. -/
theorem standsAt_iff {c : Catalog} {key : PackageKey} {place : Nat}
    {id : PackageId} : c.StandsAt key place id ↔
      place ∈ c.positions.listAt (key.name, key.evr) ∧
      ((c.versions.listAt key.name)[place]?.filter fun id =>
        c.packages[id]?.any (·.arch = key.arch)) = some id := by
  rw [StandsAt, Option.filter_eq_some_iff]
  simp only [Option.any_eq_true, decide_eq_true_eq]

/-- The engine finds the installed package where it stands. -/
theorem getLast?_standing_iff {c : Catalog} (h : c.PlacesAscend)
    {key : PackageKey} {id : PackageId} :
    (((c.positions.listAt (key.name, key.evr)).filterMap
        ((c.versions.listAt key.name)[·]?)).filter fun id =>
      c.packages[id]?.any (·.arch = key.arch)).getLast? = some id ↔
      c.Installs key id := by
  rw [List.filter_filterMap, getLast?_filterMap_ascending (h _)]
  constructor
  · intro h'
    obtain ⟨place, hp, hid, hmax⟩ := h'
    refine ⟨place, standsAt_iff.2 ⟨hp, hid⟩, fun place' id' hs => ?_⟩
    obtain ⟨hp', hid'⟩ := standsAt_iff.1 hs
    exact hmax place' hp' id' hid'
  · intro h'
    obtain ⟨place, hs, hmax⟩ := h'
    obtain ⟨hp, hid⟩ := standsAt_iff.1 hs
    exact ⟨place, hp, hid, fun q hq y hy =>
      hmax q y (standsAt_iff.2 ⟨hq, hy⟩)⟩

/-- The engine places a text's key exactly where it stands. -/
theorem installed?_eq_some_iff {c : Catalog} (h : c.PlacesAscend) {n : Nevra}
    {i : Installed} : c.installed? n = some i ↔
      ∃ key, c.key? n = some key ∧ c.Places key i := by
  simp only [installed?, Option.bind_eq_bind, Option.bind_eq_some_iff,
    Option.pure_def, Option.some.injEq]
  constructor
  · intro h'
    obtain ⟨key, hkey, versions, hv, positions, hp, id, hid, last, hlast,
      rfl⟩ := h'
    obtain rfl := Dict.listAt_of_getElem? hv
    obtain rfl := Dict.listAt_of_getElem? hp
    exact ⟨key, hkey, (getLast?_standing_iff h).1 hid, rfl, rfl,
      lt_of_getLast?_ascending (h _) hlast⟩
  · intro h'
    obtain ⟨key, hkey, hplaces⟩ := h'
    obtain ⟨place, hs, -⟩ := hplaces.installs
    obtain ⟨last, hlast⟩ := exists_getLast? hs.1
    refine ⟨key, hkey, _, Dict.getElem?_of_mem_listAt
      (List.mem_of_getElem? hs.2.1), _, Dict.getElem?_of_mem_listAt hs.1,
      i.package, (getLast?_standing_iff h).2 hplaces.installs, last, hlast,
      ?_⟩
    have hbehind := lt_of_getLast?_ascending (h _) hlast
    have hnext : last + 1 = i.next := Nat.le_antisymm
      ((hbehind _).2 ((hplaces.behind _).1 (Nat.le_refl _)))
      ((hplaces.behind _).2 ((hbehind _).1 (Nat.le_refl _)))
    obtain ⟨package, arch, versions, next⟩ := i
    rw [hnext, ← hplaces.arch, ← hplaces.versions]

/-- Where some package stands, one is installed. -/
theorem exists_places {c : Catalog} (h : c.PlacesAscend) {key : PackageKey}
    {place : Nat} {id : PackageId} (hs : c.StandsAt key place id) :
    ∃ i, c.Places key i := by
  obtain ⟨last, hlast⟩ := exists_getLast? hs.1
  have hmem : id ∈ ((c.positions.listAt (key.name, key.evr)).filterMap
      ((c.versions.listAt key.name)[·]?)).filter fun id =>
        c.packages[id]?.any (·.arch = key.arch) := by
    rw [List.filter_filterMap]
    exact List.mem_filterMap.2 ⟨place, standsAt_iff.1 hs⟩
  obtain ⟨id', hid'⟩ := exists_getLast? hmem
  exact ⟨⟨id', key.arch, c.versions.listAt key.name, last + 1⟩,
    (getLast?_standing_iff h).1 hid', rfl, rfl,
    lt_of_getLast?_ascending (h _) hlast⟩

/-- A text is placed exactly where a key that it stands for is. -/
theorem placed_iff {c : Catalog} (h : c.PlacesAscend) {text : String}
    {i : Installed} :
    (Nevra.parse text).toOption.bind c.installed? = some i ↔
      ∃ key, c.Denotes text key ∧ c.Places key i := by
  simp only [Option.bind_eq_some_iff, toOption_eq_some_iff,
    installed?_eq_some_iff h, denotes_iff]
  constructor
  · intro h'
    obtain ⟨n, hn, key, hkey, hplaces⟩ := h'
    exact ⟨key, ⟨n, hn, hkey⟩, hplaces⟩
  · intro h'
    obtain ⟨key, ⟨n, hn, hkey⟩, hplaces⟩ := h'
    exact ⟨n, hn, key, hkey, hplaces⟩

theorem denotes_unique {c : Catalog} {text : String} {key key' : PackageKey}
    (h : c.Denotes text key) (h' : c.Denotes text key') : key = key' := by
  obtain ⟨n, hn, hk⟩ := denotes_iff.1 h
  obtain ⟨n', hn', hk'⟩ := denotes_iff.1 h'
  rw [hn] at hn'
  cases hn'
  exact Option.some.inj (hk.symm.trans hk')

theorem installs_unique {c : Catalog} {key : PackageKey}
    {id id' : PackageId} (h : c.Installs key id) (h' : c.Installs key id') :
    id = id' := by
  obtain ⟨place, hs, hmax⟩ := h
  obtain ⟨place', hs', hmax'⟩ := h'
  obtain rfl := Nat.le_antisymm (hmax' place id hs) (hmax place' id' hs')
  exact Option.some.inj (hs.2.1.symm.trans hs'.2.1)

end Catalog

end Advisory
