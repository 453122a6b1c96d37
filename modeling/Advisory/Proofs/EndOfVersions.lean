import Advisory.Proofs.Upgrades

/-!
# Behind the newest package there is nothing to find

A package at the end of the packages of its name is answered an empty list at
once. `Catalog.searchedEntry` is the entry of a text when this end is not
looked for and every installed package is searched for alike, and the two
entries are the same, as long as no package stands twice under its name.

The end is recognised by the number of the package, while a search begins
behind the last place of its version, whatever architecture stands there and
whether the index is right or has gaps. The two meet because a package that
stands only once stands at the last place when it is the last one, and the
index lists that place for its version: otherwise the package would not have
been found installed. So a search would begin behind the end.
-/

namespace Advisory

/-! ## Searching for every installed package -/

/-- What is answered about a text if every installed package is searched for,
the newest one of its name as well. -/
def Catalog.searchedEntry (c : Catalog) (r : UpdatesRequest)
    (o : UpdateOptions) (text : String) : PackageUpdates :=
  match (Nevra.parse text).toOption.bind c.installed? with
  | none => .unplaced
  | some i =>
    { c.placedEntry r o i with available := some (c.updatesBehind r o i) }

/-- The answer to a request if every installed package is searched for. -/
def UpdatesRequest.resolveSearching (r : UpdatesRequest) (c : Catalog)
    (o : UpdateOptions) : UpdatesAnswer :=
  { r.resolve c o with
    entries := .ofPairs ((r.packages.getD []).map fun text =>
      (text, c.searchedEntry r o text)) }

namespace Catalog

variable {c : Catalog} {r : UpdatesRequest} {o : UpdateOptions}

theorem Places.updatesBehind_eq_nil {key : PackageKey} {i : Installed}
    (h : c.Places key i) (hnodup : i.versions.Nodup)
    (hlast : i.versions.getLast? = some i.package) :
    c.updatesBehind r o i = [] := by
  rw [updatesBehind, h.drop_next_eq_nil hnodup hlast]
  rfl

theorem Places.updatesOf_eq_updatesBehind {key : PackageKey} {i : Installed}
    (h : c.Places key i) (hnodup : i.versions.Nodup) :
    c.updatesOf r o i = c.updatesBehind r o i := by
  rw [updatesOf]
  split
  · next hlast => rw [h.updatesBehind_eq_nil hnodup hlast]
  · rfl

variable (hplaces : c.PlacesAscend)
  (hnodup : ∀ name, (c.versions.listAt name).Nodup)

include hplaces hnodup

theorem updatesEntry_eq_searchedEntry (text : String) :
    c.updatesEntry r o text = c.searchedEntry r o text := by
  rw [updatesEntry, searchedEntry]
  cases hi : (Nevra.parse text).toOption.bind c.installed? with
  | none => rfl
  | some i =>
      obtain ⟨key, -, h⟩ := (placed_iff hplaces).1 hi
      have hversions : i.versions.Nodup := by
        rw [h.versions]
        exact hnodup key.name
      simp only [placedEntry, h.updatesOf_eq_updatesBehind hversions]

/-- Nothing is offered to the last package of a name. -/
theorem isEmpty_offer {key : PackageKey} {id : PackageId}
    (h : c.Installs key id)
    (hlast : (c.versions.listAt key.name).getLast? = some id) :
    IsEmpty (Offer c r o key id) := by
  have ⟨place, hs, _⟩ := h
  obtain ⟨i, hi⟩ := exists_places hplaces hs
  obtain rfl := installs_unique h hi.installs
  rw [← hi.versions] at hlast
  have hversions : i.versions.Nodup := by
    rw [hi.versions]
    exact hnodup key.name
  refine ⟨fun f => ?_⟩
  have hmem := (mem_updatesBehind hi).2 ⟨f, rfl⟩
  rw [hi.updatesBehind_eq_nil hversions hlast] at hmem
  cases hmem

end Catalog

/-- Where no package stands twice under its name, the last one of a name is
offered nothing, and what is answered to a request is what is answered if the
last one is searched for like any other. -/
theorem newest_needs_no_search {s : Snapshot} {c : Catalog}
    (hload : Catalog.load s = .ok c)
    (hnodup : ∀ name, (c.versions.listAt name).Nodup) (r : UpdatesRequest)
    (o : UpdateOptions) :
    (∀ key id, c.Installs key id →
      (c.versions.listAt key.name).getLast? = some id →
      IsEmpty (Offer c r o key id)) ∧
    (∀ text, c.updatesEntry r o text = c.searchedEntry r o text) ∧
    r.resolve c o = r.resolveSearching c o := by
  have hplaces := Catalog.load_placesAscend hload
  have hentry : ∀ text, c.updatesEntry r o text = c.searchedEntry r o text :=
    Catalog.updatesEntry_eq_searchedEntry hplaces hnodup
  refine ⟨fun key id => Catalog.isEmpty_offer hplaces hnodup, hentry, ?_⟩
  rw [UpdatesRequest.resolveSearching, UpdatesRequest.resolve]
  simp only [hentry]

/-- The last of three builds is searched for in vain. -/
theorem newest_needs_no_search_streamed :
    Catalog.load streamedSnapshot = .ok streamedCatalog ∧
    (∀ name, (streamedCatalog.versions.listAt name).Nodup) ∧
    streamedCatalog.Installs ⟨⟨1⟩, ⟨3⟩, ⟨1⟩⟩ ⟨30⟩ ∧
    (streamedCatalog.versions.listAt ⟨1⟩).getLast? = some ⟨30⟩ ∧
    IsEmpty (Offer streamedCatalog streamedRequest ⟨false, false⟩
      ⟨⟨1⟩, ⟨3⟩, ⟨1⟩⟩ ⟨30⟩) ∧
    streamedCatalog.searchedEntry streamedRequest ⟨false, false⟩
      "kernel-4-3.x86_64" = ⟨some [], none, none⟩ := by
  have hnodup : ∀ name, (streamedCatalog.versions.listAt name).Nodup :=
    Dict.nodup_listAt_group (by decide)
  have hinstalls : streamedCatalog.Installs ⟨⟨1⟩, ⟨3⟩, ⟨1⟩⟩ ⟨30⟩ :=
    (Catalog.getLast?_standing_iff
      (Catalog.load_placesAscend load_streamedSnapshot)).1 (by decide +kernel)
  have hlast : (streamedCatalog.versions.listAt ⟨1⟩).getLast? = some ⟨30⟩ := by
    decide +kernel
  obtain ⟨hempty, hentry, -⟩ := newest_needs_no_search load_streamedSnapshot
    hnodup streamedRequest ⟨false, false⟩
  refine ⟨load_streamedSnapshot, hnodup, hinstalls, hlast,
    hempty _ _ hinstalls hlast, ?_⟩
  rw [← hentry]
  decide +kernel

/-- Two builds of which the older one is listed once more behind the newer
one. -/
def relistedTables : Tables := { kernelTables with
  updates := [⟨⟨1⟩, ⟨10⟩, 0⟩, ⟨⟨1⟩, ⟨20⟩, 1⟩, ⟨⟨1⟩, ⟨10⟩, 2⟩] }

/-- A package that is listed twice is taken for the newest one, and not
offered what a search would find. -/
example :
    ((relistedTables.catalog kernelFreshness).updatesEntry kernelRequest
      ⟨false, false⟩ "kernel-4-1.x86_64").available = some [] ∧
    ((relistedTables.catalog kernelFreshness).searchedEntry kernelRequest
      ⟨false, false⟩ "kernel-4-1.x86_64").available =
        some [⟨"kernel-4-2.x86_64", "RHSA-2020:1", "baseos", "", "8"⟩] := by
  decide +kernel

end Advisory
