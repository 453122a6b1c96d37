import Advisory.Proofs.Findings
import Advisory.Proofs.Progress

/-!
# A newer build sees no more updates

Of two builds of one package the one that stands further back is offered a
part of what the other one is offered, as long as its repositories have no
product and no release that those of the other one lack. Candidates are what
stands behind the last place of the installed version, so they become fewer
as this place moves back, and at each of them a narrower scope finds less. The
lists are parts of one another because the order of places, errata and
repositories in which they are searched does not depend on the installed
build.

One thing seems to stand against it. A package that is the last one of its
name is answered an empty list without a search, and a build that stands
further back and is not the last one is searched for. But the last one stands
at the last place only, if it stands nowhere else; so there are no candidates
behind its version either, nor behind any version whose places reach further
back.
-/

namespace Advisory

/-- The products and the releases of the repositories of one package are among
those of another one. A release that is missing counts as an empty one. -/
structure Catalog.ScopeWithin (c : Catalog) (id id' : PackageId) : Prop where
  product : ∀ repo ∈ c.repositoriesOf id, ∃ repo' ∈ c.repositoriesOf id',
    repo'.productId = repo.productId
  release : ∀ repo ∈ c.repositoriesOf id, ∃ repo' ∈ c.repositoriesOf id',
    repo'.releasever.getD "" = repo.releasever.getD ""

/-- A text stands for a key under which a package is installed, and the places
of its version end at some place. -/
structure Catalog.PlacedAt (c : Catalog) (text : String) (key : PackageKey)
    (id : PackageId) (last : Nat) : Prop where
  denotes : c.Denotes text key
  installs : c.Installs key id
  greatest : c.greatestPlace key.name key.evr = some last

namespace Catalog

variable {c : Catalog} {r : UpdatesRequest} {o : UpdateOptions}

theorem placedAt_of_placed (h : c.PlacesAscend) {text : String}
    {key : PackageKey} {i : Installed} {last : Nat}
    (hkey : c.Denotes text key)
    (hi : (Nevra.parse text).toOption.bind c.installed? = some i)
    (hlast : c.greatestPlace key.name key.evr = some last) :
    c.PlacedAt text key i.package last := by
  obtain ⟨key', hkey', hplaces⟩ := (placed_iff h).1 hi
  obtain rfl := denotes_unique hkey hkey'
  exact ⟨hkey, hplaces.installs, hlast⟩

/-! ## Candidates -/

/-- Behind the last one of a name there are no candidates. -/
theorem Places.drop_next_eq_nil {key : PackageKey} {i : Installed}
    (h : c.Places key i) (hnodup : i.versions.Nodup)
    (hlast : i.versions.getLast? = some i.package) :
    i.versions.drop i.next = [] := by
  obtain ⟨place, ⟨hplace, hstands, -⟩, -⟩ := h.installs
  rw [← h.versions] at hstands
  rw [List.getLast?_eq_getElem?] at hlast
  obtain ⟨hlt, hget⟩ := List.getElem?_eq_some_iff.1 hstands
  obtain ⟨hlt', hget'⟩ := List.getElem?_eq_some_iff.1 hlast
  -- The package stands at one place only, so this is the last one.
  have hend : place = i.versions.length - 1 :=
    (List.Nodup.getElem_inj_iff hnodup).1 (hget.trans hget'.symm)
  have hnext := (h.behind i.next).1 (Nat.le_refl _) place hplace
  exact List.drop_eq_nil_of_le (by omega)

/-- Where no package stands twice under its name, the last one is searched
for like any other. -/
theorem Places.findings_eq {key : PackageKey} {i : Installed}
    (h : c.Places key i) (hnodup : i.versions.Nodup) : c.findings r o i =
      (i.versions.drop i.next).flatMap
        (c.findingsAt r o (c.repositoriesOf i.package) i.arch) := by
  rw [findings]
  split
  · next hlast => rw [h.drop_next_eq_nil hnodup hlast]; rfl
  · rfl

/-- Where the places of a version reach further back, the search begins
further back. -/
theorem Places.next_le {key key' : PackageKey} {i i' : Installed}
    (h : c.Places key i) (h' : c.Places key' i') {last last' : Nat}
    (hlast : c.greatestPlace key.name key.evr = some last)
    (hlast' : c.greatestPlace key'.name key'.evr = some last')
    (hle : last ≤ last') : i.next ≤ i'.next := by
  rw [h.behind]
  intro place hplace
  have hmax := (List.max?_eq_some_iff.1 hlast).2 place hplace
  have hmem := (List.max?_eq_some_iff.1 hlast').1
  have hbehind := (h'.behind i'.next).1 (Nat.le_refl _) last' hmem
  omega

/-! ## Scopes -/

theorem ScopeWithin.inScope {id id' : PackageId} (h : c.ScopeWithin id id')
    {repo : Repository} (hin : inScope (c.repositoriesOf id) repo = true) :
    inScope (c.repositoriesOf id') repo = true := by
  rw [inScope_iff] at hin ⊢
  obtain ⟨⟨d, hd, hproduct⟩, ⟨d', hd', hrelease⟩⟩ := hin
  obtain ⟨e, he, hproduct'⟩ := h.product d hd
  obtain ⟨e', he', hrelease'⟩ := h.release d' hd'
  exact ⟨⟨e, he, hproduct'.trans hproduct⟩,
    ⟨e', he', hrelease'.trans hrelease⟩⟩

variable {own own' : List Repository}

theorem updatesThrough_sublist (h : ∀ repo, inScope own repo = true →
      inScope own' repo = true) (id : PackageId) (p : Package)
    (x : ErratumId) : (c.updatesThrough r o own id p x).Sublist
      (c.updatesThrough r o own' id p x) := by
  rw [updatesThrough, updatesThrough]
  split
  · exact List.Sublist.refl _
  · split
    · exact List.Sublist.refl _
    · exact (List.monotone_filter_right _ h).map _

theorem findingsAt_sublist (h : ∀ repo, inScope own repo = true →
      inScope own' repo = true) (arch : ArchId) (id : PackageId) :
    (c.findingsAt r o own arch id).Sublist
      (c.findingsAt r o own' arch id) := by
  rw [findingsAt, findingsAt]
  split
  · exact List.Sublist.refl _
  · split
    · exact List.Sublist.flatMap_right _
        fun x _ => (updatesThrough_sublist h id _ x).map _
    · exact List.Sublist.refl _

/-- What is found from further back in a narrower scope is a part of what is
found. -/
theorem Places.findings_sublist {key key' : PackageKey} {i i' : Installed}
    (h : c.Places key i) (h' : c.Places key' i') (hnodup : i.versions.Nodup)
    (hversions : i'.versions = i.versions) (harch : i'.arch = i.arch)
    (hnext : i.next ≤ i'.next) (hscope : c.ScopeWithin i'.package i.package) :
    (c.findings r o i').Sublist (c.findings r o i) := by
  rw [h.findings_eq hnodup, h'.findings_eq (hversions ▸ hnodup), hversions,
    harch]
  have hdrop : (i.versions.drop i'.next).Sublist (i.versions.drop i.next) :=
    List.drop_sublist_drop_left _ hnext
  exact (hdrop.flatMap _).trans (List.Sublist.flatMap_right _ fun id _ =>
    findingsAt_sublist (fun _ => hscope.inScope) i.arch id)

end Catalog

/-- Where no package stands twice under its name, of two texts of a request
that stand for installed packages of one name and one architecture the one
whose version reaches further back is answered a part of what the other one is
answered, unless its repositories widen the scope. -/
theorem updates_shrink {s : Snapshot} {c : Catalog}
    (hload : Catalog.load s = .ok c)
    (hnodup : ∀ name, (c.versions.listAt name).Nodup) (r : UpdatesRequest)
    (o : UpdateOptions) {text text' : String} (ht : text ∈ r.packages.getD [])
    (ht' : text' ∈ r.packages.getD []) {key key' : PackageKey}
    {id id' : PackageId} {last last' : Nat}
    (h : c.PlacedAt text key id last) (h' : c.PlacedAt text' key' id' last')
    (hname : key'.name = key.name) (harch : key'.arch = key.arch)
    (hle : last ≤ last') (hscope : c.ScopeWithin id' id) :
    ∃ older newer, (r.resolve c o).listOf? text = some older ∧
      (r.resolve c o).listOf? text' = some newer ∧ newer.Sublist older := by
  have hascend := Catalog.load_placesAscend hload
  -- Both texts are placed where they stand.
  obtain ⟨place, hs, -⟩ := h.installs
  obtain ⟨place', hs', -⟩ := h'.installs
  obtain ⟨i, hi⟩ := Catalog.exists_places hascend hs
  obtain ⟨i', hi'⟩ := Catalog.exists_places hascend hs'
  obtain rfl := Catalog.installs_unique h.installs hi.installs
  obtain rfl := Catalog.installs_unique h'.installs hi'.installs
  refine ⟨c.updatesOf r o i, c.updatesOf r o i', ?_, ?_, ?_⟩
  · rw [UpdatesRequest.listOf?_resolve, if_pos ht,
      (Catalog.placed_iff hascend).2 ⟨key, h.denotes, hi⟩, Option.map_some]
  · rw [UpdatesRequest.listOf?_resolve, if_pos ht',
      (Catalog.placed_iff hascend).2 ⟨key', h'.denotes, hi'⟩, Option.map_some]
  · refine Catalog.updatesOf_sublist (hi.findings_sublist hi' ?_ ?_ ?_ ?_
      hscope)
    · rw [hi.versions]
      exact hnodup key.name
    · rw [hi.versions, hi'.versions, hname]
    · rw [hi.arch, hi'.arch, harch]
    · exact hi.next_le hi' h.greatest h'.greatest hle

/-- A request for the two older ones of three builds. -/
def streamedRequest : UpdatesRequest := { kernelRequest with
  packages := some ["kernel-4-1.x86_64", "kernel-4-2.x86_64"] }

/-- The updates that the snapshot with three builds offers to the oldest of
them. -/
def streamedUpdates : List Update := [
  ⟨"kernel-4-2.x86_64", "RHSA-2020:1", "baseos", "", "8"⟩,
  ⟨"kernel-4-3.x86_64", "RHBA-2020:2", "appstream", "", "8"⟩,
  ⟨"kernel-4-3.x86_64", "RHBA-2020:2", "baseos", "", "8"⟩]

/-- The second build is offered what the oldest one is, less itself. -/
theorem updates_shrink_streamed :
    Catalog.load streamedSnapshot = .ok streamedCatalog ∧
    (∀ name, (streamedCatalog.versions.listAt name).Nodup) ∧
    "kernel-4-1.x86_64" ∈ streamedRequest.packages.getD [] ∧
    "kernel-4-2.x86_64" ∈ streamedRequest.packages.getD [] ∧
    streamedCatalog.PlacedAt "kernel-4-1.x86_64" ⟨⟨1⟩, ⟨1⟩, ⟨1⟩⟩ ⟨10⟩ 0 ∧
    streamedCatalog.PlacedAt "kernel-4-2.x86_64" ⟨⟨1⟩, ⟨2⟩, ⟨1⟩⟩ ⟨20⟩ 1 ∧
    streamedCatalog.ScopeWithin ⟨20⟩ ⟨10⟩ ∧
    (streamedRequest.resolve streamedCatalog ⟨false, false⟩).listOf?
      "kernel-4-1.x86_64" = some streamedUpdates ∧
    (streamedRequest.resolve streamedCatalog ⟨false, false⟩).listOf?
      "kernel-4-2.x86_64" = some (streamedUpdates.drop 1) ∧
    (streamedUpdates.drop 1).Sublist streamedUpdates := by
  have hnodup : ∀ name, (streamedCatalog.versions.listAt name).Nodup :=
    Dict.nodup_listAt_group (by decide)
  have hplaces := Catalog.load_placesAscend load_streamedSnapshot
  have hold : streamedCatalog.PlacedAt "kernel-4-1.x86_64"
      ⟨⟨1⟩, ⟨1⟩, ⟨1⟩⟩ ⟨10⟩ 0 :=
    Catalog.placedAt_of_placed (i := ⟨⟨10⟩, ⟨1⟩, [⟨10⟩, ⟨20⟩, ⟨30⟩], 1⟩) hplaces
      ⟨⟨"kernel", 0, "4", "1", "x86_64"⟩, rfl, by decide +kernel,
        by decide +kernel, by decide +kernel⟩
      (by decide +kernel) (by decide +kernel)
  have hnew : streamedCatalog.PlacedAt "kernel-4-2.x86_64"
      ⟨⟨1⟩, ⟨2⟩, ⟨1⟩⟩ ⟨20⟩ 1 :=
    Catalog.placedAt_of_placed (i := ⟨⟨20⟩, ⟨1⟩, [⟨10⟩, ⟨20⟩, ⟨30⟩], 2⟩) hplaces
      ⟨⟨"kernel", 0, "4", "2", "x86_64"⟩, rfl, by decide +kernel,
        by decide +kernel, by decide +kernel⟩
      (by decide +kernel) (by decide +kernel)
  have hscope : streamedCatalog.ScopeWithin ⟨20⟩ ⟨10⟩ :=
    ⟨by decide +kernel, by decide +kernel⟩
  have ht : "kernel-4-1.x86_64" ∈ streamedRequest.packages.getD [] := by
    decide
  have ht' : "kernel-4-2.x86_64" ∈ streamedRequest.packages.getD [] := by
    decide
  have holder : (streamedRequest.resolve streamedCatalog
      ⟨false, false⟩).listOf? "kernel-4-1.x86_64" =
        some streamedUpdates := by decide +kernel
  have hnewer : (streamedRequest.resolve streamedCatalog
      ⟨false, false⟩).listOf? "kernel-4-2.x86_64" =
        some (streamedUpdates.drop 1) := by decide +kernel
  obtain ⟨older, newer, h, h', hsub⟩ := updates_shrink load_streamedSnapshot
    hnodup streamedRequest ⟨false, false⟩ ht ht' hold hnew rfl rfl
    (by decide) hscope
  rw [holder] at h
  rw [hnewer] at h'
  cases h
  cases h'
  exact ⟨load_streamedSnapshot, hnodup, ht, ht', hold, hnew, hscope, holder,
    hnewer, hsub⟩

end Advisory
