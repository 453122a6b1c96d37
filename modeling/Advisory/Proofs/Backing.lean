import Advisory.Proofs.Join
import Advisory.Proofs.Lookup
import Advisory.Proofs.Progress
import Advisory.Proofs.Vulnerabilities

/-!
# Offered updates are backed by the other endpoints

An update names a package, an erratum and a repository, and each of these
names can be looked up. What is found there has been put together from other
dictionaries than the update: the engine goes from packages to errata, the
erratum shows the packages it ships; the engine goes from packages to
repositories by number, a label shows the repositories that stand under it.
So the answers agree only if these dictionaries were filled from the same
rows, and only as far as no row is lost to a later one with its number or
name. Errata have to be unique for that in both; repositories need not be,
since the row that is kept stands under its label like any other.

The vulnerabilities of the erratum are then among those that the request is
told about, because nothing else is looked at to find these.
-/

namespace Advisory

/-! ## What the dictionaries share -/

/-- A known package that is among some numbers is shown on one side or the
other. -/
theorem Catalog.written_mem_splitBySource {c : Catalog} {ids : List PackageId}
    {id : PackageId} {p : Package} (hid : id ∈ ids)
    (hp : c.packages[id]? = some p) :
    c.written p ∈ (c.splitBySource ids).1 ∨
      c.written p ∈ (c.splitBySource ids).2 := by
  have hknown : p ∈ ids.filterMap (c.packages[·]?) :=
    List.mem_filterMap.2 ⟨id, hid, hp⟩
  cases hsource : c.isSource p with
  | false =>
      refine Or.inl (List.mem_map_of_mem (List.mem_filter.2 ⟨hknown, ?_⟩))
      rw [hsource]
      rfl
  | true =>
      exact Or.inr (List.mem_map_of_mem (List.mem_filter.2 ⟨hknown, hsource⟩))

/-- An erratum that is found from a package lists this package. -/
theorem Tables.mem_packages_of_ships {s : Snapshot} {t : Tables}
    (h : t.DeliveredBy s) (hids : (t.errata.map (·.id)).Nodup)
    (hnames : (t.errata.map (·.name)).Nodup) {f : Freshness}
    {id : PackageId} {x : ErratumId} {name : String} {e : Erratum}
    (hships : x ∈ (t.catalog f).packageErrata.listAt id)
    (hname : (t.catalog f).erratumNames[x]? = some name)
    (he : (t.catalog f).errata[name]? = some e) : id ∈ e.packages := by
  change x ∈ (Dict.group t.packageErrata).listAt id at hships
  rw [Dict.mem_listAt_group] at hships
  obtain ⟨row, hrow, heq⟩ := List.mem_map.1 (Dict.mem_of_getElem?_ofPairs hname)
  cases heq
  obtain ⟨e', he', hbecomes⟩ :=
    (errataByName_lists h hids hnames).record row hrow
  change t.errataByName[row.name]? = some e at he
  rw [he] at he'
  cases he'
  rw [hbecomes.packages, mem_valuesOf]
  exact List.mem_map.2 ⟨(id, row.id), hships, rfl⟩

/-- A repository that is found by number stands under its label. -/
theorem Tables.mem_labelIds {t : Tables} {f : Freshness} {id : RepositoryId}
    {repo : Repository} (h : (t.catalog f).repositories[id]? = some repo) :
    id ∈ (t.catalog f).labelIds.listAt repo.label := by
  have hrow : (id, repo) ∈ t.repositories := Dict.mem_of_getElem?_ofPairs h
  change id ∈ (Dict.group _).listAt repo.label
  rw [Dict.mem_listAt_group]
  exact List.mem_map.2 ⟨(id, repo), hrow, rfl⟩

/-! ## Updates of an answer are offers -/

theorem UpdatesRequest.exists_offer {c : Catalog} (h : c.PlacesAscend)
    {r : UpdatesRequest} {o : UpdateOptions} {u : Update}
    (hu : u ∈ (r.resolve c o).updates) :
    ∃ key installed, ∃ f : Offer c r o key installed, f.update = u := by
  obtain ⟨text, e, updates, he, hav, hu⟩ := UpdatesAnswer.mem_updates.1 hu
  rw [getElem?_resolve] at he
  split at he
  · cases he
    obtain ⟨key, installed, -, -, -, hlast, hoffers⟩ :=
      (Catalog.updatesEntry_isExact h r o text).placed updates hav
    by_cases hnewest :
        (c.versions.listAt key.name).getLast? = some installed
    · rw [hlast hnewest] at hu
      cases hu
    · exact ⟨key, installed, (hoffers hnewest u).1 hu⟩
  · cases he

/-! ## Backed updates -/

/-- What other endpoints answer about an update, given the vulnerabilities
that the request is told about. -/
structure Update.Backed (u : Update) (c : Catalog) (reported : List String) :
    Prop where
  /-- Whoever asks for the erratum is shown that it ships the package and
  fixes no vulnerability that is not reported. -/
  erratum : ∀ q : ErrataRequest, q.modifiedSince = none →
    AsksOnly q.names q.paging c.errata.keys u.erratum →
    ∃ a entry, (Query.errata q).process (some c) = .ok (.errata a) ∧
      a.entries = [(u.erratum, entry)] ∧
      (u.package ∈ entry.packages ∨ u.package ∈ entry.sourcePackages) ∧
      ∀ name ∈ entry.cves, name ∈ reported
  /-- Whoever asks for the label is shown a repository with the architecture
  and the release. -/
  repository : ∀ q : RepositoriesRequest, q.modifiedSince = none →
    AsksOnly q.labels q.paging c.labelIds.keys u.repository →
    ∃ a entries,
      (Query.repositories q).process (some c) = .ok (.repositories a) ∧
      a.entries = [(u.repository, entries)] ∧
      ∃ entry ∈ entries,
        entry.basearch = u.basearch ∧ entry.releasever = u.releasever

section Offers

variable {s : Snapshot} {t : Tables} {f : Freshness} {r : UpdatesRequest}
  {o : UpdateOptions} {key : PackageKey} {installed : PackageId}

theorem Offer.erratum_backed (h : t.DeliveredBy s)
    (hids : (t.errata.map (·.id)).Nodup)
    (hnames : (t.errata.map (·.name)).Nodup)
    (g : Offer (t.catalog f) r o key installed) {q : ErrataRequest}
    (hfilter : q.modifiedSince = none)
    (hasks : AsksOnly q.names q.paging (t.catalog f).errata.keys g.name) :
    ∃ a, (Query.errata q).process (some (t.catalog f)) = .ok (.errata a) ∧
      a.entries = [(g.name, (t.catalog f).erratumEntry g.erratum)] ∧
      (g.update.package ∈ ((t.catalog f).erratumEntry g.erratum).packages ∨
        g.update.package ∈
          ((t.catalog f).erratumEntry g.erratum).sourcePackages) := by
  obtain ⟨a, ha, hentries⟩ := ErrataRequest.process_single hasks
    (ErrataRequest.admits_of_unfiltered hfilter _) g.described
  have hships : g.candidate ∈ g.erratum.packages :=
    Tables.mem_packages_of_ships h hids hnames g.ships g.named g.described
  exact ⟨a, ha, hentries, Catalog.written_mem_splitBySource hships g.known⟩

theorem Offer.repository_backed (g : Offer (t.catalog f) r o key installed)
    {q : RepositoriesRequest} (hfilter : q.modifiedSince = none)
    (hasks : AsksOnly q.labels q.paging (t.catalog f).labelIds.keys
      g.repository.label) :
    ∃ a entries, (Query.repositories q).process (some (t.catalog f)) =
        .ok (.repositories a) ∧
      a.entries = [(g.repository.label, entries)] ∧
      g.repository.entry ∈ entries := by
  have hid := Tables.mem_labelIds g.detailed
  have hadmits : q.Admits (t.catalog f)
      ((t.catalog f).labelIds.listAt g.repository.label) := by
    refine ⟨g.repositoryId, hid, g.repository, g.detailed, ?_⟩
    intro since hsince
    rw [hfilter] at hsince
    cases hsince
  obtain ⟨a, ha, hentries⟩ := RepositoriesRequest.process_single hasks hadmits
    (Dict.getElem?_of_mem_listAt hid)
  refine ⟨a, _, ha, hentries, List.mem_map_of_mem ?_⟩
  exact List.mem_filterMap.2 ⟨g.repositoryId, hid, g.detailed⟩

/-- The vulnerabilities that the erratum of an update fixes are reported. -/
theorem Offer.cves_reported {c : Catalog} (g : Offer c r o key installed)
    (hu : g.update ∈ (r.resolve c o).updates) {name : String}
    (hname : name ∈ (c.erratumEntry g.erratum).cves) :
    name ∈ (r.vulnerabilities c).cves := by
  refine (r.mem_fixed_iff c o).2 ⟨g.update, hu, ?_⟩
  show name ∈ c.fixedBy g.name
  rw [Catalog.fixedBy, g.described]
  exact hname

end Offers

/-- Whoever is answered about updates is answered about vulnerabilities. -/
theorem UpdatesRequest.process_vulnerabilities {c : Catalog}
    {version : UpdatesVersion} {r : UpdatesRequest} {a : UpdatesAnswer}
    (h : (Query.updates version r).process (some c) = .ok (.updates a)) :
    a = r.resolve c (version.options r) ∧
    (Query.vulnerabilities r).process (some c) =
      .ok (.vulnerabilities (r.vulnerabilities c)) := by
  obtain ⟨_, hvalid, h⟩ := bind_eq_ok.1 h
  cases h
  exact ⟨rfl, Query.process_of_validate (q := .vulnerabilities r) hvalid⟩

/-- Where errata are unique by number and by name, every update of every
answer is backed: its erratum ships its package and fixes reported
vulnerabilities only, and its label stands for a repository as it says. -/
theorem updates_backed {s : Snapshot} {t : Tables} {c : Catalog}
    (hread : Tables.read s = .ok t) (hload : Catalog.load s = .ok c)
    (hids : (t.errata.map (·.id)).Nodup)
    (hnames : (t.errata.map (·.name)).Nodup) {version : UpdatesVersion}
    {r : UpdatesRequest} {a : UpdatesAnswer}
    (hanswer : (Query.updates version r).process (some c) =
      .ok (.updates a)) {u : Update} (hu : u ∈ a.updates) :
    ∃ b, (Query.vulnerabilities r).process (some c) =
        .ok (.vulnerabilities b) ∧ u.Backed c b.cves := by
  have hplaces := Catalog.load_placesAscend hload
  obtain ⟨f, rfl⟩ := Catalog.load_eq_catalog hread hload
  have hdel := Tables.read_delivers hread
  obtain ⟨rfl, hvul⟩ := UpdatesRequest.process_vulnerabilities hanswer
  obtain ⟨key, installed, g, rfl⟩ := UpdatesRequest.exists_offer hplaces hu
  refine ⟨_, hvul, fun q hfilter hasks => ?_, fun q hfilter hasks => ?_⟩
  · obtain ⟨a, ha, hentries, hships⟩ :=
      g.erratum_backed hdel hids hnames hfilter hasks
    exact ⟨a, _, ha, hentries, hships, fun _ hname =>
      g.cves_reported hu hname⟩
  · obtain ⟨a, entries, ha, hentries, hm⟩ :=
      g.repository_backed hfilter hasks
    exact ⟨a, entries, ha, hentries, _, hm, rfl, rfl⟩

/-- Requests by name reach what backs the update of the snapshot with
vulnerabilities. -/
theorem updates_backed_reported :
    Tables.read reportedSnapshot = .ok reportedTables ∧
    Catalog.load reportedSnapshot =
      .ok (reportedTables.catalog kernelFreshness) ∧
    (reportedTables.errata.map (·.id)).Nodup ∧
    (reportedTables.errata.map (·.name)).Nodup ∧
    ∃ a b, (Query.updates .third kernelRequest).process
        (some (reportedTables.catalog kernelFreshness)) =
          .ok (.updates a) ∧ kernelUpdate ∈ a.updates ∧
      (Query.vulnerabilities kernelRequest).process
        (some (reportedTables.catalog kernelFreshness)) =
          .ok (.vulnerabilities b) ∧
      kernelUpdate.Backed (reportedTables.catalog kernelFreshness) b.cves ∧
      AsksOnly (some ["RHSA-2020:1", "RHSA-2020:1"]) ⟨1, 1⟩
        (reportedTables.catalog kernelFreshness).errata.keys
        kernelUpdate.erratum ∧
      AsksOnly (some ["baseos", "baseos"]) ⟨1, 1⟩
        (reportedTables.catalog kernelFreshness).labelIds.keys
        kernelUpdate.repository := by
  have hids : (reportedTables.errata.map (·.id)).Nodup := by decide
  have hnames : (reportedTables.errata.map (·.name)).Nodup := by decide
  have hanswer : (Query.updates .third kernelRequest).process
      (some (reportedTables.catalog kernelFreshness)) =
        .ok (.updates (kernelRequest.resolve
          (reportedTables.catalog kernelFreshness) ⟨false, true⟩)) := rfl
  have hu : kernelUpdate ∈ (kernelRequest.resolve
      (reportedTables.catalog kernelFreshness) ⟨false, true⟩).updates := by
    decide +kernel
  obtain ⟨b, hb, hbacked⟩ := updates_backed read_reportedSnapshot
    load_reportedSnapshot hids hnames hanswer hu
  exact ⟨read_reportedSnapshot, load_reportedSnapshot, hids, hnames, _, b,
    hanswer, hu, hb, hbacked, asksOnly_literal rfl _ _,
    asksOnly_literal rfl _ _⟩

end Advisory
