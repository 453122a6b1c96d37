import Advisory.Proofs.Lookup
import Advisory.Proofs.Progress

/-!
# Updates and packages recognize the same texts

A text that stands for a package is looked up in two ways. The packages
endpoint has a dictionary from keys to packages; the updates endpoint looks at
the places that the index gives to the version and takes a package there that
has the architecture. The name of the package is compared in neither, and its
version only in the first, so the second way depends on tables that the first
does not read. It finds the same packages where these tables mean the same:
the version table has every package under its own name and nothing else, and
the index is sound and complete, it gives a version exactly the places where a
package of this version stands.
-/

namespace Advisory

namespace Catalog

variable {c : Catalog}

/-- The index gives no version a place where no package of it stands. -/
def IndexSound (c : Catalog) : Prop :=
  ∀ name evr place, place ∈ c.positions.listAt (name, evr) →
    ∃ id p, (c.versions.listAt name)[place]? = some id ∧
      c.packages[id]? = some p ∧ p.evr = evr

/-- A key belongs to a package that has a detail. -/
def Knows (c : Catalog) (key : PackageKey) : Prop :=
  ∃ id p, c.packageIds[key]? = some id ∧ c.packages[id]? = some p

/-! ## What each endpoint recognizes -/

/-- A text has a list of updates exactly if a package stands where the index
says. -/
theorem exists_available_iff (h : c.PlacesAscend) (r : UpdatesRequest)
    (o : UpdateOptions) (text : String) :
    (∃ updates, (c.updatesEntry r o text).available = some updates) ↔
      ∃ key, c.Denotes text key ∧ ∃ place id, c.StandsAt key place id := by
  have hnone := (updatesEntry_isExact h r o text).unplaced
  rw [unplaced_iff] at hnone
  rw [← Option.ne_none_iff_exists', Ne, hnone]
  simp only [not_forall, not_not, exists_prop]

theorem find?_eq_some_iff {n : Nevra} {id : PackageId} :
    c.find? n = some id ↔
      ∃ key, c.key? n = some key ∧ c.packageIds[key]? = some id := by
  rw [find?, Option.bind_eq_bind, Option.bind_eq_some_iff]

/-- A text is answered with the entry of the package that is found for it. -/
theorem packageEntry?_eq_some_iff {text : String} {entry : PackageEntry} :
    c.packageEntry? text = some entry ↔
      ∃ n id p, Nevra.parse text = .ok n ∧ c.find? n = some id ∧
        c.packages[id]? = some p ∧ c.packageEntry id p = entry := by
  unfold packageEntry?
  simp only [Option.bind_eq_bind, Option.bind_eq_some_iff,
    toOption_eq_some_iff, Option.pure_def, Option.some.injEq]
  constructor
  · intro h
    obtain ⟨n, hn, id, hid, p, hp, hentry⟩ := h
    exact ⟨n, id, p, hn, hid, hp, hentry⟩
  · intro h
    obtain ⟨n, id, p, hn, hid, hp, hentry⟩ := h
    exact ⟨n, hn, id, hid, p, hp, hentry⟩

/-- A text has a package entry exactly if its key is known. -/
theorem exists_packageEntry_iff {text : String} :
    (∃ entry, c.packageEntry? text = some entry) ↔
      ∃ key, c.Denotes text key ∧ c.Knows key := by
  simp only [packageEntry?_eq_some_iff, find?_eq_some_iff, denotes_iff]
  constructor
  · intro h
    obtain ⟨_, n, id, p, hn, ⟨key, hkey, hid⟩, hp, -⟩ := h
    exact ⟨key, ⟨n, hn, hkey⟩, id, p, hid, hp⟩
  · intro h
    obtain ⟨key, ⟨n, hn, hkey⟩, id, p, hid, hp⟩ := h
    exact ⟨_, n, id, p, hn, ⟨key, hkey, hid⟩, hp, rfl⟩

end Catalog

theorem UpdatesRequest.exists_entry_iff {c : Catalog} (h : c.PlacesAscend)
    {r : UpdatesRequest} (o : UpdateOptions) {text : String}
    (ht : text ∈ r.packages.getD []) :
    (∃ e updates, (r.resolve c o).entries[text]? = some e ∧
        e.available = some updates) ↔
      ∃ key, c.Denotes text key ∧ ∃ place id, c.StandsAt key place id := by
  rw [← Catalog.exists_available_iff h r o text, getElem?_resolve, if_pos ht]
  simp only [Option.some.injEq, exists_and_left, exists_eq_left']

/-- The texts of a request are answered one by one. -/
theorem PackagesRequest.getElem?_answer (q : PackagesRequest) (c : Catalog)
    (text : String) : (q.answer c).entries[text]? =
      if text ∈ q.packages.getD [] then c.packageEntry? text else none :=
  Dict.getElem?_ofPairs_filterMap c.packageEntry? _ text

theorem PackagesRequest.mem_entries_iff {c : Catalog} {q : PackagesRequest}
    {text : String} (ht : text ∈ q.packages.getD []) :
    text ∈ (q.answer c).entries ↔
      ∃ key, c.Denotes text key ∧ c.Knows key := by
  rw [← Catalog.exists_packageEntry_iff,
    Std.ExtTreeMap.mem_iff_isSome_getElem?, getElem?_answer, if_pos ht,
    Option.isSome_iff_exists]

/-! ## The two ways meet -/

/-- The version table has every package under its name, and under a name only
packages of this name. -/
structure Tables.VersionsByName (t : Tables) : Prop where
  stands : ∀ x ∈ t.packages,
    ∃ row ∈ t.updates, row.name = x.2.name ∧ row.package = x.1
  named : ∀ row ∈ t.updates,
    ∃ x ∈ t.packages, x.1 = row.package ∧ x.2.name = row.name

section Meet

variable {t : Tables} {f : Freshness} {key : PackageKey}

theorem Tables.mem_versions_iff {name : NameId} {id : PackageId} :
    id ∈ (t.catalog f).versions.listAt name ↔
      ∃ row ∈ t.updates, row.name = name ∧ row.package = id := by
  change id ∈ (Dict.group _).listAt name ↔ _
  rw [Dict.mem_listAt_group, List.mem_map]
  simp only [Prod.mk.injEq]

theorem Tables.knows_iff : (t.catalog f).Knows key ↔
    ∃ id p, (id, p) ∈ t.packages ∧ p.key = key := by
  constructor
  · intro h
    obtain ⟨id, -, hid, -⟩ := h
    obtain ⟨⟨_, p⟩, hm, heq⟩ :=
      List.mem_map.1 (Dict.mem_of_getElem?_ofPairs hid)
    cases heq
    exact ⟨id, p, hm, rfl⟩
  · intro h
    obtain ⟨id, p, hm, rfl⟩ := h
    have hkey : (p.key, id) ∈ t.packages.map fun x => (x.2.key, x.1) :=
      List.mem_map.2 ⟨(id, p), hm, rfl⟩
    obtain ⟨id', hid'⟩ := Dict.exists_getElem?_ofPairs hkey
    obtain ⟨⟨_, p'⟩, hm', heq⟩ :=
      List.mem_map.1 (Dict.mem_of_getElem?_ofPairs hid')
    obtain rfl : _ = id' := congrArg Prod.snd heq
    obtain ⟨p'', hp''⟩ := Dict.exists_getElem?_ofPairs hm'
    exact ⟨_, p'', hid', hp''⟩

/-- What stands where a sound index says has the key. -/
theorem Tables.knows_of_standsAt (hids : (t.packages.map (·.1)).Nodup)
    (hnames : t.VersionsByName) (hsound : (t.catalog f).IndexSound)
    {place : Nat} {id : PackageId}
    (h : (t.catalog f).StandsAt key place id) : (t.catalog f).Knows key := by
  obtain ⟨hplace, hid, p, hp, harch⟩ := h
  have hm : (id, p) ∈ t.packages := Dict.mem_of_getElem?_ofPairs hp
  have hevr : p.evr = key.evr := by
    obtain ⟨id', p', hid', hp', hevr⟩ := hsound _ _ _ hplace
    rw [hid] at hid'
    cases hid'
    rw [hp] at hp'
    cases hp'
    exact hevr
  have hname : p.name = key.name := by
    obtain ⟨row, hrow, hname, rfl⟩ :=
      Tables.mem_versions_iff.1 (List.mem_of_getElem? hid)
    obtain ⟨x, hx, hid', hname'⟩ := hnames.named row hrow
    obtain rfl := List.inj_on_of_nodup_map hids hx hm hid'
    rw [← hname, ← hname']
  refine Tables.knows_iff.2 ⟨id, p, hm, ?_⟩
  rw [Package.key, hname, hevr, harch]

/-- Each package stands where a complete index says. -/
theorem Tables.standsAt_of_knows (hids : (t.packages.map (·.1)).Nodup)
    (hnames : t.VersionsByName) (hcomplete : (t.catalog f).IndexComplete)
    (h : (t.catalog f).Knows key) :
    ∃ place id, (t.catalog f).StandsAt key place id := by
  obtain ⟨id, p, hm, rfl⟩ := Tables.knows_iff.1 h
  have hp : (t.catalog f).packages[id]? = some p :=
    (Dict.getElem?_ofPairs_of_nodup hids).2 hm
  have hid : id ∈ (t.catalog f).versions.listAt p.name :=
    Tables.mem_versions_iff.2 (hnames.stands (id, p) hm)
  obtain ⟨place, hplace⟩ := List.mem_iff_getElem?.1 hid
  exact ⟨place, id, hcomplete p.name place id p hplace hp, hplace, p, hp, rfl⟩

end Meet

/-- Where the version table has the packages under their names and the index
gives the places of every version, an answer about updates has a list for a
text exactly if an answer about packages that asks for it has an entry. -/
theorem recognized_alike {s : Snapshot} {t : Tables} {c : Catalog}
    (hread : Tables.read s = .ok t) (hload : Catalog.load s = .ok c)
    (hids : (t.packages.map (·.1)).Nodup) (hnames : t.VersionsByName)
    (hcomplete : c.IndexComplete) (hsound : c.IndexSound)
    {version : UpdatesVersion} {r : UpdatesRequest} {a : UpdatesAnswer}
    (hupdates : (Query.updates version r).process (some c) =
      .ok (.updates a)) {q : PackagesRequest} {b : PackagesAnswer}
    (hpackages : (Query.packages q).process (some c) = .ok (.packages b))
    {text : String} (hr : text ∈ r.packages.getD [])
    (hq : text ∈ q.packages.getD []) :
    (∃ e updates, a.entries[text]? = some e ∧ e.available = some updates) ↔
      text ∈ b.entries := by
  have hplaces := Catalog.load_placesAscend hload
  obtain ⟨f, rfl⟩ := Catalog.load_eq_catalog hread hload
  cases Query.answer_of_process hupdates
  cases Query.answer_of_process hpackages
  rw [UpdatesRequest.exists_entry_iff hplaces _ hr,
    PackagesRequest.mem_entries_iff hq]
  refine exists_congr fun key => and_congr_right fun _ => ?_
  constructor
  · intro h
    obtain ⟨place, id, hs⟩ := h
    exact Tables.knows_of_standsAt hids hnames hsound hs
  · exact Tables.standsAt_of_knows hids hnames hcomplete

/-- The index of the snapshot with two builds is sound. -/
theorem kernel_indexSound :
    (kernelTables.catalog kernelFreshness).IndexSound := by
  intro name evr place h
  change place ∈ Dict.listAt (.group _) (name, evr) at h
  rw [Dict.mem_listAt_group] at h
  have h' : ((name, evr), place) = ((⟨1⟩, ⟨1⟩), 0) ∨
      ((name, evr), place) = ((⟨1⟩, ⟨2⟩), 1) := by
    simpa [kernelTables, IndexRow.place?] using h
  rcases h' with heq | heq
  · cases heq
    exact ⟨⟨10⟩, kernelTables.packages[0].2, by decide +kernel,
      by decide +kernel, rfl⟩
  · cases heq
    exact ⟨⟨20⟩, kernelTables.packages[1].2, by decide +kernel,
      by decide +kernel, rfl⟩

theorem kernel_versionsByName : kernelTables.VersionsByName where
  stands := by decide
  named := by decide

theorem recognized_alike_kernel :
    Tables.read kernelSnapshot = .ok kernelTables ∧
    Catalog.load kernelSnapshot =
      .ok (kernelTables.catalog kernelFreshness) ∧
    (kernelTables.packages.map (·.1)).Nodup ∧ kernelTables.VersionsByName ∧
    (kernelTables.catalog kernelFreshness).IndexComplete ∧
    (kernelTables.catalog kernelFreshness).IndexSound ∧
    ∃ a b, (Query.updates .third kernelRequest).process
        (some (kernelTables.catalog kernelFreshness)) = .ok (.updates a) ∧
      (Query.packages ⟨some ["kernel-4-1", "kernel-4-1.x86_64"]⟩).process
        (some (kernelTables.catalog kernelFreshness)) =
          .ok (.packages b) ∧
      (∃ e updates, a.entries["kernel-4-1.x86_64"]? = some e ∧
        e.available = some updates) ∧
      "kernel-4-1.x86_64" ∈ b.entries := by
  have hids : (kernelTables.packages.map (·.1)).Nodup := by decide
  have hupdates : (Query.updates .third kernelRequest).process
      (some (kernelTables.catalog kernelFreshness)) =
        .ok (.updates (kernelRequest.resolve
          (kernelTables.catalog kernelFreshness) ⟨false, true⟩)) := rfl
  have hpackages : (Query.packages
      ⟨some ["kernel-4-1", "kernel-4-1.x86_64"]⟩).process
        (some (kernelTables.catalog kernelFreshness)) =
          .ok (.packages (PackagesRequest.answer
            ⟨some ["kernel-4-1", "kernel-4-1.x86_64"]⟩
            (kernelTables.catalog kernelFreshness))) := rfl
  have hlist : ∃ e updates, (kernelRequest.resolve
      (kernelTables.catalog kernelFreshness) ⟨false, true⟩).entries[
        "kernel-4-1.x86_64"]? = some e ∧ e.available = some updates :=
    ⟨⟨some [kernelUpdate], none, none⟩, [kernelUpdate], by decide +kernel, rfl⟩
  have hr : "kernel-4-1.x86_64" ∈ kernelRequest.packages.getD [] :=
    List.mem_singleton.2 rfl
  have h := recognized_alike read_kernelSnapshot load_kernelSnapshot hids
    kernel_versionsByName kernel_indexComplete kernel_indexSound hupdates
    hpackages hr (List.mem_cons_of_mem _ (List.mem_singleton.2 rfl))
  exact ⟨read_kernelSnapshot, load_kernelSnapshot, hids,
    kernel_versionsByName, kernel_indexComplete, kernel_indexSound, _, _,
    hupdates, hpackages, hlist, h.1 hlist⟩

end Advisory
