import Advisory.Proofs.Printed

/-!
# No update is offered twice

Updates are found by three nested searches and put in order, and nothing that
was found twice is dropped. That the list of a package repeats nothing all the
same has two reasons. No list that is searched repeats itself: not the
packages of a name, not the errata of a package, not its repositories. And an
update tells where it was found: its package, its erratum and its repository
are shown by words that no other package, erratum or repository is shown by.
`Catalog.Discerning` holds both together, and each search needs only its own
part of it.

For packages the words are those of a written identifier, so packages have to
differ in their identifiers and these have to be readable. Numbers that are
given twice in a table do no harm, since only one of the rows is kept.
-/

namespace Advisory

/-- What an update shows of a repository. -/
def Repository.shown (r : Repository) : String × String × String :=
  (r.label, r.basearch.getD "", r.releasever.getD "")

/-- What an update shows of its repository. -/
def Update.origin (u : Update) : String × String × String :=
  (u.repository, u.basearch, u.releasever)

/-- No list that is searched repeats itself, and what is shown of a package,
an erratum or a repository is shown of no other one. -/
structure Catalog.Discerning (c : Catalog) : Prop where
  versions : ∀ name, (c.versions.listAt name).Nodup
  errata : ∀ id, (c.packageErrata.listAt id).Nodup
  repositories : ∀ id, (c.packageRepositories.listAt id).Nodup
  package : ∀ (id id' : PackageId) (p p' : Package),
    c.packages[id]? = some p → c.packages[id']? = some p' →
      c.written p = c.written p' → id = id'
  erratum : ∀ (x x' : ErratumId) (name : String),
    c.erratumNames[x]? = some name → c.erratumNames[x']? = some name → x = x'
  repository : ∀ (rid rid' : RepositoryId) (repo repo' : Repository),
    c.repositories[rid]? = some repo → c.repositories[rid']? = some repo' →
      repo.shown = repo'.shown → rid = rid'

/-! ## The searches -/

/-- A search repeats nothing if it is over different things, nothing is found
twice in one of them, and what is found tells where. -/
theorem nodup_flatMap_of_unique {α β : Type} {xs : List α} {f : α → List β}
    (hxs : xs.Nodup) (hf : ∀ x ∈ xs, (f x).Nodup)
    (hfound : ∀ x y u, u ∈ f x → u ∈ f y → x = y) : (xs.flatMap f).Nodup := by
  refine List.nodup_flatMap.2 ⟨hf, hxs.imp fun {x y} hne => ?_⟩
  exact List.disjoint_left.2 fun u hx hy => hne (hfound x y u hx hy)

namespace Catalog

variable {c : Catalog} (h : c.Discerning) (r : UpdatesRequest)
  (o : UpdateOptions) (own : List Repository)

include h

theorem Discerning.updateRepositories_nodup (id : PackageId) (x : ErratumId) :
    ((c.updateRepositories r own id x).map Repository.shown).Nodup := by
  refine List.Nodup.sublist (List.Sublist.map _ List.filter_sublist) ?_
  rw [repositoriesWith, List.map_filterMap]
  refine ((h.repositories id).filter _).filterMap ?_
  intro rid rid' shown hs hs'
  obtain ⟨repo, hrepo, rfl⟩ := Option.map_eq_some_iff.1 hs
  obtain ⟨repo', hrepo', heq⟩ := Option.map_eq_some_iff.1 hs'
  exact h.repository rid rid' repo repo' hrepo hrepo' heq.symm

theorem Discerning.updatesThrough_nodup (id : PackageId) (p : Package)
    (x : ErratumId) : (c.updatesThrough r o own id p x).Nodup := by
  rw [updatesThrough]
  split
  · exact List.nodup_nil
  · split
    · exact List.nodup_nil
    · -- What an update shows of its repository is enough to tell it.
      refine List.Nodup.of_map Update.origin ?_
      rw [List.map_map]
      exact h.updateRepositories_nodup r own id x

/-- An update tells its erratum. -/
theorem Discerning.erratum_eq {id : PackageId} {p : Package} {x x' : ErratumId}
    {u : Update} (hu : u ∈ c.updatesThrough r o own id p x)
    (hu' : u ∈ c.updatesThrough r o own id p x') : x = x' := by
  obtain ⟨name, e, he, -, -, repo, -, rfl⟩ := mem_updatesThrough.1 hu
  obtain ⟨name', e', he', -, -, repo', -, heq⟩ := mem_updatesThrough.1 hu'
  have hname : name = name' := congrArg Update.erratum heq
  subst hname
  exact h.erratum x x' name (erratum?_eq_some_iff.1 he).1
    (erratum?_eq_some_iff.1 he').1

theorem Discerning.updatesTo_nodup (arch : ArchId) (id : PackageId) :
    (c.updatesTo r o own arch id).Nodup := by
  rw [updatesTo]
  split
  · exact List.nodup_nil
  · next p _ =>
      split
      · exact nodup_flatMap_of_unique (h.errata id)
          (fun x _ => h.updatesThrough_nodup r o own id p x)
          (fun x x' u => h.erratum_eq r o own)
      · exact List.nodup_nil

/-- An update tells its package. -/
theorem Discerning.package_eq {arch : ArchId} {id id' : PackageId} {u : Update}
    (hu : u ∈ c.updatesTo r o own arch id)
    (hu' : u ∈ c.updatesTo r o own arch id') : id = id' := by
  obtain ⟨p, hp, -, x, -, hu⟩ := mem_updatesTo.1 hu
  obtain ⟨p', hp', -, x', -, hu'⟩ := mem_updatesTo.1 hu'
  obtain ⟨name, e, -, -, -, repo, -, rfl⟩ := mem_updatesThrough.1 hu
  obtain ⟨name', e', -, -, -, repo', -, heq⟩ := mem_updatesThrough.1 hu'
  exact h.package id id' p p' hp hp' (congrArg Update.package heq)

theorem Discerning.updatesOf_ascending {key : PackageKey} {i : Installed}
    (hi : c.Places key i) :
    (c.updatesOf r o i).Pairwise fun u v => compare u v = .lt := by
  refine ascending_of_sorted_nodup (c.updatesOf_sorted r o i) ?_
  rw [updatesOf]
  split
  · exact List.nodup_nil
  · -- The candidates are what is left of the list of a name.
    rw [updatesBehind, (stableSort_perm _ _).nodup_iff]
    refine nodup_flatMap_of_unique ?_
      (fun id _ => h.updatesTo_nodup r o _ i.arch id)
      (fun id id' u => h.package_eq r o _)
    rw [hi.versions]
    exact (h.versions key.name).sublist (List.drop_sublist _ _)

end Catalog

/-! ## Tables -/

/-- Nothing that an update is found by is given twice: no word and no package
stands under two numbers, no package twice under a name, no link is repeated,
and no two errata and no two repositories are shown alike. -/
structure Tables.Discerning (t : Tables) : Prop where
  distinct : t.Distinct
  versions : (t.updates.map fun r => (r.name, r.package)).Nodup
  packageErrata : t.packageErrata.Nodup
  packageRepositories : t.packageRepositories.Nodup
  errata : (t.errata.map (·.name)).Nodup
  repositories : (t.repositories.map fun (_, r) => r.shown).Nodup

/-- Every package has an identifier that can be read. -/
def Catalog.Identified (c : Catalog) : Prop :=
  ∀ (id : PackageId) (p : Package), c.packages[id]? = some p →
    ∃ n, c.Names p n ∧ n.WellFormed

/-- A written identifier tells its package. -/
theorem Tables.Distinct.package_eq {t : Tables} {f : Freshness}
    (h : t.Distinct) (hidentified : (t.catalog f).Identified) {id id' : PackageId}
    {p p' : Package} (hp : (t.catalog f).packages[id]? = some p)
    (hp' : (t.catalog f).packages[id']? = some p')
    (heq : (t.catalog f).written p = (t.catalog f).written p') : id = id' := by
  obtain ⟨n, hn, hform⟩ := hidentified id p hp
  obtain ⟨n', hn', hform'⟩ := hidentified id' p' hp'
  have hrec := Tables.recovers_written h hp hn hform
  have hrec' := Tables.recovers_written h hp' hn' hform'
  -- Both identifiers are read from the one text that is written.
  have hparsed := hrec.parsed
  rw [heq, hrec'.parsed] at hparsed
  cases hparsed
  exact Option.some.inj (hrec.found.symm.trans hrec'.found)

theorem Tables.Discerning.catalog {t : Tables} {f : Freshness}
    (h : t.Discerning) (hidentified : (t.catalog f).Identified) :
    (t.catalog f).Discerning where
  versions := Dict.nodup_listAt_group h.versions
  errata := Dict.nodup_listAt_group h.packageErrata
  repositories := Dict.nodup_listAt_group h.packageRepositories
  package id id' p p' := h.distinct.package_eq hidentified
  erratum x x' name hx hx' := by
    refine Dict.key_eq_of_nodup (g := id) ?_ hx hx' rfl
    rw [List.map_map]
    exact h.errata
  repository rid rid' repo repo' hrid hrid' :=
    Dict.key_eq_of_nodup (g := Repository.shown) h.repositories hrid hrid'

/-- Where nothing is given twice and packages have readable identifiers, the
updates of every answer ascend strictly, by their package, then their erratum,
then their repository with its architecture and its release. -/
theorem updates_ascend {s : Snapshot} {t : Tables} {c : Catalog}
    (hread : Tables.read s = .ok t) (hload : Catalog.load s = .ok c)
    (h : t.Discerning) (hidentified : c.Identified) (r : UpdatesRequest)
    (o : UpdateOptions) {text : String} {e : PackageUpdates}
    (he : (r.resolve c o).entries[text]? = some e) {updates : List Update}
    (hupdates : e.available = some updates) :
    (updates.Pairwise fun u v => compare u v = .lt) ∧ updates.Nodup := by
  have hplaces := Catalog.load_placesAscend hload
  obtain ⟨f, rfl⟩ := Catalog.load_eq_catalog hread hload
  have hascending : updates.Pairwise fun u v => compare u v = .lt := by
    rw [UpdatesRequest.getElem?_resolve, Option.ite_none_right_eq_some] at he
    obtain ⟨-, he⟩ := he
    cases he
    rw [Catalog.available_updatesEntry, Option.map_eq_some_iff] at hupdates
    obtain ⟨i, hi, rfl⟩ := hupdates
    obtain ⟨key, -, hplace⟩ := (Catalog.placed_iff hplaces).1 hi
    exact (h.catalog hidentified).updatesOf_ascending r o hplace
  exact ⟨hascending, nodup_of_ascending hascending⟩

/-- The snapshot with two builds, where the repository has a second one beside
it that differs in its architecture only. -/
def mirroredSnapshot : Snapshot where
  tables := [
    ("repo_detail", some ⟨["id", "label", "name", "url", "basearch",
      "releasever", "product", "product_id", "revision"],
      [[.integer 5, .text "baseos", .text "BaseOS", .text "http://mirror/8",
          .null, .text "8", .text "Enterprise", .integer 7, .null],
        [.integer 6, .text "baseos", .text "BaseOS", .text "http://mirror/8",
          .text "x86_64", .text "8", .text "Enterprise", .integer 7,
          .null]]⟩),
    ("pkg_repo", some ⟨["pkg_id", "repo_id"],
      [[.integer 10, .integer 5], [.integer 20, .integer 6],
        [.integer 20, .integer 5]]⟩),
    ("errata_repo", some ⟨["errata_id", "repo_id"],
      [[.integer 100, .integer 5], [.integer 100, .integer 6]]⟩)] ++
    kernelSnapshot.tables

def mirroredTables : Tables := { kernelTables with
  repositories := [
    (⟨5⟩, ⟨"baseos", "BaseOS", "http://mirror/8", none, some "8",
      "Enterprise", 7, none⟩),
    (⟨6⟩, ⟨"baseos", "BaseOS", "http://mirror/8", some "x86_64", some "8",
      "Enterprise", 7, none⟩)]
  packageRepositories := [(⟨10⟩, ⟨5⟩), (⟨20⟩, ⟨5⟩), (⟨20⟩, ⟨6⟩)]
  erratumRepositories := [(⟨100⟩, ⟨5⟩), (⟨100⟩, ⟨6⟩)] }

theorem read_mirroredSnapshot :
    Tables.read mirroredSnapshot = .ok mirroredTables :=
  toOption_eq_some_iff.1 (by decide +kernel)

theorem load_mirroredSnapshot : Catalog.load mirroredSnapshot =
    .ok (mirroredTables.catalog kernelFreshness) :=
  Catalog.load_eq_ok_iff.2 ⟨_, _, read_mirroredSnapshot, rfl, rfl⟩

theorem mirrored_discerning : mirroredTables.Discerning where
  distinct := ⟨kernel_distinct.names, kernel_distinct.evrs,
    kernel_distinct.arches, kernel_distinct.packages⟩
  versions := by decide
  packageErrata := by decide
  packageRepositories := by decide
  errata := by decide
  repositories := by decide

theorem mirrored_identified :
    (mirroredTables.catalog kernelFreshness).Identified := by
  intro id p hp
  have hmem : (id, p) ∈ mirroredTables.packages :=
    Dict.mem_of_getElem?_ofPairs hp
  have hp' : (id, p) = (⟨10⟩, ⟨⟨1⟩, ⟨1⟩, ⟨1⟩, ⟨0⟩, ⟨0⟩, none⟩) ∨
      (id, p) = (⟨20⟩, ⟨⟨1⟩, ⟨2⟩, ⟨1⟩, ⟨0⟩, ⟨0⟩, none⟩) := by
    simpa [mirroredTables, kernelTables] using hmem
  rcases hp' with h | h
  · cases h
    exact ⟨kernelNevra, ⟨by decide +kernel, by decide +kernel,
      by decide +kernel⟩, kernelNevra_wellFormed⟩
  · cases h
    exact ⟨{ kernelNevra with release := "2" }, ⟨by decide +kernel,
      by decide +kernel, by decide +kernel⟩,
      { kernelNevra_wellFormed with release := by simp }⟩

/-- The newer build, as both repositories offer it. -/
def mirroredUpdates : List Update :=
  [kernelUpdate, { kernelUpdate with basearch := "x86_64" }]

theorem updates_ascend_mirrored :
    Tables.read mirroredSnapshot = .ok mirroredTables ∧
    Catalog.load mirroredSnapshot =
      .ok (mirroredTables.catalog kernelFreshness) ∧
    mirroredTables.Discerning ∧
    (mirroredTables.catalog kernelFreshness).Identified ∧
    (kernelRequest.resolve (mirroredTables.catalog kernelFreshness)
      ⟨false, true⟩).entries["kernel-4-1.x86_64"]? =
        some ⟨some mirroredUpdates, none, none⟩ ∧
    (mirroredUpdates.Pairwise fun u v => compare u v = .lt) ∧
    mirroredUpdates.Nodup := by
  have he : (kernelRequest.resolve (mirroredTables.catalog kernelFreshness)
      ⟨false, true⟩).entries["kernel-4-1.x86_64"]? =
        some ⟨some mirroredUpdates, none, none⟩ := by
    decide +kernel
  exact ⟨read_mirroredSnapshot, load_mirroredSnapshot, mirrored_discerning,
    mirrored_identified, he, updates_ascend read_mirroredSnapshot
      load_mirroredSnapshot mirrored_discerning mirrored_identified
      kernelRequest ⟨false, true⟩ he rfl⟩

end Advisory
