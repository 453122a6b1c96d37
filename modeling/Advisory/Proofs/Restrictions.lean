import Advisory.Proofs.Backing

/-!
# Lists of modules and of repositories restrict an answer

A request may name the module streams it has enabled and the repositories it
wants to be served from. Both lists only ever take something away from what
is answered without them, and it can be said exactly what: a module list
takes away what is found at a pair of a package and an erratum that is part of
a stream the list does not name, a repository list takes away the updates of
other labels. Absent, empty and useless lists differ, and not in the same
way. An empty module list enables nothing, an empty repository list restricts
nothing, and a list of labels that nobody knows leaves nothing.

Neither test is made where its effect is seen. The streams of a pair are not
shown by an update, so module lists are compared by findings. A label is
looked up before the search begins, and repositories are then admitted by
number; that this drops the same updates as a look at their labels is so
because every repository stands under its own label and under no other one,
which takes numbers that are not given twice.
-/

namespace Advisory

/-- A request with another list of module streams, or without one. -/
def UpdatesRequest.withModules (r : UpdatesRequest)
    (modules : Option (List ModuleStream)) : UpdatesRequest :=
  { r with modules := modules }

/-- A request with another list of labels, or without one. -/
def UpdatesRequest.withRepositories (r : UpdatesRequest)
    (labels : Option (List String)) : UpdatesRequest :=
  { r with repositories := labels }

/-! ## Modules -/

/-- Each stream that some rows put a package of an erratum in is a build of
one that is named. -/
def Catalog.Covers (c : Catalog) (rows : List ModularRow)
    (modules : List ModuleStream) (id : PackageId) (x : ErratumId) : Prop :=
  ∀ row ∈ rows, row.package = id → row.erratum = x →
    ∃ m ∈ modules, row.stream ∈ c.streams.listAt m

instance (c : Catalog) (rows : List ModularRow) (modules : List ModuleStream)
    (id : PackageId) (x : ErratumId) :
    Decidable (c.Covers rows modules id x) :=
  inferInstanceAs (Decidable (∀ row ∈ rows, row.package = id →
    row.erratum = x → ∃ m ∈ modules, row.stream ∈ c.streams.listAt m))

section Modules

variable {t : Tables} {f : Freshness} {r : UpdatesRequest} {o : UpdateOptions}
  {modules modules' : List ModuleStream}

theorem UpdatesRequest.admitsPair_withoutModules (c : Catalog)
    (id : PackageId) (x : ErratumId) :
    (r.withModules none).admitsPair c id x = true :=
  admitsPair_iff.2 fun _ h => by cases h

theorem Tables.mem_pairStreams {id : PackageId} {x : ErratumId}
    {stream : StreamId} :
    stream ∈ (t.catalog f).pairStreams.listAt (id, x) ↔
      ∃ row ∈ t.modular, row.package = id ∧ row.erratum = x ∧
        row.stream = stream := by
  change stream ∈ (Dict.group _).listAt (id, x) ↔ _
  rw [Dict.mem_listAt_group, List.mem_map]
  simp only [Prod.mk.injEq, and_assoc]

/-- A module list admits the pairs that it covers. -/
theorem Tables.admitsPair_iff_covers {id : PackageId} {x : ErratumId} :
    (r.withModules (some modules)).admitsPair (t.catalog f) id x = true ↔
      (t.catalog f).Covers t.modular modules id x := by
  rw [UpdatesRequest.admitsPair_iff]
  constructor
  · intro h row hrow hid hx
    exact h modules rfl row.stream
      (mem_pairStreams.2 ⟨row, hrow, hid, hx, rfl⟩)
  · intro h modules' hmodules stream hstream
    cases hmodules
    obtain ⟨row, hrow, hid, hx, rfl⟩ := mem_pairStreams.1 hstream
    exact h row hrow hid hx

/-- A pair is searched as without a module list if the list covers it, and
not at all if it does not. -/
theorem Tables.updatesThrough_withModules (own : List Repository)
    (id : PackageId) (p : Package) (x : ErratumId) :
    (t.catalog f).updatesThrough (r.withModules (some modules)) o own id p x =
      ((t.catalog f).updatesThrough (r.withModules none) o own id p x).filter
        fun _ => (t.catalog f).Covers t.modular modules id x := by
  have hrepos : (t.catalog f).updateRepositories
      (r.withModules (some modules)) own id x =
        (t.catalog f).updateRepositories (r.withModules none) own id x := rfl
  have hpair : (r.withModules (some modules)).admitsPair (t.catalog f) id x =
      decide ((t.catalog f).Covers t.modular modules id x) :=
    Bool.eq_iff_iff.2 (by rw [admitsPair_iff_covers, decide_eq_true_eq])
  simp only [Catalog.updatesThrough, hrepos, hpair,
    UpdatesRequest.admitsPair_withoutModules]
  cases (t.catalog f).erratum? x with
  | none => rfl
  | some found =>
      by_cases hcovers : (t.catalog f).Covers t.modular modules id x
      · simp [hcovers]
      · simp [hcovers]

theorem Catalog.Covers.mono {c : Catalog} {rows : List ModularRow}
    {id : PackageId} {x : ErratumId} (h : c.Covers rows modules id x)
    (hsub : modules ⊆ modules') : c.Covers rows modules' id x := by
  intro row hrow hid hx
  obtain ⟨m, hm, hstream⟩ := h row hrow hid hx
  exact ⟨m, hsub hm, hstream⟩

theorem UpdatesRequest.findings?_withModules (text : String) :
    (r.withModules (some modules)).findings? (t.catalog f) o text =
      ((r.withModules none).findings? (t.catalog f) o text).map
        (List.filter fun g => (t.catalog f).Covers t.modular modules
          g.package g.erratum) := by
  have hpackages : (r.withModules (some modules)).packages =
      (r.withModules none).packages := rfl
  exact findings?_filter hpackages Tables.updatesThrough_withModules text

theorem UpdatesRequest.withModules_within (hsub : modules ⊆ modules') :
    ((r.withModules (some modules)).resolve (t.catalog f) o).Within
      ((r.withModules (some modules')).resolve (t.catalog f) o) := by
  refine resolve_within fun text => ?_
  rw [findings?_withModules, findings?_withModules]
  cases (r.withModules none).findings? (t.catalog f) o text with
  | none => exact .none
  | some found =>
      refine .some (List.monotone_filter_right found fun g hg => ?_)
      exact decide_eq_true ((of_decide_eq_true hg).mono hsub)

theorem UpdatesRequest.withModules_within_all :
    ((r.withModules (some modules)).resolve (t.catalog f) o).Within
      ((r.withModules none).resolve (t.catalog f) o) := by
  refine resolve_within fun text => ?_
  rw [findings?_withModules]
  cases (r.withModules none).findings? (t.catalog f) o text with
  | none => exact .none
  | some found => exact .some List.filter_sublist

end Modules

/-- Without a module list every pair of a package and an erratum is admitted.
With one, what is found for a text is what is found without it at the pairs
that the list covers, whatever the list names; a pair that is part of no
stream is always covered. So a request that names more streams is answered no
less, and one without a list is answered everything. What is listed for a text
is what is found for it, in order. -/
theorem module_list_filters {s : Snapshot} {t : Tables} {c : Catalog}
    (hread : Tables.read s = .ok t) (hload : Catalog.load s = .ok c)
    (r : UpdatesRequest) (o : UpdateOptions) :
    (∀ (list : Option (List ModuleStream)) (text : String),
      ((r.withModules list).resolve c o).listOf? text =
        ((r.withModules list).findings? c o text).map fun found =>
          stableSort compare (found.map (·.update))) ∧
    (∀ id x, (r.withModules none).admitsPair c id x = true) ∧
    (∀ (modules : List ModuleStream) (text : String),
      (r.withModules (some modules)).findings? c o text =
        ((r.withModules none).findings? c o text).map (List.filter
          fun g => c.Covers t.modular modules g.package g.erratum)) ∧
    (∀ (modules : List ModuleStream) id x,
      (∀ row ∈ t.modular, row.package = id → row.erratum ≠ x) →
        c.Covers t.modular modules id x) ∧
    (∀ modules modules' : List ModuleStream, modules ⊆ modules' →
      ((r.withModules (some modules)).resolve c o).Within
        ((r.withModules (some modules')).resolve c o)) ∧
    ∀ modules : List ModuleStream,
      ((r.withModules (some modules)).resolve c o).Within
        ((r.withModules none).resolve c o) := by
  obtain ⟨f, rfl⟩ := Catalog.load_eq_catalog hread hload
  refine ⟨fun list text => UpdatesRequest.listOf?_eq_findings _ _ o text,
    UpdatesRequest.admitsPair_withoutModules _,
    fun modules text => UpdatesRequest.findings?_withModules text,
    fun modules id x hfree row hrow hid hx => absurd hx (hfree row hrow hid),
    fun modules modules' hsub => UpdatesRequest.withModules_within hsub,
    fun modules => UpdatesRequest.withModules_within_all⟩

/-- Whoever has enabled nothing is not offered the build that is part of a
module, and whoever has enabled its stream is. -/
theorem module_list_filters_streamed :
    Tables.read streamedSnapshot = .ok streamedTables ∧
    Catalog.load streamedSnapshot = .ok streamedCatalog ∧
    (kernelRequest.withModules none).findings? streamedCatalog ⟨false, false⟩
      "kernel-4-1.x86_64" = some streamedFindings ∧
    (kernelRequest.withModules (some [])).findings? streamedCatalog
      ⟨false, false⟩ "kernel-4-1.x86_64" = some (streamedFindings.take 1) ∧
    (kernelRequest.withModules (some [⟨"kernel", "rt"⟩])).findings?
      streamedCatalog ⟨false, false⟩ "kernel-4-1.x86_64" =
        some streamedFindings := by
  have hall : (kernelRequest.withModules none).findings? streamedCatalog
      ⟨false, false⟩ "kernel-4-1.x86_64" = some streamedFindings := by
    decide +kernel
  obtain ⟨-, -, hfilter, -⟩ := module_list_filters read_streamedSnapshot
    load_streamedSnapshot kernelRequest ⟨false, false⟩
  refine ⟨read_streamedSnapshot, load_streamedSnapshot, hall, ?_, ?_⟩
  · rw [hfilter, hall]
    decide +kernel
  · rw [hfilter, hall]
    decide +kernel

/-! ## Repositories -/

section Repositories

variable {t : Tables} {f : Freshness} {r : UpdatesRequest} {o : UpdateOptions}
  {labels : List String}

theorem UpdatesRequest.admitsLabel_withoutRepositories (c : Catalog)
    (id : RepositoryId) : (r.withRepositories none).admitsLabel c id = true :=
  admitsLabel_iff.2 fun _ h => by cases h

/-- Where no number is given twice, a repository stands under its label and
under no other one. -/
theorem Tables.mem_labelIds_iff (hids : (t.repositories.map (·.1)).Nodup)
    {id : RepositoryId} {repo : Repository}
    (h : (t.catalog f).repositories[id]? = some repo) {label : String} :
    id ∈ (t.catalog f).labelIds.listAt label ↔ repo.label = label := by
  constructor
  · intro hid
    change id ∈ (Dict.group _).listAt label at hid
    rw [Dict.mem_listAt_group] at hid
    obtain ⟨⟨_, repo'⟩, hrow, heq⟩ := List.mem_map.1 hid
    cases heq
    have hrepo' := (Dict.getElem?_ofPairs_of_nodup hids).2 hrow
    change (t.catalog f).repositories[id]? = some repo' at hrepo'
    rw [h] at hrepo'
    cases hrepo'
    rfl
  · intro heq
    subst heq
    exact mem_labelIds h

/-- A list of labels admits the repositories with these labels, of those that
are admitted without it. -/
theorem Tables.admitsRepository_withRepositories
    (hids : (t.repositories.map (·.1)).Nodup) (hlabels : labels ≠ [])
    {id : RepositoryId} {repo : Repository}
    (h : (t.catalog f).repositories[id]? = some repo) :
    (r.withRepositories (some labels)).admitsRepository (t.catalog f) id =
      ((r.withRepositories none).admitsRepository (t.catalog f) id &&
        decide (repo.label ∈ labels)) := by
  have hlabel : (r.withRepositories (some labels)).admitsLabel
      (t.catalog f) id = true ↔ repo.label ∈ labels := by
    rw [UpdatesRequest.admitsLabel_iff]
    constructor
    · intro h'
      obtain ⟨label, hlabel, hid⟩ := h' labels rfl hlabels
      rw [mem_labelIds_iff hids h] at hid
      exact hid ▸ hlabel
    · intro hmem labels' heq _
      cases heq
      exact ⟨repo.label, hmem, mem_labelIds h⟩
  rw [UpdatesRequest.admitsRepository, UpdatesRequest.admitsRepository,
    UpdatesRequest.admitsLabel_withoutRepositories, Bool.true_and,
    Bool.and_comm, ← Bool.eq_iff_iff.2 (hlabel.trans decide_eq_true_iff.symm)]
  rfl

/-- A test of numbers that looks at the repositories behind them filters
these. -/
theorem Catalog.repositoriesWith_filter {c : Catalog}
    {p q : RepositoryId → Bool} {keep : Repository → Bool}
    (h : ∀ id repo, c.repositories[id]? = some repo →
      p id = (q id && keep repo)) (ids : List RepositoryId) :
    c.repositoriesWith (ids.filter p) =
      (c.repositoriesWith (ids.filter q)).filter keep := by
  rw [repositoriesWith, repositoriesWith, List.filterMap_filter,
    List.filterMap_filter, List.filter_filterMap]
  refine congrArg (List.filterMap · ids) (funext fun id => ?_)
  cases hrepo : c.repositories[id]? with
  | none => simp
  | some repo =>
      rw [h id repo hrepo]
      cases q id with
      | false => simp
      | true => rw [Bool.true_and, if_pos rfl, Option.filter_some]

theorem Tables.updateRepositories_withRepositories
    (hids : (t.repositories.map (·.1)).Nodup) (hlabels : labels ≠ [])
    (own : List Repository) (id : PackageId) (x : ErratumId) :
    (t.catalog f).updateRepositories (r.withRepositories (some labels)) own
      id x = ((t.catalog f).updateRepositories (r.withRepositories none) own
        id x).filter (·.label ∈ labels) := by
  simp only [Catalog.updateRepositories]
  rw [List.filter_comm]
  refine congrArg (List.filter _)
    (Catalog.repositoriesWith_filter (fun rid repo hrepo => ?_) _)
  rw [admitsRepository_withRepositories hids hlabels hrepo, Bool.and_assoc]

/-- A pair is searched for updates of the labels that are named. -/
theorem Tables.updatesThrough_withRepositories
    (hids : (t.repositories.map (·.1)).Nodup) (hlabels : labels ≠ [])
    (own : List Repository) (id : PackageId) (p : Package) (x : ErratumId) :
    (t.catalog f).updatesThrough (r.withRepositories (some labels)) o own id p
      x = ((t.catalog f).updatesThrough (r.withRepositories none) o own id p
        x).filter (·.repository ∈ labels) := by
  have hpair : (r.withRepositories (some labels)).admitsPair (t.catalog f) id
      x = (r.withRepositories none).admitsPair (t.catalog f) id x := rfl
  simp only [Catalog.updatesThrough, hpair,
    updateRepositories_withRepositories hids hlabels own]
  cases (t.catalog f).erratum? x with
  | none => rfl
  | some found =>
      dsimp only
      split
      · rfl
      · rw [List.filter_map]
        rfl

/-- An empty list of labels restricts nothing. -/
theorem UpdatesRequest.entries_noLabels (r : UpdatesRequest) (c : Catalog)
    (o : UpdateOptions) :
    ((r.withRepositories (some [])).resolve c o).entries =
      ((r.withRepositories none).resolve c o).entries := rfl

/-- Only repositories with a label that is known are offered. -/
theorem UpdatesRequest.listOf?_unknownLabels {c : Catalog}
    (h : c.PlacesAscend) (hlabels : labels ≠ [])
    (hunknown : ∀ label ∈ labels, label ∉ c.labelIds) {text : String}
    {updates : List Update}
    (hlist : ((r.withRepositories (some labels)).resolve c o).listOf? text =
      some updates) : updates = [] := by
  refine List.eq_nil_iff_forall_not_mem.2 fun u hu => ?_
  obtain ⟨e, he, hav⟩ := Option.bind_eq_some_iff.1 hlist
  obtain ⟨key, installed, g, -⟩ := exists_offer h
    (UpdatesAnswer.mem_updates.2 ⟨text, e, updates, he, hav, hu⟩)
  obtain ⟨label, hlabel, hid⟩ := g.labelled labels rfl hlabels
  refine hunknown label hlabel ?_
  rw [Std.ExtTreeMap.mem_iff_isSome_getElem?,
    Dict.getElem?_of_mem_listAt hid]
  rfl

end Repositories

/-- Where no repository has the number of another one, a list of labels
leaves of every list of an answer the updates whose repository has one of the
labels, and gives lists for the same texts. An empty list restricts nothing,
and one of labels that nobody knows leaves no updates. -/
theorem repository_list_filters {s : Snapshot} {t : Tables} {c : Catalog}
    (hread : Tables.read s = .ok t) (hload : Catalog.load s = .ok c)
    (hids : (t.repositories.map (·.1)).Nodup) (r : UpdatesRequest)
    (o : UpdateOptions) :
    ((r.withRepositories (some [])).resolve c o).entries =
      ((r.withRepositories none).resolve c o).entries ∧
    ∀ labels : List String, labels ≠ [] →
      (∀ text : String,
        ((r.withRepositories (some labels)).resolve c o).listOf? text =
          (((r.withRepositories none).resolve c o).listOf? text).map
            (List.filter (·.repository ∈ labels)) ∧
        (((r.withRepositories (some labels)).resolve c o).listOf?
          text).isSome =
          (((r.withRepositories none).resolve c o).listOf? text).isSome) ∧
      ((∀ label ∈ labels, label ∉ c.labelIds) →
        ∀ (text : String) (updates : List Update),
          ((r.withRepositories (some labels)).resolve c o).listOf? text =
            some updates → updates = []) := by
  have hplaces := Catalog.load_placesAscend hload
  obtain ⟨f, rfl⟩ := Catalog.load_eq_catalog hread hload
  refine ⟨r.entries_noLabels _ o, fun labels hlabels => ⟨fun text => ?_,
    fun hunknown text updates hlist =>
      UpdatesRequest.listOf?_unknownLabels hplaces hlabels hunknown hlist⟩⟩
  have hlist : ((r.withRepositories (some labels)).resolve (t.catalog f)
      o).listOf? text = (((r.withRepositories none).resolve (t.catalog f)
        o).listOf? text).map (List.filter (·.repository ∈ labels)) := by
    refine UpdatesRequest.listOf?_filter ?_
      (Tables.updatesThrough_withRepositories hids hlabels) text
    rfl
  exact ⟨hlist, by rw [hlist, Option.isSome_map]⟩

/-- The build that two repositories carry is shown once if one of them is
named, and not at all if only an unknown one is. -/
theorem repository_list_filters_streamed :
    Tables.read streamedSnapshot = .ok streamedTables ∧
    Catalog.load streamedSnapshot = .ok streamedCatalog ∧
    (streamedTables.repositories.map (·.1)).Nodup ∧
    ["appstream", "extras"] ≠ [] ∧ ["extras"] ≠ [] ∧
    (∀ label ∈ ["extras"], label ∉ streamedCatalog.labelIds) ∧
    ((kernelRequest.withRepositories (some ["appstream", "extras"])).resolve
      streamedCatalog ⟨false, false⟩).listOf? "kernel-4-1.x86_64" =
        some [⟨"kernel-4-3.x86_64", "RHBA-2020:2", "appstream", "", "8"⟩] ∧
    ((kernelRequest.withRepositories (some ["extras"])).resolve
      streamedCatalog ⟨false, false⟩).listOf? "kernel-4-1.x86_64" =
        some [] := by
  have hids : (streamedTables.repositories.map (·.1)).Nodup := by decide
  have hsome : ["appstream", "extras"] ≠ [] := by decide
  have hextras : ["extras"] ≠ [] := by decide
  have hunknown : ∀ label ∈ ["extras"], label ∉ streamedCatalog.labelIds := by
    decide +kernel
  obtain ⟨-, hlists⟩ := repository_list_filters read_streamedSnapshot
    load_streamedSnapshot hids kernelRequest ⟨false, false⟩
  refine ⟨read_streamedSnapshot, load_streamedSnapshot, hids, hsome, hextras,
    hunknown, ?_, ?_⟩
  · rw [((hlists _ hsome).1 _).1]
    decide +kernel
  · obtain ⟨updates, hupdates⟩ : ∃ updates, ((kernelRequest.withRepositories
        (some ["extras"])).resolve streamedCatalog ⟨false, false⟩).listOf?
          "kernel-4-1.x86_64" = some updates := by
      rw [← Option.isSome_iff_exists, ((hlists _ hextras).1 _).2]
      decide +kernel
    rw [hupdates, (hlists _ hextras).2 hunknown _ _ hupdates]

end Advisory
