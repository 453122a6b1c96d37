import Advisory.Proofs.Placement

/-!
# Which updates are offered

The engine finds updates by three nested searches, over the candidates behind
the installed package, over the errata that ship a candidate and over the
repositories that carry it, and each search drops what the request, the
options or the scope of the installed package do not admit. `Offer` lists
these conditions side by side, each in terms of the dictionaries of the
catalogue alone. The statements climb through the searches from the inside,
one lemma for each, and end in `mem_updatesBehind`: what the searches find is
exactly what is offered.
-/

namespace Advisory

/-! ## The conditions, one by one -/

/-- A value is as wanted: nothing is wanted, or it is the wanted one, or
there is none and the address contains the wanted one. -/
def Meets (value wanted : Option String) (url : String) : Prop :=
  ∀ w, wanted = some w →
    value = some w ∨ value = none ∧ w.toList <:+: url.toList

theorem Repository.agrees_iff {repo : Repository}
    {value wanted : Option String} :
    repo.agrees value wanted = true ↔ Meets value wanted repo.url := by
  cases wanted with
  | none => simp [Repository.agrees, Meets]
  | some w =>
      cases value with
      | none => simp [Repository.agrees, Meets, Text.isPartOf_iff]
      | some v => simp [Repository.agrees, Meets]

theorem Erratum.isSecurity_iff {e : Erratum} :
    e.isSecurity = true ↔ e.notice.kind = "security" ∨ e.cves ≠ [] := by
  simp [Erratum.isSecurity]

namespace UpdatesRequest

variable {r : UpdatesRequest} {c : Catalog}

theorem admitsLabel_iff {id : RepositoryId} :
    r.admitsLabel c id = true ↔
      ∀ labels, r.repositories = some labels → labels ≠ [] →
        ∃ label ∈ labels, id ∈ c.labelIds.listAt label := by
  cases hr : r.repositories with
  | none => simp [admitsLabel, hr]
  | some labels => cases labels <;> simp [admitsLabel, hr]

/-- A request admits a repository with a detail that stands under one of its
labels and has the release and the architecture it wants. -/
theorem admitsRepository_iff {id : RepositoryId} {repo : Repository}
    (h : c.repositories[id]? = some repo) :
    r.admitsRepository c id = true ↔
      (∀ labels, r.repositories = some labels → labels ≠ [] →
        ∃ label ∈ labels, id ∈ c.labelIds.listAt label) ∧
      Meets repo.releasever r.releasever repo.url ∧
      Meets repo.basearch r.basearch repo.url := by
  rw [admitsRepository, Bool.and_eq_true, admitsLabel_iff, h,
    Option.any_some, Bool.and_eq_true, Repository.agrees_iff,
    Repository.agrees_iff]

theorem admitsPair_iff {id : PackageId} {x : ErratumId} :
    r.admitsPair c id x = true ↔
      ∀ modules, r.modules = some modules →
        ∀ stream ∈ c.pairStreams.listAt (id, x),
          ∃ m ∈ modules, stream ∈ c.streams.listAt m := by
  cases hm : r.modules with
  | none => simp [admitsPair, admitsStream, hm]
  | some modules => simp [admitsPair, admitsStream, hm]

end UpdatesRequest

theorem inScope_iff {own : List Repository} {repo : Repository} :
    inScope own repo = true ↔
      (∃ r ∈ own, r.productId = repo.productId) ∧
      ∃ r ∈ own, r.releasever.getD "" = repo.releasever.getD "" := by
  simp [inScope]

namespace Catalog

theorem mem_repositoriesOf {c : Catalog} {id : PackageId}
    {repo : Repository} : repo ∈ c.repositoriesOf id ↔
      ∃ rid ∈ c.packageRepositories.listAt id,
        c.repositories[rid]? = some repo := by
  rw [repositoriesOf, repositoriesWith, List.mem_filterMap]

theorem erratum?_eq_some_iff {c : Catalog} {x : ErratumId} {name : String}
    {e : Erratum} : c.erratum? x = some (name, e) ↔
      c.erratumNames[x]? = some name ∧ c.errata[name]? = some e := by
  simp only [erratum?, Option.bind_eq_bind, Option.bind_eq_some_iff,
    Option.pure_def, Option.some.injEq, Prod.mk.injEq]
  constructor
  · intro h
    obtain ⟨_, hn, _, he, rfl, rfl⟩ := h
    exact ⟨hn, he⟩
  · intro h
    obtain ⟨hn, he⟩ := h
    exact ⟨_, hn, _, he, rfl, rfl⟩

end Catalog

/-! ## An offer -/

/-- Why an update is offered to a package that is installed under a key: a
candidate, an erratum that ships it and a repository that carries it, with
everything that has to hold of them. -/
structure Offer (c : Catalog) (r : UpdatesRequest) (o : UpdateOptions)
    (key : PackageKey) (installed : PackageId) where
  place : Nat
  candidate : PackageId
  package : Package
  erratumId : ErratumId
  name : String
  erratum : Erratum
  repositoryId : RepositoryId
  repository : Repository
  /-- The candidate stands behind every place of the installed version. -/
  behind : ∀ p ∈ c.positions.listAt (key.name, key.evr), p < place
  stands : (c.versions.listAt key.name)[place]? = some candidate
  known : c.packages[candidate]? = some package
  replaces : (key.arch, package.arch) ∈ c.replacements
  ships : erratumId ∈ c.packageErrata.listAt candidate
  named : c.erratumNames[erratumId]? = some name
  described : c.errata[name]? = some erratum
  security : o.securityOnly = true →
    erratum.notice.kind = "security" ∨ erratum.cves ≠ []
  /-- Each stream that the pair is part of is a build of one that the request
  names, if it names any. -/
  enabled : ∀ modules, r.modules = some modules →
    ∀ stream ∈ c.pairStreams.listAt (candidate, erratumId),
      ∃ m ∈ modules, stream ∈ c.streams.listAt m
  carries : repositoryId ∈ c.packageRepositories.listAt candidate
  released : repositoryId ∈ c.erratumRepositories.listAt erratumId
  detailed : c.repositories[repositoryId]? = some repository
  labelled : ∀ labels, r.repositories = some labels → labels ≠ [] →
    ∃ label ∈ labels, repositoryId ∈ c.labelIds.listAt label
  releasever : Meets repository.releasever r.releasever repository.url
  basearch : Meets repository.basearch r.basearch repository.url
  /-- Some repository of the installed package has the same product. -/
  product : ∃ own ∈ c.packageRepositories.listAt installed,
    ∃ d, c.repositories[own]? = some d ∧ d.productId = repository.productId
  /-- Some repository of the installed package has the same release. -/
  release : ∃ own ∈ c.packageRepositories.listAt installed,
    ∃ d, c.repositories[own]? = some d ∧
      d.releasever.getD "" = repository.releasever.getD ""

/-- The update that an offer shows as. -/
def Offer.update {c : Catalog} {r : UpdatesRequest} {o : UpdateOptions}
    {key : PackageKey} {installed : PackageId}
    (f : Offer c r o key installed) : Update where
  package := c.written f.package
  erratum := f.name
  repository := f.repository.label
  basearch := f.repository.basearch.getD ""
  releasever := f.repository.releasever.getD ""

/-! ## The searches -/

namespace Catalog

variable {c : Catalog} {r : UpdatesRequest} {o : UpdateOptions}

theorem mem_updateRepositories {own : List Repository} {id : PackageId}
    {x : ErratumId} {repo : Repository} :
    repo ∈ c.updateRepositories r own id x ↔
      ∃ rid ∈ c.packageRepositories.listAt id,
        rid ∈ c.erratumRepositories.listAt x ∧
        r.admitsRepository c rid = true ∧
        c.repositories[rid]? = some repo ∧ inScope own repo = true := by
  simp only [updateRepositories, repositoriesWith, List.mem_filter,
    List.mem_filterMap, Bool.and_eq_true, List.contains_eq_mem,
    decide_eq_true_eq]
  constructor
  · intro h
    obtain ⟨⟨rid, ⟨hc, hx, ha⟩, hd⟩, hs⟩ := h
    exact ⟨rid, hc, hx, ha, hd, hs⟩
  · intro h
    obtain ⟨rid, hc, hx, ha, hd, hs⟩ := h
    exact ⟨⟨rid, ⟨hc, hx, ha⟩, hd⟩, hs⟩

theorem mem_updatesThrough {own : List Repository} {id : PackageId}
    {p : Package} {x : ErratumId} {u : Update} :
    u ∈ c.updatesThrough r o own id p x ↔
      ∃ name e, c.erratum? x = some (name, e) ∧
        (o.securityOnly = true → e.isSecurity = true) ∧
        r.admitsPair c id x = true ∧
        ∃ repo ∈ c.updateRepositories r own id x,
          u = ⟨c.written p, name, repo.label, repo.basearch.getD "",
            repo.releasever.getD ""⟩ := by
  rw [updatesThrough]
  split
  · next h =>
      constructor
      · intro hu
        cases hu
      · intro h'
        obtain ⟨name, e, he, -⟩ := h'
        rw [h] at he
        cases he
  · next name e h =>
      split
      · next hdrop =>
          -- The erratum or the pair is left out, so nothing is found.
          constructor
          · intro hu
            cases hu
          · intro h'
            obtain ⟨name', e', he, hsec, hpair, -⟩ := h'
            rw [h] at he
            cases he
            rw [hpair] at hdrop
            cases ho : o.securityOnly with
            | false => simp [ho] at hdrop
            | true => simp [ho, hsec ho] at hdrop
      · next hkeep =>
          simp only [Bool.or_eq_true, Bool.and_eq_true, Bool.not_eq_true',
            not_or, not_and, Bool.not_eq_false] at hkeep
          rw [List.mem_map]
          constructor
          · intro h'
            obtain ⟨repo, hrepo, rfl⟩ := h'
            exact ⟨name, e, h, hkeep.1, hkeep.2, repo, hrepo, rfl⟩
          · intro h'
            obtain ⟨name', e', he, -, -, repo, hrepo, rfl⟩ := h'
            rw [h] at he
            cases he
            exact ⟨repo, hrepo, rfl⟩

theorem mem_updatesTo {own : List Repository} {arch : ArchId}
    {id : PackageId} {u : Update} :
    u ∈ c.updatesTo r o own arch id ↔
      ∃ p, c.packages[id]? = some p ∧ (arch, p.arch) ∈ c.replacements ∧
        ∃ x ∈ c.packageErrata.listAt id,
          u ∈ c.updatesThrough r o own id p x := by
  rw [updatesTo]
  split
  · next h => simp [h]
  · next p h =>
      split
      · next hr =>
          rw [mayReplace, ← Std.ExtTreeSet.mem_iff_contains] at hr
          simp [h, hr, List.mem_flatMap]
      · next hr =>
          rw [mayReplace, ← Std.ExtTreeSet.mem_iff_contains] at hr
          simp [h, hr]

theorem mem_drop_iff {α : Type} {xs : List α} {n : Nat} {x : α} :
    x ∈ xs.drop n ↔ ∃ q, n ≤ q ∧ xs[q]? = some x := by
  rw [List.mem_iff_getElem?]
  constructor
  · intro h
    obtain ⟨k, hk⟩ := h
    exact ⟨n + k, Nat.le_add_right n k, by rwa [List.getElem?_drop] at hk⟩
  · intro h
    obtain ⟨q, hq, hx⟩ := h
    exact ⟨q - n, by rw [List.getElem?_drop, Nat.add_sub_cancel' hq, hx]⟩

/-- What is found at a candidate behind an installed package is exactly what
is offered from it. -/
theorem mem_updatesTo_iff_offer {key : PackageKey} {i : Installed}
    (h : c.Places key i) {id : PackageId} {u : Update} :
    (id ∈ i.versions.drop i.next ∧
      u ∈ c.updatesTo r o (c.repositoriesOf i.package) i.arch id) ↔
      ∃ f : Offer c r o key i.package, f.candidate = id ∧ f.update = u := by
  simp only [mem_drop_iff, mem_updatesTo, mem_updatesThrough,
    mem_updateRepositories, h.versions, h.arch, h.behind]
  constructor
  · intro h'
    obtain ⟨⟨q, hq, hid⟩, p, hp, hrep, x, hx, name, e, he, hsec, hpair,
      repo, ⟨rid, hcar, hrel, hadm, hdet, hscope⟩, rfl⟩ := h'
    obtain ⟨hname, hdesc⟩ := erratum?_eq_some_iff.1 he
    obtain ⟨hlab, hver, hbase⟩ :=
      (UpdatesRequest.admitsRepository_iff hdet).1 hadm
    obtain ⟨⟨d, hd, hprod⟩, ⟨d', hd', hrls⟩⟩ := inScope_iff.1 hscope
    obtain ⟨own, hown, hownd⟩ := mem_repositoriesOf.1 hd
    obtain ⟨own', hown', hownd'⟩ := mem_repositoriesOf.1 hd'
    exact ⟨{
      place := q, candidate := id, package := p, erratumId := x, name := name
      erratum := e, repositoryId := rid, repository := repo
      behind := hq, stands := hid, known := hp, replaces := hrep, ships := hx
      named := hname, described := hdesc
      security := fun ho => Erratum.isSecurity_iff.1 (hsec ho)
      enabled := UpdatesRequest.admitsPair_iff.1 hpair
      carries := hcar, released := hrel, detailed := hdet, labelled := hlab
      releasever := hver, basearch := hbase
      product := ⟨own, hown, d, hownd, hprod⟩
      release := ⟨own', hown', d', hownd', hrls⟩ }, rfl, rfl⟩
  · intro h'
    obtain ⟨f, rfl, rfl⟩ := h'
    obtain ⟨own, hown, d, hownd, hprod⟩ := f.product
    obtain ⟨own', hown', d', hownd', hrls⟩ := f.release
    refine ⟨⟨f.place, f.behind, f.stands⟩, f.package, f.known,
      f.replaces, f.erratumId, f.ships, f.name, f.erratum,
      erratum?_eq_some_iff.2 ⟨f.named, f.described⟩,
      fun ho => Erratum.isSecurity_iff.2 (f.security ho),
      UpdatesRequest.admitsPair_iff.2 f.enabled, f.repository,
      ⟨f.repositoryId, f.carries, f.released, ?_, f.detailed, ?_⟩, rfl⟩
    · exact (UpdatesRequest.admitsRepository_iff f.detailed).2
        ⟨f.labelled, f.releasever, f.basearch⟩
    · exact inScope_iff.2
        ⟨⟨d, mem_repositoriesOf.2 ⟨own, hown, hownd⟩, hprod⟩,
          ⟨d', mem_repositoriesOf.2 ⟨own', hown', hownd'⟩, hrls⟩⟩

/-- The updates behind an installed package are exactly those that are
offered to it. -/
theorem mem_updatesBehind {key : PackageKey} {i : Installed}
    (h : c.Places key i) {u : Update} : u ∈ c.updatesBehind r o i ↔
      ∃ f : Offer c r o key i.package, f.update = u := by
  rw [updatesBehind, mem_stableSort, List.mem_flatMap]
  constructor
  · intro h'
    obtain ⟨id, hid⟩ := h'
    obtain ⟨f, -, hf⟩ := (mem_updatesTo_iff_offer h).1 hid
    exact ⟨f, hf⟩
  · intro h'
    obtain ⟨f, hf⟩ := h'
    exact ⟨f.candidate, (mem_updatesTo_iff_offer h).2 ⟨f, rfl, hf⟩⟩

end Catalog

end Advisory
