import Mathlib.Data.List.Flatten
import Advisory.Proofs.Resolution

/-!
# What is found, and where

The list of a package shows updates, and an update does not show which
candidate and which erratum it was found at. What a request admits is decided
there, though, for one pair of a candidate and an erratum after the other. So
answers under different restrictions are compared one step earlier: a finding
is an update together with its pair, and the list of a package is what is
found for it, in order.

Two laws carry such comparisons from the pairs to whole answers. If at every
pair one search finds what another one finds and a test keeps, it finds
altogether what the test keeps, and where the test looks at updates alone the
lists that are shown are filtered by it. If what is found is a part of what is
found elsewhere, in the same order and as often, so are the lists. Both come
down to the sort, which commutes with dropping elements.
-/

namespace Advisory

/-- An update, with the candidate and the erratum it is found at. -/
structure Finding where
  package : PackageId
  erratum : ErratumId
  update : Update
deriving DecidableEq, Repr

namespace Catalog

variable (c : Catalog) (r : UpdatesRequest) (o : UpdateOptions)

/-! ## Findings -/

/-- What is found at a candidate. -/
def findingsAt (own : List Repository) (arch : ArchId) (id : PackageId) :
    List Finding :=
  match c.packages[id]? with
  | none => []
  | some p =>
    if c.mayReplace arch p.arch then
      (c.packageErrata.listAt id).flatMap fun x =>
        (c.updatesThrough r o own id p x).map (⟨id, x, ·⟩)
    else []

/-- What is found for an installed package: nothing behind the newest one. -/
def findings (i : Installed) : List Finding :=
  if i.versions.getLast? = some i.package then []
  else (i.versions.drop i.next).flatMap
    (c.findingsAt r o (c.repositoriesOf i.package) i.arch)

theorem map_update_findingsAt (own : List Repository) (arch : ArchId)
    (id : PackageId) : (c.findingsAt r o own arch id).map (·.update) =
      c.updatesTo r o own arch id := by
  rw [findingsAt, updatesTo]
  cases c.packages[id]? with
  | none => rfl
  | some p =>
      dsimp only
      split
      · simp [List.map_flatMap, Function.comp_def]
      · rfl

/-- The list of a package is what is found for it, in order. -/
theorem updatesOf_eq_findings (i : Installed) : c.updatesOf r o i =
    stableSort compare ((c.findings r o i).map (·.update)) := by
  rw [updatesOf, findings]
  split
  · rfl
  · rw [updatesBehind, List.map_flatMap]
    simp only [map_update_findingsAt]

variable {c r o} {r' : UpdatesRequest} {o' : UpdateOptions}

theorem package_of_mem_findingsAt {own : List Repository} {arch : ArchId}
    {id : PackageId} {g : Finding} (h : g ∈ c.findingsAt r o own arch id) :
    g.package = id := by
  rw [findingsAt] at h
  split at h
  · cases h
  · split at h
    · obtain ⟨x, -, hx⟩ := List.mem_flatMap.1 h
      obtain ⟨u, -, rfl⟩ := List.mem_map.1 hx
      rfl
    · cases h

/-- What is found is offered, from the candidate it is found at. -/
theorem Places.offer_of_mem_findings {key : PackageKey} {i : Installed}
    (h : c.Places key i) {g : Finding} (hg : g ∈ c.findings r o i) :
    ∃ f : Offer c r o key i.package,
      f.candidate = g.package ∧ f.update = g.update := by
  rw [findings] at hg
  split at hg
  · cases hg
  · obtain ⟨id, hid, hfound⟩ := List.mem_flatMap.1 hg
    obtain rfl := package_of_mem_findingsAt hfound
    refine (mem_updatesTo_iff_offer h).1 ⟨hid, ?_⟩
    rw [← map_update_findingsAt]
    exact List.mem_map_of_mem hfound

/-! ## A search that filters another one -/

theorem findingsAt_filter {keep : Finding → Bool} {own : List Repository}
    (h : ∀ id p x, c.updatesThrough r o own id p x =
      (c.updatesThrough r' o' own id p x).filter (keep ⟨id, x, ·⟩))
    (arch : ArchId) (id : PackageId) : c.findingsAt r o own arch id =
      (c.findingsAt r' o' own arch id).filter keep := by
  rw [findingsAt, findingsAt]
  split
  · rfl
  · split
    · rw [List.filter_flatMap]
      refine congrArg (List.flatMap · _) (funext fun x => ?_)
      rw [h, List.filter_map]
      rfl
    · rfl

/-- What is found at each pair is filtered, so what is found is filtered. -/
theorem findings_filter {keep : Finding → Bool}
    (h : ∀ own id p x, c.updatesThrough r o own id p x =
      (c.updatesThrough r' o' own id p x).filter (keep ⟨id, x, ·⟩))
    (i : Installed) :
    c.findings r o i = (c.findings r' o' i).filter keep := by
  rw [findings, findings]
  split
  · rfl
  · rw [List.filter_flatMap]
    exact congrArg (List.flatMap · _)
      (funext fun id => findingsAt_filter (h _) i.arch id)

/-- Where a test looks at updates alone, it filters the lists. -/
theorem updatesOf_filter {keep : Update → Bool}
    (h : ∀ own id p x, c.updatesThrough r o own id p x =
      (c.updatesThrough r' o' own id p x).filter keep)
    (i : Installed) :
    c.updatesOf r o i = (c.updatesOf r' o' i).filter keep := by
  have hfind : c.findings r o i =
      (c.findings r' o' i).filter (keep ·.update) := findings_filter h i
  rw [updatesOf_eq_findings, updatesOf_eq_findings, filter_stableSort, hfind,
    List.filter_map]
  rfl

/-! ## Parts of what is found -/

theorem updatesOf_sublist {i i' : Installed}
    (h : (c.findings r o i).Sublist (c.findings r' o' i')) :
    (c.updatesOf r o i).Sublist (c.updatesOf r' o' i') := by
  rw [updatesOf_eq_findings, updatesOf_eq_findings]
  exact stableSort_sublist (h.map _)

end Catalog

/-! ## Answers -/

/-- What is found for a text of a request, if the text can be placed. -/
def UpdatesRequest.findings? (r : UpdatesRequest) (c : Catalog)
    (o : UpdateOptions) (text : String) : Option (List Finding) :=
  if text ∈ r.packages.getD [] then
    ((Nevra.parse text).toOption.bind c.installed?).map (c.findings r o)
  else none

/-- The list that an answer gives for a text, if it gives one. -/
def UpdatesAnswer.listOf? (a : UpdatesAnswer) (text : String) :
    Option (List Update) :=
  a.entries[text]?.bind (·.available)

/-- An answer gives lists for the same texts as another one, each of them a
part of the list there, in its order. -/
def UpdatesAnswer.Within (a b : UpdatesAnswer) : Prop :=
  ∀ text, Option.Rel List.Sublist (a.listOf? text) (b.listOf? text)

namespace UpdatesRequest

variable {r r' : UpdatesRequest} {c : Catalog} {o o' : UpdateOptions}

theorem listOf?_resolve (r : UpdatesRequest) (c : Catalog)
    (o : UpdateOptions) (text : String) : (r.resolve c o).listOf? text =
      if text ∈ r.packages.getD [] then
        ((Nevra.parse text).toOption.bind c.installed?).map (c.updatesOf r o)
      else none := by
  rw [UpdatesAnswer.listOf?, getElem?_resolve]
  split
  · exact c.available_updatesEntry r o text
  · rfl

/-- An answer gives for a text what is found for it, in order. -/
theorem listOf?_eq_findings (r : UpdatesRequest) (c : Catalog)
    (o : UpdateOptions) (text : String) : (r.resolve c o).listOf? text =
      (r.findings? c o text).map fun found =>
        stableSort compare (found.map (·.update)) := by
  rw [listOf?_resolve, findings?]
  split
  · rw [Option.map_map]
    exact congrArg (Option.map · _)
      (funext fun i => c.updatesOf_eq_findings r o i)
  · rfl

theorem findings?_filter {keep : Finding → Bool}
    (hpackages : r.packages = r'.packages)
    (h : ∀ own id p x, c.updatesThrough r o own id p x =
      (c.updatesThrough r' o' own id p x).filter (keep ⟨id, x, ·⟩))
    (text : String) : r.findings? c o text =
      (r'.findings? c o' text).map (List.filter keep) := by
  rw [findings?, findings?, hpackages]
  split
  · rw [Option.map_map]
    exact congrArg (Option.map · _)
      (funext fun i => Catalog.findings_filter h i)
  · rfl

theorem listOf?_filter {keep : Update → Bool}
    (hpackages : r.packages = r'.packages)
    (h : ∀ own id p x, c.updatesThrough r o own id p x =
      (c.updatesThrough r' o' own id p x).filter keep) (text : String) :
    (r.resolve c o).listOf? text =
      ((r'.resolve c o').listOf? text).map (List.filter keep) := by
  rw [listOf?_resolve, listOf?_resolve, hpackages]
  split
  · rw [Option.map_map]
    exact congrArg (Option.map · _)
      (funext fun i => Catalog.updatesOf_filter h i)
  · rfl

/-- Who finds a part of what another one finds is answered a part of what the
other one is answered. -/
theorem resolve_within (h : ∀ text, Option.Rel List.Sublist
      (r.findings? c o text) (r'.findings? c o' text)) :
    (r.resolve c o).Within (r'.resolve c o') := by
  intro text
  have hfound := h text
  rw [listOf?_eq_findings, listOf?_eq_findings]
  generalize r.findings? c o text = found at hfound ⊢
  generalize r'.findings? c o' text = found' at hfound ⊢
  cases hfound with
  | none => exact .none
  | some hpart => exact .some (stableSort_sublist (hpart.map _))

end UpdatesRequest

/-! ## A snapshot with three builds -/

/-- The snapshot with two builds, and a third build that an erratum without
vulnerabilities ships as a part of a module, through two repositories. -/
def streamedSnapshot : Snapshot where
  tables := [
    ("evr", some ⟨["id", "epoch", "version", "release"],
      [[.integer 1, .integer 0, .text "4", .text "1"],
        [.integer 2, .integer 0, .text "4", .text "2"],
        [.integer 3, .integer 0, .text "4", .text "3"]]⟩),
    ("package_detail", some ⟨["id", "name_id", "evr_id", "arch_id",
      "summary_id", "description_id", "source_package_id"],
      [[.integer 10, .integer 1, .integer 1, .integer 1, .integer 0,
          .integer 0, .null],
        [.integer 20, .integer 1, .integer 2, .integer 1, .integer 0,
          .integer 0, .null],
        [.integer 30, .integer 1, .integer 3, .integer 1, .integer 0,
          .integer 0, .null]]⟩),
    ("updates", some ⟨["name_id", "package_id", "package_order"],
      [[.integer 1, .integer 10, .integer 0],
        [.integer 1, .integer 20, .integer 1],
        [.integer 1, .integer 30, .integer 2]]⟩),
    ("updates_index", some ⟨["name_id", "evr_id", "package_order"],
      [[.integer 1, .integer 1, .integer 0],
        [.integer 1, .integer 2, .integer 1],
        [.integer 1, .integer 3, .integer 2]]⟩),
    ("repo_detail", some ⟨["id", "label", "name", "url", "basearch",
      "releasever", "product", "product_id", "revision"],
      [[.integer 5, .text "baseos", .text "BaseOS", .text "http://mirror/8",
          .null, .text "8", .text "Enterprise", .integer 7, .null],
        [.integer 6, .text "appstream", .text "AppStream",
          .text "http://mirror/8", .null, .text "8", .text "Enterprise",
          .integer 7, .null]]⟩),
    ("pkg_repo", some ⟨["pkg_id", "repo_id"],
      [[.integer 10, .integer 5], [.integer 20, .integer 5],
        [.integer 30, .integer 5], [.integer 30, .integer 6]]⟩),
    ("pkg_errata", some ⟨["pkg_id", "errata_id"],
      [[.integer 20, .integer 100], [.integer 30, .integer 200]]⟩),
    ("errata_repo", some ⟨["errata_id", "repo_id"],
      [[.integer 100, .integer 5], [.integer 200, .integer 5],
        [.integer 200, .integer 6]]⟩),
    ("errata_modulepkg", some ⟨["errata_id", "module_stream_id", "pkg_id"],
      [[.integer 200, .integer 300, .integer 30]]⟩),
    ("errata_detail", some ⟨["id", "name", "synopsis", "summary", "type",
      "severity", "description", "solution", "issued", "updated", "url"],
      [[.integer 100, .text "RHSA-2020:1", .text "Important", .null,
          .text "security", .null, .null, .null, .null, .null, .text ""],
        [.integer 200, .text "RHBA-2020:2", .text "Minor", .null,
          .text "bugfix", .null, .null, .null, .null, .null, .text ""]]⟩),
    ("module_stream", some ⟨["stream_id", "module", "stream"],
      [[.integer 300, .text "kernel", .text "rt"]]⟩)] ++ kernelSnapshot.tables

/-- What the snapshot with three builds holds. -/
def streamedTables : Tables := { kernelTables with
  evrs := [(⟨1⟩, ⟨0, "4", "1"⟩), (⟨2⟩, ⟨0, "4", "2"⟩), (⟨3⟩, ⟨0, "4", "3"⟩)]
  packages := [(⟨10⟩, ⟨⟨1⟩, ⟨1⟩, ⟨1⟩, ⟨0⟩, ⟨0⟩, none⟩),
    (⟨20⟩, ⟨⟨1⟩, ⟨2⟩, ⟨1⟩, ⟨0⟩, ⟨0⟩, none⟩),
    (⟨30⟩, ⟨⟨1⟩, ⟨3⟩, ⟨1⟩, ⟨0⟩, ⟨0⟩, none⟩)]
  updates := [⟨⟨1⟩, ⟨10⟩, 0⟩, ⟨⟨1⟩, ⟨20⟩, 1⟩, ⟨⟨1⟩, ⟨30⟩, 2⟩]
  index := [⟨⟨1⟩, ⟨1⟩, 0⟩, ⟨⟨1⟩, ⟨2⟩, 1⟩, ⟨⟨1⟩, ⟨3⟩, 2⟩]
  repositories := [
    (⟨5⟩, ⟨"baseos", "BaseOS", "http://mirror/8", none, some "8",
      "Enterprise", 7, none⟩),
    (⟨6⟩, ⟨"appstream", "AppStream", "http://mirror/8", none, some "8",
      "Enterprise", 7, none⟩)]
  packageRepositories := [(⟨10⟩, ⟨5⟩), (⟨20⟩, ⟨5⟩), (⟨30⟩, ⟨5⟩), (⟨30⟩, ⟨6⟩)]
  packageErrata := [(⟨20⟩, ⟨100⟩), (⟨30⟩, ⟨200⟩)]
  erratumRepositories := [(⟨100⟩, ⟨5⟩), (⟨200⟩, ⟨5⟩), (⟨200⟩, ⟨6⟩)]
  modular := [⟨⟨200⟩, ⟨300⟩, ⟨30⟩⟩]
  errata := [
    ⟨⟨100⟩, "RHSA-2020:1", ⟨"Important", none, "security", none, none, none,
      none, none, ""⟩⟩,
    ⟨⟨200⟩, "RHBA-2020:2", ⟨"Minor", none, "bugfix", none, none, none, none,
      none, ""⟩⟩]
  streams := [(⟨"kernel", "rt"⟩, ⟨300⟩)] }

theorem read_streamedSnapshot :
    Tables.read streamedSnapshot = .ok streamedTables :=
  toOption_eq_some_iff.1 (by decide +kernel)

/-- The catalog with three builds. -/
def streamedCatalog : Catalog := streamedTables.catalog kernelFreshness

theorem load_streamedSnapshot :
    Catalog.load streamedSnapshot = .ok streamedCatalog :=
  Catalog.load_eq_ok_iff.2 ⟨_, _, read_streamedSnapshot, rfl, rfl⟩

/-- What the snapshot with three builds offers to the oldest of them: the
second one, and the third one from both repositories. -/
def streamedFindings : List Finding := [
  ⟨⟨20⟩, ⟨100⟩, ⟨"kernel-4-2.x86_64", "RHSA-2020:1", "baseos", "", "8"⟩⟩,
  ⟨⟨30⟩, ⟨200⟩, ⟨"kernel-4-3.x86_64", "RHBA-2020:2", "baseos", "", "8"⟩⟩,
  ⟨⟨30⟩, ⟨200⟩, ⟨"kernel-4-3.x86_64", "RHBA-2020:2", "appstream", "", "8"⟩⟩]

end Advisory
