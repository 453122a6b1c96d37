import Advisory.Proofs.SecurityMode

/-!
# Vulnerabilities are what the updates fix

The vulnerabilities of installed packages are looked for among the security
updates only, and this loses nothing: an erratum that fixes a vulnerability
concerns security by definition, so the updates that the restriction drops
fix none. What is answered is therefore a projection of any answer about
updates of the same packages, restricted or not, with texts or without.

Every vulnerability that is named is also described. Names come from the rows
of the table that the descriptions come from, and a description is replaced
by a later row with its name, never removed.
-/

namespace Advisory

/-! ## Named vulnerabilities are described -/

theorem Tables.mem_cvesByName {t : Tables} {row : CveRow}
    (h : row ∈ t.cves) : row.name ∈ t.cvesByName := by
  rw [← Std.ExtTreeMap.mem_keys, Tables.cvesByName, Dict.mem_keys_ofPairs,
    List.map_map, List.mem_map]
  rw [← markFirst_map_fst (·.id) ∅ t.cves, List.mem_map] at h
  obtain ⟨⟨row', first⟩, hm, rfl⟩ := h
  exact ⟨(row', first), hm, rfl⟩

namespace Catalog

theorem load_mem_cves {s : Snapshot} {c : Catalog}
    (h : Catalog.load s = .ok c) {id : CveId} {name : String}
    (hname : c.cveNames[id]? = some name) : name ∈ c.cves := by
  obtain ⟨t, f, -, -, rfl⟩ := load_eq_ok_iff.1 h
  obtain ⟨row, hrow, heq⟩ :=
    List.mem_map.1 (Dict.mem_of_getElem?_ofPairs hname)
  cases heq
  exact Tables.mem_cvesByName hrow

/-! ## What an erratum fixes -/

variable {c : Catalog} {name : String}

theorem mem_fixedBy {erratum : String} : name ∈ c.fixedBy erratum ↔
    ∃ e, c.errata[erratum]? = some e ∧
      ∃ id ∈ e.cves, c.cveNames[id]? = some name := by
  rw [fixedBy]
  cases c.errata[erratum]? with
  | none => simp
  | some e => simp [cveNamesOf]

/-- An update that fixes a vulnerability is a security update. -/
theorem isSecurityUpdate_of_mem_fixedBy {u : Update}
    (h : name ∈ c.fixedBy u.erratum) : c.isSecurityUpdate u = true := by
  obtain ⟨e, he, id, hid, -⟩ := mem_fixedBy.1 h
  rw [isSecurityUpdate_eq c he, Erratum.isSecurity_iff]
  exact Or.inr (List.ne_nil_of_mem hid)

end Catalog

/-! ## The updates of an answer -/

theorem UpdatesAnswer.mem_updates {a : UpdatesAnswer} {u : Update} :
    u ∈ a.updates ↔ ∃ (text : String) (e : PackageUpdates)
      (updates : List Update), a.entries[text]? = some e ∧
        e.available = some updates ∧ u ∈ updates := by
  rw [UpdatesAnswer.updates, List.mem_flatMap]
  constructor
  · intro h
    obtain ⟨⟨text, e⟩, hm, hu⟩ := h
    rw [Std.ExtTreeMap.mem_toList_iff_getElem?_eq_some] at hm
    change u ∈ e.available.getD [] at hu
    cases hav : e.available with
    | none => simp [hav] at hu
    | some updates =>
        rw [hav, Option.getD_some] at hu
        exact ⟨text, e, updates, hm, hav, hu⟩
  · intro h
    obtain ⟨text, e, updates, hm, hav, hu⟩ := h
    refine ⟨(text, e),
      Std.ExtTreeMap.mem_toList_iff_getElem?_eq_some.2 hm, ?_⟩
    show u ∈ e.available.getD []
    rw [hav, Option.getD_some]
    exact hu

namespace UpdatesRequest

variable (r : UpdatesRequest) (c : Catalog)

/-- The updates of a restricted answer are the security updates of an
unrestricted one. -/
theorem mem_updates_security (b b' : Bool) {u : Update} :
    u ∈ (r.resolve c ⟨b, true⟩).updates ↔
      u ∈ (r.resolve c ⟨b', false⟩).updates ∧
        c.isSecurityUpdate u = true := by
  rw [UpdatesAnswer.mem_updates, UpdatesAnswer.mem_updates]
  constructor
  · intro h
    obtain ⟨text, e, updates, he, hav, hu⟩ := h
    have hlist := r.entries_security c b b' text
    rw [he, Option.map_some, hav] at hlist
    obtain ⟨e', he', heq⟩ := Option.map_eq_some_iff.1 hlist.symm
    obtain ⟨updates', hav', rfl⟩ := Option.map_eq_some_iff.1 heq
    obtain ⟨hu, hsec⟩ := List.mem_filter.1 hu
    exact ⟨⟨text, e', updates', he', hav', hu⟩, hsec⟩
  · intro h
    obtain ⟨⟨text, e', updates', he', hav', hu⟩, hsec⟩ := h
    have hlist := r.entries_security c b b' text
    rw [he', Option.map_some, hav', Option.map_some] at hlist
    obtain ⟨e, he, hav⟩ := Option.map_eq_some_iff.1 hlist
    exact ⟨text, e, _, he, hav, List.mem_filter.2 ⟨hu, hsec⟩⟩

/-- Whatever the options, the same vulnerabilities are fixed. -/
theorem mem_fixed_iff (o : UpdateOptions) {name : String} :
    name ∈ (r.vulnerabilities c).cves ↔
      ∃ u ∈ (r.resolve c o).updates, name ∈ c.fixedBy u.erratum := by
  obtain ⟨b, restricted⟩ := o
  rw [vulnerabilities, mem_ascending, List.mem_flatMap]
  refine exists_congr fun u => and_congr_left fun hname => ?_
  have hsec := Catalog.isSecurityUpdate_of_mem_fixedBy hname
  cases restricted with
  | false => rw [securityUpdates, r.mem_updates_security c false b, hsec]; simp
  | true =>
      rw [securityUpdates, r.mem_updates_security c false false,
        r.mem_updates_security c b false]

end UpdatesRequest

/-- An answer about updates fixes a vulnerability: the erratum of one of its
updates carries a number that the vulnerability is named by. -/
def UpdatesAnswer.Fixes (a : UpdatesAnswer) (c : Catalog) (name : String) :
    Prop :=
  ∃ (text : String) (e : PackageUpdates) (updates : List Update) (u : Update)
    (erratum : Erratum) (id : CveId), a.entries[text]? = some e ∧
      e.available = some updates ∧ u ∈ updates ∧
      c.errata[u.erratum]? = some erratum ∧ id ∈ erratum.cves ∧
      c.cveNames[id]? = some name

theorem UpdatesAnswer.fixes_iff {a : UpdatesAnswer} {c : Catalog}
    {name : String} : a.Fixes c name ↔
      ∃ u ∈ a.updates, name ∈ c.fixedBy u.erratum := by
  constructor
  · intro h
    obtain ⟨text, e, updates, u, erratum, id, he, hav, hu, hx, hid, hname⟩ := h
    exact ⟨u, UpdatesAnswer.mem_updates.2 ⟨text, e, updates, he, hav, hu⟩,
      Catalog.mem_fixedBy.2 ⟨erratum, hx, id, hid, hname⟩⟩
  · intro h
    obtain ⟨u, hu, hname⟩ := h
    obtain ⟨text, e, updates, he, hav, hu⟩ := UpdatesAnswer.mem_updates.1 hu
    obtain ⟨erratum, hx, id, hid, hname⟩ := Catalog.mem_fixedBy.1 hname
    exact ⟨text, e, updates, u, erratum, id, he, hav, hu, hx, hid, hname⟩

/-- The vulnerabilities of a request are described, in order and once each,
and they are those that the updates of the request fix, under any options.
What the request says about security mode does not matter. -/
theorem vulnerabilities_project {s : Snapshot} {c : Catalog}
    (hload : Catalog.load s = .ok c) (r : UpdatesRequest) :
    (r.vulnerabilities c).cves.Pairwise (· < ·) ∧
    (∀ name ∈ (r.vulnerabilities c).cves, name ∈ c.cves) ∧
    (∀ (o : UpdateOptions) (name : String),
      name ∈ (r.vulnerabilities c).cves ↔ (r.resolve c o).Fixes c name) ∧
    (∀ o : UpdateOptions, (r.vulnerabilities c).cves =
      ascending ((r.resolve c o).updates.flatMap
        fun u => c.fixedBy u.erratum)) ∧
    ∀ b, ({ r with securityOnly := b } : UpdatesRequest).vulnerabilities c =
      r.vulnerabilities c := by
  have hsorted := ascending_sorted
    ((r.resolve c securityUpdates).updates.flatMap
      fun u => c.fixedBy u.erratum)
  refine ⟨hsorted.imp compare_text_eq_lt.1, fun name hname => ?_,
    fun o name => ?_, fun o => ?_, fun b => rfl⟩
  · obtain ⟨u, -, hfix⟩ := (r.mem_fixed_iff c securityUpdates).1 hname
    obtain ⟨_, -, _, -, hid⟩ := Catalog.mem_fixedBy.1 hfix
    exact Catalog.load_mem_cves hload hid
  · rw [UpdatesAnswer.fixes_iff, r.mem_fixed_iff c o]
  · refine eq_of_ascending hsorted (ascending_sorted _) fun name => ?_
    rw [mem_ascending, List.mem_flatMap]
    exact r.mem_fixed_iff c o

theorem vulnerabilities_project_reported :
    Catalog.load reportedSnapshot =
      .ok (reportedTables.catalog kernelFreshness) ∧
    (kernelRequest.vulnerabilities
      (reportedTables.catalog kernelFreshness)).cves = ["CVE-2020-1"] ∧
    "CVE-2020-1" ∈ (reportedTables.catalog kernelFreshness).cves ∧
    (kernelRequest.resolve (reportedTables.catalog kernelFreshness)
      ⟨true, false⟩).Fixes (reportedTables.catalog kernelFreshness)
        "CVE-2020-1" := by
  have hcves : (kernelRequest.vulnerabilities
      (reportedTables.catalog kernelFreshness)).cves = ["CVE-2020-1"] := by
    decide +kernel
  have hmem : "CVE-2020-1" ∈ (kernelRequest.vulnerabilities
      (reportedTables.catalog kernelFreshness)).cves := by
    rw [hcves]
    exact List.mem_singleton.2 rfl
  have h := vulnerabilities_project load_reportedSnapshot kernelRequest
  exact ⟨load_reportedSnapshot, hcves, h.2.1 _ hmem, (h.2.2.1 _ _).1 hmem⟩

end Advisory
