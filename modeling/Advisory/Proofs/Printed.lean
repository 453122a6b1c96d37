import Advisory.Proofs.Backing
import Advisory.Proofs.Identifiers
import Advisory.Proofs.Recognition

/-!
# Printed identifiers can be sent back

Answers show packages by their written identifiers, and a request names
packages in the same way. The way from a package to its text and the way back
share no dictionary: writing goes from numbers to words, reading from words to
numbers and from the numbers to the package. Each of the three dictionaries of
words is turned around by the one that is used on the way back if no word
stands under two numbers; a number that is given twice does no harm, since
only the word that is kept for it is written. Together with packages that do
not share all three numbers this closes the circle, for every package with an
identifier that can be read from its written form.

Identifiers are shown in many places, but all of them were written for a known
package, so what holds of a written identifier holds of a printed one.
-/

namespace Advisory

/-! ## What answers print -/

/-- The identifiers that an entry about a package shows. -/
def PackageEntry.identifiers (e : PackageEntry) : List String :=
  (if e.source = "" then [] else [e.source]) ++ e.binaries

/-- The identifiers of packages that an answer shows, apart from those that
it repeats from the request. -/
def Answer.identifiers : Answer → List String
  | updates a => a.updates.map (·.package)
  | vulnerabilities _ => []
  | cves a => a.entries.flatMap fun x => x.2.packages ++ x.2.sourcePackages
  | errata a => a.entries.flatMap fun x => x.2.packages ++ x.2.sourcePackages
  | repositories _ => []
  | packages a => a.entries.toList.flatMap fun x => x.2.identifiers
  | freshness _ => []

section Printed

variable {c : Catalog} {text : String}

theorem Catalog.written?_eq_some_iff {id : PackageId} :
    c.written? id = some text ↔
      ∃ p, c.packages[id]? = some p ∧ c.written p = text := by
  rw [written?, Option.map_eq_some_iff]

theorem Catalog.mem_splitBySource {ids : List PackageId}
    (h : text ∈ (c.splitBySource ids).1 ++ (c.splitBySource ids).2) :
    ∃ id, c.written? id = some text := by
  have hknown : ∃ p ∈ ids.filterMap (c.packages[·]?),
      c.written p = text := by
    rcases List.mem_append.1 h with h | h
    · obtain ⟨p, hp, heq⟩ := List.mem_map.1 h
      exact ⟨p, (List.mem_filter.1 hp).1, heq⟩
    · obtain ⟨p, hp, heq⟩ := List.mem_map.1 h
      exact ⟨p, (List.mem_filter.1 hp).1, heq⟩
  obtain ⟨p, hp, heq⟩ := hknown
  obtain ⟨id, -, hid⟩ := List.mem_filterMap.1 hp
  exact ⟨id, written?_eq_some_iff.2 ⟨p, hid, heq⟩⟩

theorem Catalog.mem_packageEntry {id : PackageId} {p : Package}
    (h : text ∈ (c.packageEntry id p).identifiers) :
    ∃ id', c.written? id' = some text := by
  rcases List.mem_append.1 h with h | h
  · split at h
    · cases h
    · next hne =>
        rw [List.mem_singleton] at h
        subst h
        cases hp : p.source.bind c.written? with
        | none => exact absurd (by rw [packageEntry, hp]; rfl) hne
        | some source =>
            obtain ⟨id', -, hid'⟩ := Option.bind_eq_some_iff.1 hp
            exact ⟨id', by rw [packageEntry, hp]; exact hid'⟩
  · obtain ⟨id', -, hid'⟩ := List.mem_filterMap.1 h
    exact ⟨id', hid'⟩

theorem UpdatesRequest.mem_packages {r : UpdatesRequest} {o : UpdateOptions}
    (h : c.PlacesAscend)
    (ht : text ∈ (r.resolve c o).updates.map (·.package)) :
    ∃ id, c.written? id = some text := by
  obtain ⟨u, hu, rfl⟩ := List.mem_map.1 ht
  obtain ⟨key, installed, f, rfl⟩ := exists_offer h hu
  exact ⟨f.candidate, Catalog.written?_eq_some_iff.2 ⟨_, f.known, rfl⟩⟩

theorem PackagesRequest.mem_identifiers {q : PackagesRequest}
    (h : text ∈ (Answer.packages (q.answer c)).identifiers) :
    ∃ id, c.written? id = some text := by
  obtain ⟨⟨sent, entry⟩, hentry, htext⟩ := List.mem_flatMap.1 h
  rw [Std.ExtTreeMap.mem_toList_iff_getElem?_eq_some, getElem?_answer,
    Option.ite_none_right_eq_some, Catalog.packageEntry?_eq_some_iff]
    at hentry
  obtain ⟨-, n, id, p, -, -, -, rfl⟩ := hentry
  exact Catalog.mem_packageEntry htext

/-- Every identifier that an answer shows was written for a known package. -/
theorem Query.mem_identifiers (h : c.PlacesAscend) {q : Query} {a : Answer}
    (hq : q.process (some c) = .ok a) (ht : text ∈ a.identifiers) :
    ∃ id, c.written? id = some text := by
  have hanswer := Query.answer_of_process hq
  cases q with
  | updates version r =>
      cases hanswer
      exact r.mem_packages h ht
  | vulnerabilities r =>
      cases hanswer
      cases ht
  | cves r =>
      obtain ⟨b, -, rfl⟩ := map_eq_ok.1 hanswer
      obtain ⟨⟨name, entry⟩, hentry, ht⟩ := List.mem_flatMap.1 ht
      obtain ⟨v, -, rfl⟩ := Catalog.showsCve_iff.1 ⟨r, b, hq, hentry⟩
      exact Catalog.mem_splitBySource ht
  | errata r =>
      obtain ⟨b, -, rfl⟩ := map_eq_ok.1 hanswer
      obtain ⟨⟨name, entry⟩, hentry, ht⟩ := List.mem_flatMap.1 ht
      obtain ⟨e, -, rfl⟩ := Catalog.showsErratum_iff.1 ⟨r, b, hq, hentry⟩
      exact Catalog.mem_splitBySource ht
  | repositories r =>
      obtain ⟨b, -, rfl⟩ := map_eq_ok.1 hanswer
      cases ht
  | packages r =>
      cases hanswer
      exact r.mem_identifiers ht
  | freshness =>
      cases hanswer
      cases ht

end Printed

/-! ## From a package to its text and back -/

/-- No name, version or architecture stands under two numbers, and no two
packages have the same three numbers. -/
structure Tables.Distinct (t : Tables) : Prop where
  names : (t.names.map (·.2)).Nodup
  evrs : (t.evrs.map (·.2)).Nodup
  arches : (t.arches.map (·.2)).Nodup
  packages : (t.packages.map fun x => x.2.key).Nodup

/-- The numbers of a package stand for the parts of an identifier. -/
structure Catalog.Names (c : Catalog) (p : Package) (n : Nevra) : Prop where
  name : c.names[p.name]? = some n.name
  evr : c.evrs[p.evr]? = some n.evr
  arch : c.arches[p.arch]? = some n.arch

theorem Catalog.Names.nevra_eq {c : Catalog} {p : Package} {n : Nevra}
    (h : c.Names p n) : c.nevra p = n := by
  rw [nevra, h.name, h.evr, h.arch]
  rfl

/-- A text can be sent back for a package: it is read as an identifier, this
is found to be the one of the package, and every request for packages that
holds the text is answered with the entry of the package. -/
structure Catalog.Recovers (c : Catalog) (text : String) (id : PackageId)
    (p : Package) (n : Nevra) : Prop where
  parsed : Nevra.parse text = .ok n
  denotes : c.Denotes text p.key
  found : c.find? n = some id
  answered : ∀ q : PackagesRequest, text ∈ q.packages.getD [] →
    ∃ a, (Query.packages q).process (some c) = .ok (.packages a) ∧
      a.entries[text]? = some (c.packageEntry id p)

section Back

variable {t : Tables} {f : Freshness} {id : PackageId} {p : Package}
  {n : Nevra}

/-- The parts of an identifier stand for the numbers of the package. -/
theorem Tables.key?_of_names (h : t.Distinct)
    (hn : (t.catalog f).Names p n) : (t.catalog f).key? n = some p.key :=
  Catalog.key?_eq_some_iff.2 ⟨Dict.getElem?_ofPairs_swap h.names hn.name,
    Dict.getElem?_ofPairs_swap h.evrs hn.evr,
    Dict.getElem?_ofPairs_swap h.arches hn.arch⟩

theorem Tables.packageIds_key (h : t.Distinct)
    (hp : (t.catalog f).packages[id]? = some p) :
    (t.catalog f).packageIds[p.key]? = some id := by
  refine (Dict.getElem?_ofPairs_of_nodup ?_).2
    (List.mem_map.2 ⟨(id, p), Dict.mem_of_getElem?_ofPairs hp, rfl⟩)
  rw [List.map_map]
  exact h.packages

/-- A request that holds a text is not empty. -/
theorem PackagesRequest.process_of_mem {c : Catalog} {q : PackagesRequest}
    {text : String} (h : text ∈ q.packages.getD []) :
    (Query.packages q).process (some c) = .ok (.packages (q.answer c)) := by
  refine Query.process_of_validate ?_
  show requireList q.packages "package_list" = .ok ()
  cases hq : q.packages with
  | none => rw [hq] at h; cases h
  | some list =>
      rw [hq] at h
      exact requireList_of_ne_nil (List.ne_nil_of_mem h) _

theorem Tables.recovers_written (h : t.Distinct)
    (hp : (t.catalog f).packages[id]? = some p)
    (hn : (t.catalog f).Names p n) (hform : n.WellFormed) :
    (t.catalog f).Recovers ((t.catalog f).written p) id p n := by
  have hparse : Nevra.parse ((t.catalog f).written p) = .ok n := by
    rw [Catalog.written, hn.nevra_eq]
    exact Nevra.parse_render hform
  have hkey := Tables.key?_of_names h hn
  have hfind : (t.catalog f).find? n = some id :=
    Catalog.find?_eq_some_iff.2 ⟨p.key, hkey, Tables.packageIds_key h hp⟩
  refine ⟨hparse, Catalog.denotes_iff.2 ⟨n, hparse, hkey⟩, hfind,
    fun q hq => ⟨_, PackagesRequest.process_of_mem hq, ?_⟩⟩
  rw [PackagesRequest.getElem?_answer, if_pos hq]
  exact Catalog.packageEntry?_eq_some_iff.2
    ⟨n, id, p, hparse, hfind, hp, rfl⟩

end Back

/-- Where words and packages are unique, every known package with a readable
identifier can be sent back by what is written for it, and nothing else is
printed by any endpoint: a printed identifier is that of a known package, and
it can be sent back for each package that it was written for and that has a
readable identifier. -/
theorem printed_recovers {s : Snapshot} {t : Tables} {c : Catalog}
    (hread : Tables.read s = .ok t) (hload : Catalog.load s = .ok c)
    (h : t.Distinct) :
    (∀ id p n, c.packages[id]? = some p → c.Names p n → n.WellFormed →
      ∃ text, c.written? id = some text ∧ c.Recovers text id p n) ∧
    ∀ (q : Query) a, q.process (some c) = .ok a → ∀ text ∈ a.identifiers,
      (∃ id, c.written? id = some text) ∧
      ∀ id p n, c.written? id = some text → c.packages[id]? = some p →
        c.Names p n → n.WellFormed → c.Recovers text id p n := by
  have hplaces := Catalog.load_placesAscend hload
  obtain ⟨f, rfl⟩ := Catalog.load_eq_catalog hread hload
  constructor
  · intro id p n hp hn hform
    exact ⟨_, Catalog.written?_eq_some_iff.2 ⟨p, hp, rfl⟩,
      Tables.recovers_written h hp hn hform⟩
  · intro q a hq text ht
    refine ⟨Query.mem_identifiers hplaces hq ht, ?_⟩
    intro id p n htext hp hn hform
    obtain ⟨p', hp', rfl⟩ := Catalog.written?_eq_some_iff.1 htext
    rw [hp] at hp'
    cases hp'
    exact Tables.recovers_written h hp hn hform

theorem kernel_distinct : kernelTables.Distinct where
  names := by decide
  evrs := by decide
  arches := by decide
  packages := by decide

/-- The identifier of the older build. -/
def kernelNevra : Nevra := ⟨"kernel", 0, "4", "1", "x86_64"⟩

theorem kernelNevra_wellFormed : kernelNevra.WellFormed where
  name := by simp [kernelNevra]
  epoch := Int.le_refl 0
  word := Int.natCast_nonneg _
  version := by simp [kernelNevra]
  release := by simp [kernelNevra]
  arch := by simp [kernelNevra]
  notRpm := by simp [kernelNevra]

theorem printed_recovers_kernel :
    Tables.read kernelSnapshot = .ok kernelTables ∧
    Catalog.load kernelSnapshot =
      .ok (kernelTables.catalog kernelFreshness) ∧
    kernelTables.Distinct ∧ kernelNevra.WellFormed ∧
    ∃ p, (kernelTables.catalog kernelFreshness).packages[
        (⟨10⟩ : PackageId)]? = some p ∧
      (kernelTables.catalog kernelFreshness).Names p kernelNevra ∧
      ∃ text, (kernelTables.catalog kernelFreshness).written? ⟨10⟩ =
          some text ∧
        (kernelTables.catalog kernelFreshness).Recovers text ⟨10⟩ p
          kernelNevra := by
  have hp : (kernelTables.catalog kernelFreshness).packages[
      (⟨10⟩ : PackageId)]? = some kernelTables.packages[0].2 := by
    decide +kernel
  have hn : (kernelTables.catalog kernelFreshness).Names
      kernelTables.packages[0].2 kernelNevra :=
    ⟨by decide +kernel, by decide +kernel, by decide +kernel⟩
  exact ⟨read_kernelSnapshot, load_kernelSnapshot, kernel_distinct,
    kernelNevra_wellFormed, _, hp, hn,
    (printed_recovers read_kernelSnapshot load_kernelSnapshot
      kernel_distinct).1 ⟨10⟩ _ _ hp hn kernelNevra_wellFormed⟩

end Advisory
