import Advisory.Proofs.Printed

/-!
# Source packages and what is built from them

A package names its source package by number. The catalogue keeps this number
in the record, and beside it a dictionary from a source package to the packages
built from it, which is filled from the same rows. Where every package has one
row, the dictionary lists the rows that name a source, in ascending order of
their numbers, and an entry about a package shows both directions. Neither is a
closure: a source may have a source itself, name itself, or have no row at all.
-/

namespace Advisory

/-- The rows of the packages that are built from a source package. -/
def Tables.builtFrom (t : Tables) (source : PackageId) :
    List (PackageId × Package) :=
  t.packages.filter (·.2.source = some source)

/-- What an entry about a package says about sources: it lists all packages
built from it, each by what is written for it and in ascending order of their
numbers, and it names the source package if that has a row. -/
structure Tables.ShowsSources (t : Tables) (c : Catalog) (id : PackageId)
    (e : PackageEntry) : Prop where
  binaries : ∃ built : List (PackageId × Package),
    (∀ x, x ∈ built ↔ x ∈ t.packages ∧ x.2.source = some id) ∧
    built.Pairwise (fun x y => compare x.1 y.1 = .lt) ∧
    e.binaries = built.map (c.written ·.2)
  source : ∀ p, (id, p) ∈ t.packages → ∀ src, p.source = some src →
    ∀ q, (src, q) ∈ t.packages → e.source = c.written q
  noSource : ∀ p, (id, p) ∈ t.packages →
    (∀ src, p.source = some src → ∀ q, (src, q) ∉ t.packages) → e.source = ""

/-- Links that some rows give, grouped: under a key stand the rows with the
link. -/
theorem valuesOf_links {ρ κ α : Type} [DecidableEq κ] (link : ρ → Option κ)
    (value : ρ → α) (rows : List ρ) (k : κ) :
    valuesOf (rows.filterMap fun r => (link r).map (·, value r)) k =
      (rows.filter (link · = some k)).map value := by
  induction rows with
  | nil => rfl
  | cons r rows ih =>
      rw [valuesOf] at ih ⊢
      cases hr : link r with
      | none =>
          rw [List.filterMap_cons_none (by rw [hr]; rfl), ih,
            List.filter_cons_of_neg (by simp [hr])]
      | some k' =>
          rw [List.filterMap_cons_some (by rw [hr]; rfl)]
          by_cases hk : k' = k
          · rw [List.filter_cons_of_pos (by simpa using hk), List.map_cons, ih,
              List.filter_cons_of_pos (by simp [hr, hk]), List.map_cons]
          · rw [List.filter_cons_of_neg (by simpa using hk), ih,
              List.filter_cons_of_neg (by simp [hr, hk])]

section

variable {t : Tables} {f : Freshness} {id : PackageId}

theorem Tables.mem_builtFrom {source : PackageId} {x : PackageId × Package} :
    x ∈ t.builtFrom source ↔ x ∈ t.packages ∧ x.2.source = some source := by
  rw [builtFrom, List.mem_filter, decide_eq_true_eq]

/-- Packages are delivered in the order of their numbers. -/
theorem Tables.builtFrom_ascending {s : Snapshot} (h : t.DeliveredBy s)
    (hunique : (t.packages.map (·.1)).Nodup) (source : PackageId) :
    (t.builtFrom source).Pairwise fun x y => compare x.1 y.1 = .lt := by
  have hids : (t.packages.map (·.1)).Pairwise fun a b => compare a b = .lt :=
    ascending_of_sorted_nodup (List.pairwise_map.2 h.packages.sorted) hunique
  exact (List.pairwise_map.1 hids).filter _

theorem Tables.binaries_eq (t : Tables) (f : Freshness) (id : PackageId) :
    (t.catalog f).binaries.listAt id = (t.builtFrom id).map (·.1) := by
  show (Dict.group _).listAt id = _
  rw [Dict.listAt_group_eq_valuesOf]
  exact valuesOf_links (·.2.source) (·.1) t.packages id

theorem Tables.getElem?_packages (h : (t.packages.map (·.1)).Nodup)
    {p : Package} : (t.catalog f).packages[id]? = some p ↔
      (id, p) ∈ t.packages :=
  Dict.getElem?_ofPairs_of_nodup h

theorem Tables.packageEntry_binaries (h : (t.packages.map (·.1)).Nodup)
    (p : Package) : ((t.catalog f).packageEntry id p).binaries =
      (t.builtFrom id).map ((t.catalog f).written ·.2) := by
  show ((t.catalog f).binaries.listAt id).filterMap _ = _
  rw [binaries_eq, List.filterMap_map, ← List.filterMap_eq_map]
  refine List.filterMap_congr fun x hx => ?_
  have hx' := (getElem?_packages (f := f) h).2 (mem_builtFrom.1 hx).1
  show ((t.catalog f).packages[x.1]?).map _ = _
  rw [hx']
  rfl

/-- The entry of a package that has one row shows both directions. -/
theorem Tables.packageEntry_showsSources {s : Snapshot} (h : t.DeliveredBy s)
    (hunique : (t.packages.map (·.1)).Nodup) {p : Package}
    (hp : (id, p) ∈ t.packages) :
    t.ShowsSources (t.catalog f) id ((t.catalog f).packageEntry id p) where
  binaries := ⟨t.builtFrom id, fun _ => mem_builtFrom,
    builtFrom_ascending h hunique id, packageEntry_binaries hunique p⟩
  source := by
    intro p' hp' src hsrc q hq
    obtain rfl : p = p' :=
      congrArg Prod.snd (List.inj_on_of_nodup_map hunique hp hp' rfl)
    show (p.source.bind _).getD "" = _
    rw [hsrc]
    show ((t.catalog f).packages[src]?.map _).getD "" = _
    rw [(getElem?_packages hunique).2 hq]
    rfl
  noSource := by
    intro p' hp' hnone
    obtain rfl : p = p' :=
      congrArg Prod.snd (List.inj_on_of_nodup_map hunique hp hp' rfl)
    show (p.source.bind _).getD "" = _
    cases hsrc : p.source with
    | none => rfl
    | some src =>
        show ((t.catalog f).packages[src]?.map _).getD "" = _
        rw [Option.eq_none_iff_forall_ne_some.2 fun q hq =>
          hnone src hsrc q ((getElem?_packages hunique).1 hq)]
        rfl

/-- What is written for a package is listed under a source exactly if this is
the source of a package with the same writing. -/
theorem Tables.ShowsSources.mem_binaries_iff {c : Catalog} {e : PackageEntry}
    (h : t.ShowsSources c id e) (text : String) : text ∈ e.binaries ↔
      ∃ y ∈ t.packages, c.written y.2 = text ∧ y.2.source = some id := by
  obtain ⟨built, hmem, -, hbinaries⟩ := h.binaries
  rw [hbinaries, List.mem_map]
  constructor
  · rintro ⟨y, hy, rfl⟩
    obtain ⟨hy, hsource⟩ := (hmem y).1 hy
    exact ⟨y, hy, rfl, hsource⟩
  · rintro ⟨y, hy, rfl, hsource⟩
    exact ⟨y, (hmem y).2 ⟨hy, hsource⟩, rfl⟩

end

/-- Where every package has one row, each text of a request that stands for a
package is answered with an entry that shows its source and what is built from
it. What is written for a package is listed there exactly if the package, or one
that is written alike, is built from it. -/
theorem sources_mirrored {s : Snapshot} {t : Tables} {c : Catalog}
    (hread : Tables.read s = .ok t) (hload : Catalog.load s = .ok c)
    (hunique : (t.packages.map (·.1)).Nodup) {q : PackagesRequest}
    {text : String} {n : Nevra} {id : PackageId}
    (htext : text ∈ q.packages.getD []) (hparse : Nevra.parse text = .ok n)
    (hid : c.find? n = some id) :
    ∃ a e, (Query.packages q).process (some c) = .ok (.packages a) ∧
      a.entries[text]? = some e ∧ t.ShowsSources c id e ∧
      ∀ x ∈ t.packages, c.written x.2 ∈ e.binaries ↔
        ∃ y ∈ t.packages, c.written y.2 = c.written x.2 ∧
          y.2.source = some id := by
  obtain ⟨f, rfl⟩ := Catalog.load_eq_catalog hread hload
  obtain ⟨key, -, hkey⟩ := Catalog.find?_eq_some_iff.1 hid
  obtain ⟨⟨id', p⟩, hp, heq⟩ :=
    List.mem_map.1 (Dict.mem_of_getElem?_ofPairs hkey)
  obtain ⟨-, rfl⟩ := Prod.mk.inj heq
  have hshows := Tables.packageEntry_showsSources (f := f)
    (Tables.read_delivers hread) hunique hp
  refine ⟨q.answer _, _, PackagesRequest.process_of_mem htext, ?_, hshows,
    fun x _ => hshows.mem_binaries_iff _⟩
  rw [PackagesRequest.getElem?_answer, if_pos htext]
  exact Catalog.packageEntry?_eq_some_iff.2 ⟨n, id', p, hparse, hid,
    (Tables.getElem?_packages hunique).2 hp, rfl⟩

/-! ## A snapshot with a source package -/

/-- The snapshot with two builds, and the source package of the older one. The
newer build names a source package that has no row. -/
def sourcedSnapshot : Snapshot where
  tables := [
    ("arch", some ⟨["id", "arch"],
      [[.integer 1, .text "x86_64"], [.integer 2, .text "src"]]⟩),
    ("package_detail", some ⟨["id", "name_id", "evr_id", "arch_id",
      "summary_id", "description_id", "source_package_id"],
      [[.integer 30, .integer 1, .integer 1, .integer 2, .integer 0,
          .integer 0, .null],
        [.integer 20, .integer 1, .integer 2, .integer 1, .integer 0,
          .integer 0, .integer 40],
        [.integer 10, .integer 1, .integer 1, .integer 1, .integer 0,
          .integer 0, .integer 30]]⟩)] ++ kernelSnapshot.tables

/-- What the snapshot with a source package holds. -/
def sourcedTables : Tables := { kernelTables with
  arches := [(⟨1⟩, "x86_64"), (⟨2⟩, "src")]
  packages := [(⟨10⟩, ⟨⟨1⟩, ⟨1⟩, ⟨1⟩, ⟨0⟩, ⟨0⟩, some ⟨30⟩⟩),
    (⟨20⟩, ⟨⟨1⟩, ⟨2⟩, ⟨1⟩, ⟨0⟩, ⟨0⟩, some ⟨40⟩⟩),
    (⟨30⟩, ⟨⟨1⟩, ⟨1⟩, ⟨2⟩, ⟨0⟩, ⟨0⟩, none⟩)] }

theorem read_sourcedSnapshot :
    Tables.read sourcedSnapshot = .ok sourcedTables :=
  toOption_eq_some_iff.1 (by decide +kernel)

theorem load_sourcedSnapshot : Catalog.load sourcedSnapshot =
    .ok (sourcedTables.catalog kernelFreshness) :=
  Catalog.load_eq_ok_iff.2 ⟨_, _, read_sourcedSnapshot, rfl, rfl⟩

theorem sources_mirrored_sourced :
    Tables.read sourcedSnapshot = .ok sourcedTables ∧
    Catalog.load sourcedSnapshot =
      .ok (sourcedTables.catalog kernelFreshness) ∧
    (sourcedTables.packages.map (·.1)).Nodup ∧
    ∃ a e, (Query.packages ⟨some ["kernel-4-1.src"]⟩).process
        (some (sourcedTables.catalog kernelFreshness)) = .ok (.packages a) ∧
      a.entries["kernel-4-1.src"]? = some e ∧
      sourcedTables.ShowsSources (sourcedTables.catalog kernelFreshness) ⟨30⟩
        e ∧
      "kernel-4-1.x86_64" ∈ e.binaries ∧ "kernel-4-2.x86_64" ∉ e.binaries := by
  have hunique : (sourcedTables.packages.map (·.1)).Nodup := by decide
  have hparse : Nevra.parse "kernel-4-1.src" =
      .ok ⟨"kernel", 0, "4", "1", "src"⟩ :=
    toOption_eq_some_iff.1 (by decide +kernel)
  have hid : (sourcedTables.catalog kernelFreshness).find?
      ⟨"kernel", 0, "4", "1", "src"⟩ = some ⟨30⟩ := by
    decide +kernel
  obtain ⟨a, e, hprocess, hentry, hshows, -⟩ := sources_mirrored
    (q := ⟨some ["kernel-4-1.src"]⟩) read_sourcedSnapshot load_sourcedSnapshot
    hunique (List.mem_singleton.2 rfl) hparse hid
  refine ⟨read_sourcedSnapshot, load_sourcedSnapshot, hunique, a, e, hprocess,
    hentry, hshows, ?_, ?_⟩
  · rw [hshows.mem_binaries_iff]
    decide +kernel
  · rw [hshows.mem_binaries_iff]
    decide +kernel

end Advisory
