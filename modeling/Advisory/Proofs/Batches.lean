import Advisory.Proofs.Recognition
import Advisory.Proofs.Vulnerabilities

/-!
# Batches can be split and put together

A system may ask about all its packages at once or about a few at a time. Two
of the three endpoints that take a list of packages answer text by text, and
the entry of a text is a function of the text alone, so an answer is
determined by which texts the list holds. The third one gathers
vulnerabilities over all entries and forgets where they came from. As it keeps
each once and in order, forgetting does no harm: the vulnerabilities of two
lists together are those of either.

A text that is malformed, or has a part that is not known, has no entry among
packages and an empty one among updates. So it adds nothing to an answer but
that entry, and no vulnerability.
-/

namespace Advisory

/-! ## Dictionaries put together -/

/-- A dictionary holds what two others hold, which agree where both hold
something. -/
structure Dict.Unites {κ α : Type} [Ord κ] [Std.TransOrd κ]
    (d left right : Dict κ α) : Prop where
  agree : ∀ (k : κ) (v w : α), left[k]? = some v → right[k]? = some w → v = w
  holds : ∀ (k : κ) (v : α),
    d[k]? = some v ↔ left[k]? = some v ∨ right[k]? = some v

/-- Dictionaries of what one function says about some keys are put together
like the keys. -/
theorem Dict.unites_append {κ α : Type} [Ord κ] [Std.TransOrd κ]
    [DecidableEq κ] {f : κ → Option α} {keys keys' : List κ}
    {d left right : Dict κ α}
    (hd : ∀ k, d[k]? = if k ∈ keys ++ keys' then f k else none)
    (hleft : ∀ k, left[k]? = if k ∈ keys then f k else none)
    (hright : ∀ k, right[k]? = if k ∈ keys' then f k else none) :
    d.Unites left right where
  agree k v w hv hw := by
    rw [hleft, Option.ite_none_right_eq_some] at hv
    rw [hright, Option.ite_none_right_eq_some] at hw
    exact Option.some.inj (hv.2.symm.trans hw.2)
  holds k v := by
    simp only [hd, hleft, hright, Option.ite_none_right_eq_some,
      List.mem_append, or_and_right]

/-! ## Answers to a list -/

/-- What the endpoints that take lists of packages say about a list. -/
structure Batch where
  updates : Dict String PackageUpdates
  packages : Dict String PackageEntry
  cves : List String

/-- What is said about a list of packages by requests that are the same
otherwise. -/
def UpdatesRequest.batch (r : UpdatesRequest) (o : UpdateOptions)
    (c : Catalog) (list : List String) : Batch where
  updates := (({ r with packages := some list } : UpdatesRequest).resolve c
    o).entries
  packages := (PackagesRequest.answer ⟨some list⟩ c).entries
  cves := (({ r with packages := some list } : UpdatesRequest).vulnerabilities
    c).cves

/-- What is said about a list is put together from what is said about two
others. -/
structure Batch.Unites (b left right : Batch) : Prop where
  updates : b.updates.Unites left.updates right.updates
  packages : b.packages.Unites left.packages right.packages
  ascends : b.cves.Pairwise (· < ·)
  cves : ∀ name, name ∈ b.cves ↔ name ∈ left.cves ∨ name ∈ right.cves

/-- Two lists hold the same texts among those that stand for a key. They may
differ by order, by repetitions and by texts that are malformed or not
known. -/
def Catalog.SameItems (c : Catalog) (list list' : List String) : Prop :=
  ∀ text key, c.Denotes text key → (text ∈ list ↔ text ∈ list')

namespace UpdatesRequest

variable {c : Catalog} (r : UpdatesRequest) (o : UpdateOptions)

theorem getElem?_batch_updates (list : List String) (text : String) :
    (r.batch o c list).updates[text]? =
      if text ∈ list then some (c.updatesEntry r o text) else none :=
  getElem?_resolve _ c o text

theorem getElem?_batch_packages (list : List String) (text : String) :
    (r.batch o c list).packages[text]? =
      if text ∈ list then c.packageEntry? text else none :=
  PackagesRequest.getElem?_answer _ c text

theorem mem_batch_updates {list : List String} {text : String} :
    text ∈ (r.batch o c list).updates ↔ text ∈ list := by
  rw [Std.ExtTreeMap.mem_iff_isSome_getElem?, getElem?_batch_updates,
    Option.isSome_ite]

theorem mem_batch_packages {list : List String} {text : String} :
    text ∈ (r.batch o c list).packages ↔
      text ∈ list ∧ ∃ key, c.Denotes text key ∧ c.Knows key := by
  rw [Std.ExtTreeMap.mem_iff_isSome_getElem?, getElem?_batch_packages,
    Option.isSome_iff_exists, ← Catalog.exists_packageEntry_iff,
    ← exists_and_left]
  simp only [Option.ite_none_right_eq_some]

/-- The vulnerabilities of a list are those that the updates of its texts
fix. -/
theorem mem_batch_cves {list : List String} {name : String} :
    name ∈ (r.batch o c list).cves ↔ ∃ text ∈ list, ∃ updates,
      (c.updatesEntry r securityUpdates text).available = some updates ∧
      ∃ u ∈ updates, name ∈ c.fixedBy u.erratum := by
  rw [batch, mem_fixed_iff _ c securityUpdates]
  constructor
  · intro h
    obtain ⟨u, hu, hname⟩ := h
    obtain ⟨text, e, updates, he, hav, hu⟩ := UpdatesAnswer.mem_updates.1 hu
    rw [getElem?_resolve] at he
    split at he
    · next htext =>
        cases he
        exact ⟨text, htext, updates, hav, u, hu, hname⟩
    · cases he
  · intro h
    obtain ⟨text, htext, updates, hav, u, hu, hname⟩ := h
    refine ⟨u, UpdatesAnswer.mem_updates.2 ⟨text, _, updates, ?_, hav, hu⟩,
      hname⟩
    rw [getElem?_resolve]
    exact if_pos htext

theorem batch_unites (list list' : List String) :
    (r.batch o c (list ++ list')).Unites (r.batch o c list)
      (r.batch o c list') where
  updates := Dict.unites_append (r.getElem?_batch_updates o _)
    (r.getElem?_batch_updates o _) (r.getElem?_batch_updates o _)
  packages := Dict.unites_append (r.getElem?_batch_packages o _)
    (r.getElem?_batch_packages o _) (r.getElem?_batch_packages o _)
  ascends := (ascending_sorted _).imp compare_text_eq_lt.1
  cves name := by
    simp only [mem_batch_cves, List.mem_append, or_and_right, exists_or]

/-! ## Texts that stand for nothing -/

/-- Only a text that stands for a key can be placed. -/
theorem exists_denotes_of_available {text : String} {updates : List Update}
    (h : (c.updatesEntry r o text).available = some updates) :
    ∃ key, c.Denotes text key := by
  rw [Catalog.updatesEntry] at h
  split at h
  · cases h
  · next i hi =>
      obtain ⟨n, hn, hi⟩ := Option.bind_eq_some_iff.1 hi
      obtain ⟨key, hkey, -⟩ := Option.bind_eq_some_iff.1 hi
      exact ⟨key, Catalog.denotes_iff.2
        ⟨n, toOption_eq_some_iff.1 hn, hkey⟩⟩

theorem batch_packages_congr {list list' : List String}
    (h : c.SameItems list list') :
    (r.batch o c list).packages = (r.batch o c list').packages := by
  refine Std.ExtTreeMap.ext_getElem? fun text => ?_
  rw [getElem?_batch_packages, getElem?_batch_packages]
  cases hentry : c.packageEntry? text with
  | none => rw [ite_self, ite_self]
  | some entry =>
      obtain ⟨key, hkey, -⟩ := Catalog.exists_packageEntry_iff.1 ⟨_, hentry⟩
      simp only [h text key hkey]

theorem batch_cves_congr {list list' : List String}
    (h : c.SameItems list list') :
    (r.batch o c list).cves = (r.batch o c list').cves := by
  refine eq_of_ascending (ascending_sorted _) (ascending_sorted _)
    fun name => ?_
  refine (r.mem_batch_cves o).trans (Iff.trans ?_ (r.mem_batch_cves o).symm)
  refine exists_congr fun text => and_congr_left fun hfix => ?_
  obtain ⟨updates, hav, -⟩ := hfix
  obtain ⟨key, hkey⟩ := r.exists_denotes_of_available _ hav
  exact h text key hkey

end UpdatesRequest

/-- What is said about two lists together is what is said about either, put
together. Among updates exactly the texts of the lists have an entry, among
packages those that stand for a known package. In any two lists a text that
both hold or neither has the same entry, and texts that stand for nothing
change neither packages nor vulnerabilities, nor do order and repetition. -/
theorem batches_unite (r : UpdatesRequest) (o : UpdateOptions) (c : Catalog)
    (list list' : List String) :
    (r.batch o c (list ++ list')).Unites (r.batch o c list)
      (r.batch o c list') ∧
    (∀ text, text ∈ (r.batch o c (list ++ list')).updates ↔
      text ∈ list ∨ text ∈ list') ∧
    (∀ text, text ∈ (r.batch o c (list ++ list')).packages ↔
      (text ∈ list ∨ text ∈ list') ∧ ∃ key, c.Denotes text key ∧
        c.Knows key) ∧
    (∀ text, (text ∈ list ↔ text ∈ list') →
      (r.batch o c list).updates[text]? =
        (r.batch o c list').updates[text]? ∧
      (r.batch o c list).packages[text]? =
        (r.batch o c list').packages[text]?) ∧
    (c.SameItems list list' →
      (r.batch o c list).packages = (r.batch o c list').packages ∧
      (r.batch o c list).cves = (r.batch o c list').cves) := by
  refine ⟨r.batch_unites o list list', fun text => ?_, fun text => ?_,
    fun text h => ?_,
    fun h => ⟨r.batch_packages_congr o h, r.batch_cves_congr o h⟩⟩
  · rw [r.mem_batch_updates, List.mem_append]
  · rw [r.mem_batch_packages, List.mem_append]
  · simp only [r.getElem?_batch_updates, r.getElem?_batch_packages, h,
      and_self]

/-- A text without a version and a repetition change no vulnerability. -/
theorem batches_unite_reported :
    (reportedTables.catalog kernelFreshness).SameItems
      ["kernel-4-1.x86_64"]
      ["kernel", "kernel-4-1.x86_64", "kernel-4-1.x86_64"] ∧
    (kernelRequest.batch ⟨false, true⟩
      (reportedTables.catalog kernelFreshness)
      ["kernel", "kernel-4-1.x86_64", "kernel-4-1.x86_64"]).cves =
        ["CVE-2020-1"] := by
  have hsame : (reportedTables.catalog kernelFreshness).SameItems
      ["kernel-4-1.x86_64"]
      ["kernel", "kernel-4-1.x86_64", "kernel-4-1.x86_64"] := by
    intro text key hkey
    have hne : text ≠ "kernel" := by
      rintro rfl
      obtain ⟨n, hn, -⟩ := hkey
      have hbad : Nevra.parse "kernel" = .error ⟨"kernel"⟩ := by decide
      rw [hbad] at hn
      cases hn
    simp [hne]
  have hcves : (kernelRequest.batch ⟨false, true⟩
      (reportedTables.catalog kernelFreshness)
      ["kernel-4-1.x86_64"]).cves = ["CVE-2020-1"] := by
    decide +kernel
  have h := batches_unite kernelRequest ⟨false, true⟩
    (reportedTables.catalog kernelFreshness) ["kernel-4-1.x86_64"]
    ["kernel", "kernel-4-1.x86_64", "kernel-4-1.x86_64"]
  exact ⟨hsame, (h.2.2.2.2 hsame).2.symm.trans hcves⟩

end Advisory
