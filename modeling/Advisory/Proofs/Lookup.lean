import Advisory.Proofs.Selection

/-!
# One record asked for by its name

An answer by name is a page of records, each in the form that its endpoint
gives it. Two questions about such a page come up wherever answers of
different endpoints are compared. What does it say about a record it shows:
that is a function of the record alone, whatever else was asked for. And how
is one record reached: by a list that asks for its name and for no other known
one, on the first page and without a filter, which is answered with this
record and nothing else.
-/

namespace Advisory

/-- A list that is given, and the page that goes with it, ask for a name and
for no other one that is known. -/
structure AsksOnly (list? : Option (List String)) (p : Paging)
    (known : List String) (name : String) : Prop where
  list : ∃ list, list? = some list ∧ Readable list ∧
    ∀ x ∈ known, AsksFor list x ↔ x = name
  first : p.number = 1

/-- A name that is given twice is meant literally. -/
theorem asksOnly_literal {p : Paging} (h : p.number = 1)
    (known : List String) (name : String) :
    AsksOnly (some [name, name]) p known name where
  list := by
    refine ⟨[name, name], rfl, readable_of_length (by simp), fun x _ => ?_⟩
    rw [asksFor_iff_mem (by simp)]
    simp
  first := h

namespace Paging

/-- The first page begins at the first item. -/
theorem start_of_first {p : Paging} (h : p.number = 1) : p.start = 0 := by
  rw [start, h, mulWords, Nat.sub_self, Nat.zero_mul, Nat.zero_min]

end Paging

/-! ## Selections of one record -/

section Select

variable {α : Type} {records : Dict String α} {list : List String}
  {passes : α → Bool} {p : Paging} {name : String} {v : α}

theorem mem_keys_of_getElem? (h : records[name]? = some v) :
    name ∈ records.keys := by
  rw [Std.ExtTreeMap.mem_keys, Std.ExtTreeMap.mem_iff_isSome_getElem?, h]
  rfl

theorem select_single (hread : Readable list)
    (hone : ∀ x ∈ records.keys, AsksFor list x ↔ x = name)
    (hv : records[name]? = some v) (hpass : passes v = true)
    (hfirst : p.number = 1) : ∃ found,
      select records list passes p = .ok found ∧
      found.entries = [(name, v)] := by
  obtain ⟨names, hdenoted, hnames⟩ := exists_denoted hread records.keys
  have hpassing : passing names (records[·]?.any passes) = [name] := by
    refine eq_of_ascending (passing_sorted _ _)
      (List.pairwise_singleton _ name) fun x => ?_
    rw [mem_passing_names hnames, List.mem_singleton]
    constructor
    · intro h
      obtain ⟨hasks, w, hw, -⟩ := h
      exact (hone x (mem_keys_of_getElem? hw)).1 hasks
    · intro h
      subst h
      exact ⟨(hone x (mem_keys_of_getElem? hv)).2 rfl, v, hv, hpass⟩
  refine ⟨_, select_eq_selection hdenoted p, ?_⟩
  have hpage : (paginate names (records[·]?.any passes) p).1 = [name] := by
    show ((passing _ _).drop p.start).take p.capacity = _
    rw [hpassing, Paging.start_of_first hfirst, List.drop_zero,
      List.take_of_length_le p.capacity_pos]
  show (paginate names (records[·]?.any passes) p).1.filterMap _ = _
  rw [hpage, List.filterMap_cons, hv]
  rfl

/-- What is selected is the record under its name. -/
theorem getElem?_of_mem_select {found : Selection α}
    (h : select records list passes p = .ok found)
    (hm : (name, v) ∈ found.entries) : records[name]? = some v := by
  rw [select] at h
  obtain ⟨names, -, h⟩ := bind_eq_ok.1 h
  injection h with h
  subst h
  obtain ⟨x, -, hx⟩ := List.mem_filterMap.1 hm
  obtain ⟨w, hw, heq⟩ := Option.map_eq_some_iff.1 hx
  cases heq
  exact hw

end Select

/-! ## Answers about one record -/

/-- A list that asks for a known name is not empty. -/
theorem ne_nil_of_asks {list known : List String} {name : String}
    (hknown : name ∈ known) (hone : ∀ x ∈ known, AsksFor list x ↔ x = name) :
    list ≠ [] := by
  rintro rfl
  exact List.not_mem_nil ((hone name hknown).2 rfl)

/-- Asking for one known name that passes is answered with a selection that
holds the record under this name alone. -/
theorem exists_single {α : Type} {records : Dict String α}
    {passes : α → Bool} {list? : Option (List String)} {p : Paging}
    {name : String} {v : α} (h : AsksOnly list? p records.keys name)
    (hv : records[name]? = some v) (hpass : passes v = true)
    (reply : Except Failure Answer) (answer : Selection α → Answer)
    (hreply : ∀ list, list? = some list → list ≠ [] →
      reply = answer <$> select records list passes p) :
    ∃ found, found.entries = [(name, v)] ∧ reply = .ok (answer found) := by
  obtain ⟨⟨list, hlist, hread, hone⟩, hfirst⟩ := h
  obtain ⟨found, hfound, hentries⟩ :=
    select_single hread hone hv hpass hfirst
  have hne := ne_nil_of_asks (mem_keys_of_getElem? hv) hone
  exact ⟨found, hentries, by rw [hreply list hlist hne, hfound]; rfl⟩

section Answers

variable {c : Catalog} {name : String}

theorem ErrataRequest.process_single {q : ErrataRequest} {e : Erratum}
    (h : AsksOnly q.names q.paging c.errata.keys name) (hadmits : q.Admits e)
    (he : c.errata[name]? = some e) :
    ∃ a, (Query.errata q).process (some c) = .ok (.errata a) ∧
      a.entries = [(name, c.erratumEntry e)] := by
  obtain ⟨found, hentries, hreply⟩ := exists_single h he
    (passes_iff.2 hadmits) ((Query.errata q).process (some c))
    (fun found => .errata (q.answerWith c found)) fun list hlist hne => by
      rw [process_eq hlist hne, answer_eq, hlist, Functor.map_map]
      rfl
  exact ⟨_, hreply, by rw [answerWith, hentries]; rfl⟩

theorem CvesRequest.process_single {q : CvesRequest} {v : Cve}
    (h : AsksOnly q.names q.paging c.cves.keys name) (hadmits : q.Admits v)
    (hv : c.cves[name]? = some v) :
    ∃ a, (Query.cves q).process (some c) = .ok (.cves a) ∧
      a.entries = [(name, c.cveEntry name v)] := by
  obtain ⟨found, hentries, hreply⟩ := exists_single h hv
    (passes_iff.2 hadmits) ((Query.cves q).process (some c))
    (fun found => .cves (q.answerWith c found)) fun list hlist hne => by
      rw [process_eq hlist hne, answer_eq, hlist, Functor.map_map]
      rfl
  exact ⟨_, hreply, by rw [answerWith, hentries]; rfl⟩

theorem RepositoriesRequest.process_single {q : RepositoriesRequest}
    {ids : List RepositoryId}
    (h : AsksOnly q.labels q.paging c.labelIds.keys name)
    (hadmits : q.Admits c ids) (hids : c.labelIds[name]? = some ids) :
    ∃ a, (Query.repositories q).process (some c) = .ok (.repositories a) ∧
      a.entries = [(name, (c.repositoriesWith ids).map Repository.entry)] := by
  obtain ⟨found, hentries, hreply⟩ := exists_single h hids
    (passes_iff.2 hadmits) ((Query.repositories q).process (some c))
    (fun found => .repositories (repositoriesAnswerWith c found))
    fun list hlist hne => by
      rw [process_eq hlist hne, answer_eq, hlist, Functor.map_map]
      rfl
  exact ⟨_, hreply, by rw [repositoriesAnswerWith, hentries]; rfl⟩

theorem ErrataRequest.admits_of_unfiltered {q : ErrataRequest}
    (h : q.modifiedSince = none) (e : Erratum) : q.Admits e := by
  intro since hsince
  rw [h] at hsince
  cases hsince

/-! ## Answers that show a record -/

/-- Some request for errata is answered with an entry under a name. -/
def Catalog.ShowsErratum (c : Catalog) (name : String)
    (entry : ErratumEntry) : Prop :=
  ∃ q a, (Query.errata q).process (some c) = .ok (.errata a) ∧
    (name, entry) ∈ a.entries

/-- Some request for vulnerabilities is answered with an entry under a
name. -/
def Catalog.ShowsCve (c : Catalog) (name : String) (entry : CveEntry) : Prop :=
  ∃ q a, (Query.cves q).process (some c) = .ok (.cves a) ∧
    (name, entry) ∈ a.entries

/-- A query that is answered is answered as its endpoint answers. -/
theorem Query.answer_of_process {q : Query} {a : Answer}
    (h : q.process (some c) = .ok a) : q.answer c = .ok a := by
  obtain ⟨_, -, h⟩ := bind_eq_ok.1 h
  exact h

theorem Catalog.showsErratum_iff {entry : ErratumEntry} :
    c.ShowsErratum name entry ↔
      ∃ e, c.errata[name]? = some e ∧ entry = c.erratumEntry e := by
  constructor
  · intro h
    obtain ⟨q, a, hq, hm⟩ := h
    replace hq := Query.answer_of_process hq
    rw [Query.answer, ErrataRequest.answer_eq, Functor.map_map] at hq
    obtain ⟨found, hfound, heq⟩ := map_eq_ok.1 hq
    cases heq
    obtain ⟨⟨_, e⟩, he, heq⟩ := List.mem_map.1 hm
    cases heq
    exact ⟨e, getElem?_of_mem_select hfound he, rfl⟩
  · intro h
    obtain ⟨e, he, rfl⟩ := h
    obtain ⟨a, ha, hentries⟩ := ErrataRequest.process_single
      (q := ⟨some [name, name], none, ⟨1, 1⟩⟩) (asksOnly_literal rfl _ name)
      (ErrataRequest.admits_of_unfiltered rfl e) he
    exact ⟨_, a, ha, by rw [hentries]; exact List.mem_singleton.2 rfl⟩

theorem Catalog.showsCve_iff {entry : CveEntry} :
    c.ShowsCve name entry ↔
      ∃ v, c.cves[name]? = some v ∧ entry = c.cveEntry name v := by
  constructor
  · intro h
    obtain ⟨q, a, hq, hm⟩ := h
    replace hq := Query.answer_of_process hq
    rw [Query.answer, CvesRequest.answer_eq, Functor.map_map] at hq
    obtain ⟨found, hfound, heq⟩ := map_eq_ok.1 hq
    cases heq
    obtain ⟨⟨_, v⟩, hv, heq⟩ := List.mem_map.1 hm
    cases heq
    exact ⟨v, getElem?_of_mem_select hfound hv, rfl⟩
  · intro h
    obtain ⟨v, hv, rfl⟩ := h
    obtain ⟨a, ha, hentries⟩ := CvesRequest.process_single
      (q := ⟨some [name, name], none, none, false, ⟨1, 1⟩⟩)
      (asksOnly_literal rfl _ name)
      ⟨fun _ h => (by cases h), fun _ h => (by cases h), Bool.noConfusion⟩ hv
    exact ⟨_, a, ha, by rw [hentries]; exact List.mem_singleton.2 rfl⟩

end Answers

end Advisory
