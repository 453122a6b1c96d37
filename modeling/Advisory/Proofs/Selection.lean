import Advisory.Proofs.Delivery
import Advisory.Proofs.Pages
import Advisory.Service.Query

/-!
# Records asked for by name

A list of names is read in one of two ways, as a pattern that is tried on
every known name or as the names themselves, and the two ways hand on
different things: the pattern a list of known names in the order of the
dictionary, the names whatever the request says, with repetitions and with
names that nobody knows. They meet where names are put in order and those
without a record that passes are dropped. From there on only one thing counts,
which known names the list asks for, and `select_agree` says so.

The same step makes pages reliable. What is counted are the names that are
known, asked for and pass, and each of these has a record to show, so
`select_walks` carries the walk over pages of names to the entries that
are answered. The three endpoints differ in the filter only.
-/

namespace Advisory

open Time (Instant isAfter)

/-! ## What a list asks for -/

/-- A list asks for a name: a single element is a pattern that has to match
the name between its anchors, any other list asks for its elements. -/
def AsksFor : List String → String → Prop
  | [pattern], name =>
    ∃ r, Pattern.compile pattern = .ok r ∧ r.occursIn name = true
  | list, name => name ∈ list

/-- A list that is a single pattern can be read as one. -/
def Readable (list : List String) : Prop :=
  ∀ pattern, list = [pattern] → ∃ r, Pattern.compile pattern = .ok r

theorem readable_of_length {list : List String} (h : list.length ≠ 1) :
    Readable list := by
  intro pattern heq
  subst heq
  exact absurd rfl h

theorem asksFor_iff_mem {list : List String} (h : list.length ≠ 1)
    {name : String} : AsksFor list name ↔ name ∈ list := by
  match list, h with
  | [], _ => exact Iff.rfl
  | [_], h => exact absurd rfl h
  | _ :: _ :: _, _ => exact Iff.rfl

theorem asksFor_pattern {pattern : String} {r : Pattern.Regex Pattern.Atom}
    (h : Pattern.compile pattern = .ok r) {name : String} :
    AsksFor [pattern] name ↔ r.occursIn name = true := by
  constructor
  · intro h'
    obtain ⟨r', hr', hname⟩ := h'
    rw [h] at hr'
    cases hr'
    exact hname
  · intro hname
    exact ⟨r, h, hname⟩

/-- Among the known names those are denoted that the list asks for. -/
theorem exists_denoted {list : List String} (h : Readable list)
    (known : List String) : ∃ names, denoted list known = .ok names ∧
      ∀ name ∈ known, name ∈ names ↔ AsksFor list name := by
  match list, h with
  | [], _ => exact ⟨[], rfl, fun _ _ => Iff.rfl⟩
  | [pattern], h =>
      obtain ⟨r, hr⟩ := h pattern rfl
      refine ⟨known.filter r.occursIn, by rw [denoted, hr],
        fun name hname => ?_⟩
      rw [asksFor_pattern hr, List.mem_filter]
      exact and_iff_right hname
  | x :: y :: rest, _ => exact ⟨x :: y :: rest, rfl, fun _ _ => Iff.rfl⟩

/-! ## Selections -/

section Select

variable {α : Type} {records : Dict String α} {list : List String}
  {passes : α → Bool}

/-- What is selected, once it is clear what the list denotes. -/
def selection (records : Dict String α) (names : List String)
    (passes : α → Bool) (p : Paging) : Selection α :=
  let (page, info) := paginate names (records[·]?.any passes) p
  ⟨page.filterMap fun name => records[name]?.map (name, ·), info⟩

theorem select_eq_selection {names : List String}
    (h : denoted list records.keys = .ok names) (p : Paging) :
    select records list passes p = .ok (selection records names passes p) := by
  rw [select, h]
  rfl

/-- A name passes if it has a record that does. -/
theorem any_passes_iff {name : String} :
    records[name]?.any passes = true ↔
      ∃ v, records[name]? = some v ∧ passes v = true :=
  Option.any_eq_true _ _

theorem mem_records_of_passes {name : String}
    (h : records[name]?.any passes = true) : name ∈ records := by
  obtain ⟨v, hv, -⟩ := any_passes_iff.1 h
  rw [Std.ExtTreeMap.mem_iff_isSome_getElem?, hv]
  rfl

theorem mem_passing_names {names : List String}
    (hnames : ∀ name ∈ records.keys, name ∈ names ↔ AsksFor list name)
    {name : String} : name ∈ passing names (records[·]?.any passes) ↔
      AsksFor list name ∧ ∃ v, records[name]? = some v ∧ passes v = true := by
  rw [mem_passing, ← any_passes_iff]
  exact and_congr_left fun h =>
    hnames name (Std.ExtTreeMap.mem_keys.2 (mem_records_of_passes h))

/-- Lists that ask for the same known names select the same. -/
theorem select_agree {list' : List String} (hread : Readable list)
    (hread' : Readable list') (h : ∀ name ∈ records.keys,
      AsksFor list name ↔ AsksFor list' name) (p : Paging) :
    ∃ found, select records list passes p = .ok found ∧
      select records list' passes p = .ok found := by
  obtain ⟨names, hdenoted, hnames⟩ := exists_denoted hread records.keys
  obtain ⟨names', hdenoted', hnames'⟩ := exists_denoted hread' records.keys
  have hpassing : passing names (records[·]?.any passes) =
      passing names' (records[·]?.any passes) := by
    refine passing_congr fun name hname => ?_
    have hknown := Std.ExtTreeMap.mem_keys.2 (mem_records_of_passes hname)
    rw [hnames name hknown, hnames' name hknown, h name hknown]
  refine ⟨selection records names passes p, select_eq_selection hdenoted p, ?_⟩
  rw [select_eq_selection hdenoted' p, selection, selection, paginate,
    paginate, hpassing]

end Select

/-! ## Filters -/

/-- A date is given and lies strictly after an instant. -/
def Later (date : Option Instant) (since : Instant) : Prop :=
  ∃ t, date = some t ∧ since.isBefore t = true

theorem isAfter_iff {date : Option Instant} {since : Instant} :
    isAfter date since = true ↔ Later date since := by
  cases date with
  | none => simp [isAfter, Later]
  | some t => simp [isAfter, Later]

theorem all_iff {limit : Option Instant} {p : Instant → Bool} :
    limit.all p = true ↔ ∀ since, limit = some since → p since = true := by
  cases limit <;> simp

/-- A request admits a vulnerability. -/
structure CvesRequest.Admits (r : CvesRequest) (v : Cve) : Prop where
  modified : ∀ since, r.modifiedSince = some since →
    Later v.report.modified since ∨ Later v.report.published since
  published : ∀ since, r.publishedSince = some since →
    Later v.report.published since
  source : r.redHatOnly = true → v.report.source = "Red Hat"

theorem CvesRequest.passes_iff {r : CvesRequest} {v : Cve} :
    r.passes v = true ↔ r.Admits v := by
  simp only [CvesRequest.passes, Bool.and_eq_true, all_iff, Bool.or_eq_true,
    isAfter_iff]
  constructor
  · intro h
    obtain ⟨⟨hmod, hpub⟩, hsource⟩ := h
    refine ⟨hmod, hpub, fun hred => ?_⟩
    rw [hred] at hsource
    exact of_decide_eq_true (hsource.resolve_left Bool.noConfusion)
  · intro h
    refine ⟨⟨h.modified, h.published⟩, ?_⟩
    cases hred : r.redHatOnly with
    | false => exact Or.inl rfl
    | true => exact Or.inr (decide_eq_true (h.source hred))

/-- A request admits an erratum. -/
def ErrataRequest.Admits (r : ErrataRequest) (e : Erratum) : Prop :=
  ∀ since, r.modifiedSince = some since →
    Later e.notice.updated since ∨ Later e.notice.issued since

theorem ErrataRequest.passes_iff {r : ErrataRequest} {e : Erratum} :
    r.passes e = true ↔ r.Admits e := by
  simp only [ErrataRequest.passes, all_iff, Bool.or_eq_true, isAfter_iff,
    ErrataRequest.Admits]

/-- A request admits a label that stands for some repositories: one of them
is known and admitted. -/
def RepositoriesRequest.Admits (r : RepositoriesRequest) (c : Catalog)
    (ids : List RepositoryId) : Prop :=
  ∃ id ∈ ids, ∃ repo, c.repositories[id]? = some repo ∧
    ∀ since, r.modifiedSince = some since → Later repo.revision since

theorem RepositoriesRequest.passes_iff {r : RepositoriesRequest}
    {c : Catalog} {ids : List RepositoryId} :
    r.passes c ids = true ↔ r.Admits c ids := by
  simp only [RepositoriesRequest.passes, List.any_eq_true,
    Catalog.repositoriesWith, List.mem_filterMap, all_iff, isAfter_iff]
  constructor
  · intro h
    obtain ⟨repo, ⟨id, hid, hrepo⟩, hrev⟩ := h
    exact ⟨id, hid, repo, hrepo, hrev⟩
  · intro h
    obtain ⟨id, hid, repo, hrepo, hrev⟩ := h
    exact ⟨repo, ⟨id, hid, hrepo⟩, hrev⟩

/-! ## Answers are made of selections -/

/-- What is answered about some vulnerabilities that are selected. -/
def CvesRequest.answerWith (r : CvesRequest) (c : Catalog)
    (found : Selection Cve) : CvesAnswer where
  info := found.info
  entries := found.entries.map fun (name, v) => (name, c.cveEntry name v)
  modifiedSince := r.modifiedSince
  publishedSince := r.publishedSince

/-- What is answered about some errata that are selected. -/
def ErrataRequest.answerWith (r : ErrataRequest) (c : Catalog)
    (found : Selection Erratum) : ErrataAnswer where
  info := found.info
  entries := found.entries.map fun (name, e) => (name, c.erratumEntry e)
  modifiedSince := r.modifiedSince

/-- What is answered about some labels that are selected. -/
def repositoriesAnswerWith (c : Catalog)
    (found : Selection (List RepositoryId)) : RepositoriesAnswer where
  info := found.info
  entries := found.entries.map fun (label, ids) =>
    (label, (c.repositoriesWith ids).map Repository.entry)

theorem CvesRequest.answer_eq (r : CvesRequest) (c : Catalog) :
    r.answer c = r.answerWith c <$>
      select c.cves (r.names.getD []) r.passes r.paging :=
  bind_pure_comp _ _

theorem ErrataRequest.answer_eq (r : ErrataRequest) (c : Catalog) :
    r.answer c = r.answerWith c <$>
      select c.errata (r.names.getD []) r.passes r.paging :=
  bind_pure_comp _ _

theorem RepositoriesRequest.answer_eq (r : RepositoriesRequest)
    (c : Catalog) : r.answer c = repositoriesAnswerWith c <$>
      select c.labelIds (r.labels.getD []) (r.passes c) r.paging :=
  bind_pure_comp _ _

/-! ## Walking the pages of an endpoint -/

/-- A query that passes its check is answered as its endpoint answers. -/
theorem Query.process_of_validate {q : Query} {c : Catalog}
    (h : q.validate = .ok ()) : q.process (some c) = q.answer c := by
  rw [Query.process, h]
  rfl

theorem requireList_of_ne_nil {list : List String} (h : list ≠ [])
    (field : String) : requireList (some list) field = .ok () := by
  cases list with
  | nil => exact absurd rfl h
  | cons _ _ => rfl

section Endpoints

variable {c : Catalog} {list : List String} {size : Int}

theorem CvesRequest.process_eq {r : CvesRequest} (hr : r.names = some list)
    (hne : list ≠ []) :
    (Query.cves r).process (some c) = .cves <$> r.answer c := by
  refine Query.process_of_validate ?_
  show requireList r.names "cve_list" = .ok ()
  rw [hr, requireList_of_ne_nil hne]

theorem ErrataRequest.process_eq {r : ErrataRequest}
    (hr : r.names = some list) (hne : list ≠ []) :
    (Query.errata r).process (some c) = .errata <$> r.answer c := by
  refine Query.process_of_validate ?_
  show requireList r.names "errata_list" = .ok ()
  rw [hr, requireList_of_ne_nil hne]

theorem RepositoriesRequest.process_eq {r : RepositoriesRequest}
    (hr : r.labels = some list) (hne : list ≠ []) :
    (Query.repositories r).process (some c) = .repositories <$> r.answer c := by
  refine Query.process_of_validate ?_
  show requireList r.labels "repository_list" = .ok ()
  rw [hr, requireList_of_ne_nil hne]

end Endpoints

/-- A request for the vulnerabilities that a pattern matches. -/
def patternRequest : CvesRequest where
  names := some ["CVE-.*"]
  modifiedSince := none
  publishedSince := none
  redHatOnly := false
  paging := ⟨1, 1⟩

theorem exists_compile {pattern : String}
    (h : (Pattern.compile pattern).toOption.isSome = true) :
    ∃ r, Pattern.compile pattern = .ok r := by
  obtain ⟨r, hr⟩ := Option.isSome_iff_exists.1 h
  exact ⟨r, toOption_eq_some_iff.1 hr⟩

/-- What is answered to a list depends only on which known names it asks for:
not on the order of a list of names, its repetitions and what is unknown in
it, and not on whether a name is found by a pattern or given. -/
structure AnswersByName {β : Type} (known : List String)
    (answer : List String → Except Failure β) : Prop where
  agree : ∀ list list', Readable list → Readable list' →
    (∀ name ∈ known, AsksFor list name ↔ AsksFor list' name) →
    ∃ a, answer list = .ok a ∧ answer list' = .ok a
  literal : ∀ list list' : List String, list.length ≠ 1 → list'.length ≠ 1 →
    (∀ name ∈ known, name ∈ list ↔ name ∈ list') →
    ∃ a, answer list = .ok a ∧ answer list' = .ok a
  /-- A list of one name is a pattern, so a name that is given comes twice. -/
  single : ∀ pattern r name, Pattern.compile pattern = .ok r →
    (∀ x ∈ known, r.occursIn x = true ↔ x = name) →
    ∃ a, answer [pattern] = .ok a ∧ answer [name, name] = .ok a

theorem AnswersByName.of_agree {β : Type} {known : List String}
    {answer : List String → Except Failure β}
    (h : ∀ list list', Readable list → Readable list' →
      (∀ name ∈ known, AsksFor list name ↔ AsksFor list' name) →
      ∃ a, answer list = .ok a ∧ answer list' = .ok a) :
    AnswersByName known answer where
  agree := h
  literal list list' hlist hlist' hsame := by
    refine h list list' (readable_of_length hlist)
      (readable_of_length hlist') fun name hname => ?_
    rw [asksFor_iff_mem hlist, asksFor_iff_mem hlist']
    exact hsame name hname
  single pattern r name hr hone := by
    refine h [pattern] [name, name] ?_ ?_ fun x hx => ?_
    · intro p hp
      cases hp
      exact ⟨r, hr⟩
    · exact readable_of_length (by simp)
    · rw [asksFor_pattern hr, asksFor_iff_mem (by simp), hone x hx]
      simp

theorem answersByName_of_select {α β : Type} (records : Dict String α)
    (passes : α → Bool) (p : Paging) (answerWith : Selection α → β)
    {answer : List String → Except Failure β} (h : ∀ list,
      answer list = answerWith <$> select records list passes p) :
    AnswersByName records.keys answer := by
  refine .of_agree fun list list' hread hread' hsame => ?_
  obtain ⟨found, hfound, hfound'⟩ := select_agree hread hread' hsame p
  exact ⟨answerWith found, by rw [h, hfound]; rfl, by rw [h, hfound']; rfl⟩

/-- Requests for vulnerabilities, errata or repositories that differ in their
lists only are answered alike if the lists ask for the same known names. The
endpoints answer so to every list that is not empty. -/
theorem answers_agree (c : Catalog) :
    (∀ r : CvesRequest,
      AnswersByName c.cves.keys (fun list =>
        ({ r with names := some list } : CvesRequest).answer c) ∧
      ∀ list ≠ [],
        (Query.cves { r with names := some list }).process (some c) =
          .cves <$> ({ r with names := some list } : CvesRequest).answer c) ∧
    (∀ r : ErrataRequest,
      AnswersByName c.errata.keys (fun list =>
        ({ r with names := some list } : ErrataRequest).answer c) ∧
      ∀ list ≠ [],
        (Query.errata { r with names := some list }).process (some c) =
          .errata <$>
            ({ r with names := some list } : ErrataRequest).answer c) ∧
    ∀ r : RepositoriesRequest,
      AnswersByName c.labelIds.keys (fun list =>
        ({ r with labels := some list } : RepositoriesRequest).answer c) ∧
      ∀ list ≠ [],
        (Query.repositories { r with labels := some list }).process (some c) =
          .repositories <$>
            ({ r with labels := some list } :
              RepositoriesRequest).answer c := by
  refine ⟨fun r => ⟨?_, fun _ => CvesRequest.process_eq rfl⟩,
    fun r => ⟨?_, fun _ => ErrataRequest.process_eq rfl⟩,
    fun r => ⟨?_, fun _ => RepositoriesRequest.process_eq rfl⟩⟩
  · exact answersByName_of_select c.cves r.passes r.paging (r.answerWith c)
      fun list => CvesRequest.answer_eq { r with names := some list } c
  · exact answersByName_of_select c.errata r.passes r.paging (r.answerWith c)
      fun list => ErrataRequest.answer_eq { r with names := some list } c
  · exact answersByName_of_select c.labelIds (r.passes c) r.paging
      (repositoriesAnswerWith c)
      fun list => RepositoriesRequest.answer_eq { r with labels := some list } c

/-- The pattern matches one of two known names. -/
theorem answers_agree_reported : ∃ a,
    ({ patternRequest with names := some ["CVE-.*-1"] } :
      CvesRequest).answer (reportedTables.catalog kernelFreshness) = .ok a ∧
    ({ patternRequest with names := some ["CVE-2020-1", "CVE-2020-1"] } :
      CvesRequest).answer (reportedTables.catalog kernelFreshness) =
        .ok a := by
  obtain ⟨r, hr⟩ := exists_compile
    (show (Pattern.compile "CVE-.*-1").toOption.isSome = true by
      decide +kernel)
  have hone : ∀ x ∈ (reportedTables.catalog kernelFreshness).cves.keys,
      (Pattern.compile "CVE-.*-1").toOption.any (·.occursIn x) =
        decide (x = "CVE-2020-1") := by
    decide +kernel
  rw [hr] at hone
  refine ((answers_agree _).1 patternRequest).1.single _ r _ hr fun x hx => ?_
  rw [← decide_eq_true_iff (p := x = "CVE-2020-1"), ← hone x hx]
  rfl

end Advisory
