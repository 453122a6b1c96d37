import Advisory.Proofs.Envelopes
import Advisory.Proofs.Selection
import Advisory.Service.Session

/-!
# Which failure a reply reports

A request line can fail in several ways at once, and the reply reports one of
them. Which one is decided by the order of the checks: the envelope, the
version of the updates endpoint, the body, the catalogue that there may not
be, the request itself and at last a pattern. `Verdict` spells this order out,
with conditions that mention nothing but the line, the request in it and
whether there is a catalogue.

Inside the service the checks are spread over reading, checking and answering
a query. Each of them is described by when it refuses and with which status,
and `Refuses` is kept by doing one after the other. Nothing in these
conditions looks at an item of a request or into the catalogue, so an item
that is malformed or unknown has no part in the status.
-/

namespace Advisory

/-! ## Checks -/

/-- A check refuses exactly under some condition, and always with the same
status. -/
structure Refuses {α : Type} (x : Except Failure α) (refused : Prop)
    (status : Nat) : Prop where
  error : refused → ∃ f, x = .error f ∧ f.status = status
  ok : ¬ refused → ∃ a, x = .ok a

namespace Refuses

variable {α β : Type} {x : Except Failure α} {P Q : Prop} {n : Nat}

theorem of_ok (a : α) : Refuses (.ok a) False n where
  error h := h.elim
  ok _ := ⟨a, rfl⟩

theorem of_error {f : Failure} (h : f.status = n) :
    Refuses (.error f : Except Failure α) True n where
  error _ := ⟨f, rfl, h⟩
  ok h := absurd trivial h

theorem congr (h : Refuses x P n) (hpq : P ↔ Q) : Refuses x Q n where
  error hq := h.error (hpq.2 hq)
  ok hq := h.ok (mt hpq.1 hq)

/-- Of two checks, one after the other, either may refuse. -/
theorem bind (h : Refuses x P n) {f : α → Except Failure β}
    (hf : ∀ a, Refuses (f a) Q n) : Refuses (x >>= f) (P ∨ Q) n where
  error hpq := by
    by_cases hp : P
    · obtain ⟨e, rfl, he⟩ := h.error hp
      exact ⟨e, rfl, he⟩
    · obtain ⟨a, rfl⟩ := h.ok hp
      exact (hf a).error (hpq.resolve_left hp)
  ok hpq := by
    obtain ⟨a, rfl⟩ := h.ok fun hp => hpq (Or.inl hp)
    exact (hf a).ok fun hq => hpq (Or.inr hq)

theorem map (h : Refuses x P n) (g : α → β) : Refuses (g <$> x) P n where
  error hp := by
    obtain ⟨e, rfl, he⟩ := h.error hp
    exact ⟨e, rfl, he⟩
  ok hp := by
    obtain ⟨a, rfl⟩ := h.ok hp
    exact ⟨g a, rfl⟩

end Refuses

/-! ## What a query is about -/

/-- A list is not given, or it is empty. -/
def Lacking {α : Type} (list? : Option (List α)) : Prop :=
  list? = none ∨ list? = some []

/-- A list is a single pattern that cannot be compiled between its anchors. -/
def BadPattern (list? : Option (List String)) : Prop :=
  ∃ pattern, list? = some [pattern] ∧ ∀ r, Pattern.compile pattern ≠ .ok r

namespace Query

/-- The items that a query asks about, if it is given a list of them. -/
def items? : Query → Option (List String)
  | updates _ r => r.packages
  | vulnerabilities r => r.packages
  | cves r => r.names
  | errata r => r.names
  | repositories r => r.labels
  | packages r => r.packages
  | freshness => none

/-- A query that asks about other items and is the same otherwise. -/
def withItems (list : List String) : Query → Query
  | updates v r => updates v { r with packages := some list }
  | vulnerabilities r => vulnerabilities { r with packages := some list }
  | cves r => cves { r with names := some list }
  | errata r => errata { r with names := some list }
  | repositories r => repositories { r with labels := some list }
  | packages r => packages { r with packages := some list }
  | freshness => freshness

/-- A query is not valid: it lacks its list, or the list is empty where it
must not be, or it names a stream by an empty text. -/
def Invalid (q : Query) : Prop :=
  match q with
  | updates _ r | vulnerabilities r =>
      q.items? = none ∨
        ∃ m ∈ r.modules.getD [], m.module = "" ∨ m.stream = ""
  | cves _ | errata _ | repositories _ | packages _ => Lacking q.items?
  | freshness => False

/-- A query by name has a bad pattern for its list. -/
def HasBadPattern (q : Query) : Prop :=
  match q with
  | cves _ | errata _ | repositories _ => BadPattern q.items?
  | updates _ _ | vulnerabilities _ | packages _ | freshness => False

end Query

/-! ## When a query is refused -/

theorem requireList_refuses {α : Type} (list? : Option (List α))
    (name : String) :
    Refuses (requireList list? name) (Lacking list?) 400 := by
  match list? with
  | none => exact (Refuses.of_error rfl).congr (by simp [Lacking])
  | some [] => exact (Refuses.of_error rfl).congr (by simp [Lacking])
  | some (x :: xs) => exact (Refuses.of_ok ()).congr (by simp [Lacking])

namespace UpdatesRequest

theorem validateModule_refuses (m : ModuleStream) :
    Refuses (validateModule m) (m.module = "" ∨ m.stream = "") 400 := by
  rw [validateModule]
  split
  · next h => exact (Refuses.of_error rfl).congr (by simp [h])
  · next h =>
      split
      · next h' => exact (Refuses.of_error rfl).congr (by simp [h'])
      · next h' => exact (Refuses.of_ok ()).congr (by simp [h, h'])

theorem validateModules_refuses (modules : List ModuleStream) :
    Refuses (modules.forM validateModule)
      (∃ m ∈ modules, m.module = "" ∨ m.stream = "") 400 := by
  induction modules with
  | nil => exact (Refuses.of_ok ()).congr (by simp)
  | cons m modules ih =>
      show Refuses (validateModule m >>= fun _ =>
        modules.forM validateModule) _ 400
      exact ((validateModule_refuses m).bind fun _ => ih).congr (by simp)

theorem validate_refuses (r : UpdatesRequest) :
    Refuses r.validate (r.packages = none ∨
      ∃ m ∈ r.modules.getD [], m.module = "" ∨ m.stream = "") 400 := by
  rw [validate]
  cases h : r.packages with
  | none => exact (Refuses.of_error rfl).congr (by simp)
  | some list => exact (validateModules_refuses _).congr (by simp)

end UpdatesRequest

theorem Query.validate_refuses (q : Query) :
    Refuses q.validate q.Invalid 400 := by
  cases q with
  | updates v r => exact r.validate_refuses
  | vulnerabilities r => exact r.validate_refuses
  | cves r => exact requireList_refuses r.names _
  | errata r => exact requireList_refuses r.names _
  | repositories r => exact requireList_refuses r.labels _
  | packages r => exact requireList_refuses r.packages _
  | freshness => exact Refuses.of_ok ()

theorem denoted_refuses (list? : Option (List String)) (known : List String) :
    Refuses (denoted (list?.getD []) known) (BadPattern list?) 400 := by
  match list? with
  | none => exact (Refuses.of_ok _).congr (by simp [BadPattern])
  | some [] => exact (Refuses.of_ok _).congr (by simp [BadPattern])
  | some (x :: y :: rest) =>
      exact (Refuses.of_ok _).congr (by simp [BadPattern])
  | some [pattern] =>
      show Refuses (denoted [pattern] known) _ 400
      rw [denoted]
      cases h : Pattern.compile pattern with
      | ok r => exact (Refuses.of_ok _).congr (by simp [BadPattern, h])
      | error e =>
          exact (Refuses.of_error rfl).congr (by simp [BadPattern, h])

theorem select_refuses {α : Type} (records : Dict String α)
    (list? : Option (List String)) (passes : α → Bool) (p : Paging) :
    Refuses (select records (list?.getD []) passes p) (BadPattern list?)
      400 :=
  ((denoted_refuses list? records.keys).bind fun _ =>
    Refuses.of_ok _).congr (by rw [or_false])

theorem Query.answer_refuses (q : Query) (c : Catalog) :
    Refuses (q.answer c) q.HasBadPattern 400 := by
  cases q with
  | updates v r => exact Refuses.of_ok _
  | vulnerabilities r => exact Refuses.of_ok _
  | cves r =>
      rw [Query.answer, CvesRequest.answer_eq]
      exact ((select_refuses c.cves r.names _ _).map _).map _
  | errata r =>
      rw [Query.answer, ErrataRequest.answer_eq]
      exact ((select_refuses c.errata r.names _ _).map _).map _
  | repositories r =>
      rw [Query.answer, RepositoriesRequest.answer_eq]
      exact ((select_refuses c.labelIds r.labels _ _).map _).map _
  | packages r => exact Refuses.of_ok _
  | freshness => exact Refuses.of_ok _

/-- Where there is a catalogue, a query is refused if it is not valid or has
a bad pattern, whatever the catalogue holds. -/
theorem Query.process_refuses (q : Query) (c : Catalog) :
    Refuses (q.process (some c)) (q.Invalid ∨ q.HasBadPattern) 400 :=
  q.validate_refuses.bind fun _ => q.answer_refuses c

/-! ## What a line holds -/

namespace Envelope

/-- A version is asked for that the updates endpoint does not have. -/
def AsksUnknownVersion (e : Envelope) : Prop :=
  e.endpoint = .updates ∧ ∃ n, e.version = some n ∧ n ∉ [1, 2, 3]

/-- The body is no request of the endpoint. Freshness takes no body. -/
def HasBadBody (e : Envelope) : Prop :=
  match e.endpoint with
  | .updates | .vulnerabilities => UpdatesRequest.ofJson? e.queryBody = none
  | .cves => CvesRequest.ofJson? e.queryBody = none
  | .errata => ErrataRequest.ofJson? e.queryBody = none
  | .repositories => RepositoriesRequest.ofJson? e.queryBody = none
  | .packages => PackagesRequest.ofJson? e.queryBody = none
  | .freshness => False

/-- The query that an envelope holds: the request that its body is, for its
endpoint, and the third version of the updates endpoint where none is asked
for. -/
inductive Holds (e : Envelope) : Query → Prop
  | updates {version : UpdatesVersion} {r : UpdatesRequest}
      (endpoint : e.endpoint = .updates)
      (number : UpdatesVersion.ofNumber? (e.version.getD 3) = some version)
      (body : UpdatesRequest.ofJson? e.queryBody = some r) :
      e.Holds (.updates version r)
  | vulnerabilities {r : UpdatesRequest}
      (endpoint : e.endpoint = .vulnerabilities)
      (body : UpdatesRequest.ofJson? e.queryBody = some r) :
      e.Holds (.vulnerabilities r)
  | cves {r : CvesRequest} (endpoint : e.endpoint = .cves)
      (body : CvesRequest.ofJson? e.queryBody = some r) : e.Holds (.cves r)
  | errata {r : ErrataRequest} (endpoint : e.endpoint = .errata)
      (body : ErrataRequest.ofJson? e.queryBody = some r) :
      e.Holds (.errata r)
  | repositories {r : RepositoriesRequest}
      (endpoint : e.endpoint = .repositories)
      (body : RepositoriesRequest.ofJson? e.queryBody = some r) :
      e.Holds (.repositories r)
  | packages {r : PackagesRequest} (endpoint : e.endpoint = .packages)
      (body : PackagesRequest.ofJson? e.queryBody = some r) :
      e.Holds (.packages r)
  | freshness (endpoint : e.endpoint = .freshness) : e.Holds .freshness

theorem ofNumber?_eq_none_iff {n : Nat} :
    UpdatesVersion.ofNumber? n = none ↔ n ∉ [1, 2, 3] := by
  unfold UpdatesVersion.ofNumber?
  split <;> simp_all

/-- Where no unknown version is asked for there is one that answers. -/
theorem exists_version {e : Envelope} (hupdates : e.endpoint = .updates)
    (h : ¬ e.AsksUnknownVersion) :
    ∃ v, UpdatesVersion.ofNumber? (e.version.getD 3) = some v := by
  cases hversion : e.version with
  | none => exact ⟨.third, rfl⟩
  | some n =>
      refine Option.ne_none_iff_exists'.1 fun hnone => h ?_
      exact ⟨hupdates, n, hversion, ofNumber?_eq_none_iff.1 hnone⟩

theorem updatesVersion_eq {number : Option Nat} {v : UpdatesVersion}
    (h : UpdatesVersion.ofNumber? (number.getD 3) = some v) :
    Query.updatesVersion number = .ok v := by
  rw [Query.updatesVersion, Query.defaultVersion, h]

theorem Holds.read_eq {e : Envelope} {q : Query} (h : e.Holds q) :
    Query.read e.endpoint e.version e.queryBody = .ok q := by
  cases h with
  | updates endpoint number body =>
      rw [endpoint, Query.read, updatesVersion_eq number, body]
      rfl
  | vulnerabilities endpoint body => rw [endpoint, Query.read, body]; rfl
  | cves endpoint body => rw [endpoint, Query.read, body]; rfl
  | errata endpoint body => rw [endpoint, Query.read, body]; rfl
  | repositories endpoint body => rw [endpoint, Query.read, body]; rfl
  | packages endpoint body => rw [endpoint, Query.read, body]; rfl
  | freshness endpoint => rw [endpoint, Query.read]

/-- The version is looked at before the body. -/
theorem read_of_unknownVersion {e : Envelope} (h : e.AsksUnknownVersion) :
    ∃ n, Query.read e.endpoint e.version e.queryBody =
      .error (.unsupportedVersion n) := by
  obtain ⟨hupdates, n, hn, hunknown⟩ := h
  have hversion : Query.updatesVersion e.version =
      .error (.unsupportedVersion n) := by
    rw [hn, Query.updatesVersion, Option.getD_some,
      ofNumber?_eq_none_iff.2 hunknown]
  refine ⟨n, ?_⟩
  rw [hupdates, Query.read, hversion]
  rfl

theorem read_of_badBody {e : Envelope} (hversion : ¬ e.AsksUnknownVersion)
    (h : e.HasBadBody) :
    Query.read e.endpoint e.version e.queryBody = .error .malformed := by
  rw [HasBadBody] at h
  split at h
  · next hupdates =>
      obtain ⟨v, hv⟩ := exists_version hupdates hversion
      rw [hupdates, Query.read, updatesVersion_eq hv, h]
      rfl
  · next hend => rw [hend, Query.read, h]; rfl
  · next hend => rw [hend, Query.read, h]; rfl
  · next hend => rw [hend, Query.read, h]; rfl
  · next hend => rw [hend, Query.read, h]; rfl
  · next hend => rw [hend, Query.read, h]; rfl
  · exact h.elim

/-- What is read has no fault in its version or its body. -/
theorem faultless_of_read {e : Envelope} {q : Query}
    (h : Query.read e.endpoint e.version e.queryBody = .ok q) :
    ¬ e.AsksUnknownVersion ∧ ¬ e.HasBadBody := by
  have hversion : ¬ e.AsksUnknownVersion := by
    intro hunknown
    obtain ⟨n, hn⟩ := read_of_unknownVersion hunknown
    rw [h] at hn
    cases hn
  refine ⟨hversion, fun hbad => ?_⟩
  have hread := read_of_badBody hversion hbad
  rw [h] at hread
  cases hread

/-- An envelope holds a query unless its version or its body is at fault. -/
theorem exists_holds_iff {e : Envelope} :
    (∃ q, e.Holds q) ↔ ¬ e.AsksUnknownVersion ∧ ¬ e.HasBadBody := by
  constructor
  · intro h
    obtain ⟨q, hq⟩ := h
    exact faultless_of_read hq.read_eq
  · intro h
    obtain ⟨hversion, hbody⟩ := h
    rw [HasBadBody] at hbody
    split at hbody
    · next hupdates =>
        obtain ⟨v, hv⟩ := exists_version hupdates hversion
        obtain ⟨r, hr⟩ := Option.ne_none_iff_exists'.1 hbody
        exact ⟨_, .updates hupdates hv hr⟩
    · next hend =>
        obtain ⟨r, hr⟩ := Option.ne_none_iff_exists'.1 hbody
        exact ⟨_, .vulnerabilities hend hr⟩
    · next hend =>
        obtain ⟨r, hr⟩ := Option.ne_none_iff_exists'.1 hbody
        exact ⟨_, .cves hend hr⟩
    · next hend =>
        obtain ⟨r, hr⟩ := Option.ne_none_iff_exists'.1 hbody
        exact ⟨_, .errata hend hr⟩
    · next hend =>
        obtain ⟨r, hr⟩ := Option.ne_none_iff_exists'.1 hbody
        exact ⟨_, .repositories hend hr⟩
    · next hend =>
        obtain ⟨r, hr⟩ := Option.ne_none_iff_exists'.1 hbody
        exact ⟨_, .packages hend hr⟩
    · next hend => exact ⟨_, .freshness hend⟩

theorem query_of_read? {line : String} {e : Envelope}
    (h : read? line = some e) :
    query line = Query.read e.endpoint e.version e.queryBody := by
  rw [query, h]
  rfl

theorem query_of_holds {line : String} {e : Envelope} {q : Query}
    (h : read? line = some e) (hq : e.Holds q) : query line = .ok q :=
  (query_of_read? h).trans hq.read_eq

/-- The query on a line is the one that its envelope holds. -/
theorem query_eq_ok_iff {line : String} {q : Query} : query line = .ok q ↔
    ∃ e, read? line = some e ∧ e.Holds q := by
  constructor
  · intro h
    cases hread : read? line with
    | none =>
        rw [query, hread] at h
        cases h
    | some e =>
        rw [query_of_read? hread] at h
        obtain ⟨q', hq'⟩ := exists_holds_iff.2 (faultless_of_read h)
        obtain rfl := Except.ok.inj (h.symm.trans hq'.read_eq)
        exact ⟨e, rfl, hq'⟩
  · intro h
    obtain ⟨e, hread, hq⟩ := h
    exact query_of_holds hread hq

end Envelope

/-! ## The verdict on a line -/

/-- How far a line gets, and the status of the reply. What fails at one check
has passed those before it. -/
inductive Verdict (current : Option Catalog) (line : String) : Nat → Prop
  | noEnvelope (h : Envelope.read? line = none) : Verdict current line 400
  | noVersion {e : Envelope} (read : Envelope.read? line = some e)
      (h : e.AsksUnknownVersion) : Verdict current line 404
  | noRequest {e : Envelope} (read : Envelope.read? line = some e)
      (version : ¬ e.AsksUnknownVersion) (h : e.HasBadBody) :
      Verdict current line 400
  | noCatalog {e : Envelope} {q : Query}
      (read : Envelope.read? line = some e) (holds : e.Holds q)
      (h : current = none) : Verdict current line 503
  | invalid {e : Envelope} {q : Query} {c : Catalog}
      (read : Envelope.read? line = some e) (holds : e.Holds q)
      (there : current = some c) (h : q.Invalid) : Verdict current line 400
  | noPattern {e : Envelope} {q : Query} {c : Catalog}
      (read : Envelope.read? line = some e) (holds : e.Holds q)
      (there : current = some c) (valid : ¬ q.Invalid)
      (h : q.HasBadPattern) : Verdict current line 400
  | answered {e : Envelope} {q : Query} {c : Catalog}
      (read : Envelope.read? line = some e) (holds : e.Holds q)
      (there : current = some c) (valid : ¬ q.Invalid)
      (h : ¬ q.HasBadPattern) : Verdict current line 200

theorem exists_verdict (current : Option Catalog) (line : String) :
    ∃ n, Verdict current line n := by
  cases hread : Envelope.read? line with
  | none => exact ⟨400, .noEnvelope hread⟩
  | some e =>
      by_cases hversion : e.AsksUnknownVersion
      · exact ⟨404, .noVersion hread hversion⟩
      by_cases hbody : e.HasBadBody
      · exact ⟨400, .noRequest hread hversion hbody⟩
      obtain ⟨q, hq⟩ := Envelope.exists_holds_iff.2 ⟨hversion, hbody⟩
      cases hcurrent : current with
      | none => exact ⟨503, .noCatalog hread hq rfl⟩
      | some c =>
          by_cases hvalid : q.Invalid
          · exact ⟨400, .invalid hread hq rfl hvalid⟩
          by_cases hpattern : q.HasBadPattern
          · exact ⟨400, .noPattern hread hq rfl hvalid hpattern⟩
          · exact ⟨200, .answered hread hq rfl hvalid hpattern⟩

/-- Of the catalogue a verdict asks only whether there is one. -/
theorem Verdict.of_there {current current' : Option Catalog} {line : String}
    {n : Nat} (h : Verdict current line n)
    (hthere : current' = none ↔ current = none) :
    Verdict current' line n := by
  have hsome : ∀ c, current = some c → ∃ c', current' = some c' := by
    rintro c rfl
    exact Option.ne_none_iff_exists'.1 fun hnone => by cases hthere.1 hnone
  cases h with
  | noEnvelope h => exact .noEnvelope h
  | noVersion read h => exact .noVersion read h
  | noRequest read version h => exact .noRequest read version h
  | noCatalog read holds h => exact .noCatalog read holds (hthere.2 h)
  | invalid read holds there h =>
      obtain ⟨c', hc'⟩ := hsome _ there
      exact .invalid read holds hc' h
  | noPattern read holds there valid h =>
      obtain ⟨c', hc'⟩ := hsome _ there
      exact .noPattern read holds hc' valid h
  | answered read holds there valid h =>
      obtain ⟨c', hc'⟩ := hsome _ there
      exact .answered read holds hc' valid h

namespace Reply

variable {current : Option Catalog} {line : String}

theorem status_of_unread {f : Failure} (h : Envelope.query line = .error f) :
    (toLine current line).status = f.status := by
  rw [toLine, h]
  rfl

theorem toLine_of_query {q : Query} (h : Envelope.query line = .ok q) :
    toLine current line = match q.process current with
      | .ok a => ofAnswer a
      | .error f => ofFailure f := by
  rw [toLine, h]
  rfl

theorem status_of_refused {q : Query} {c : Catalog}
    (h : Envelope.query line = .ok q) (hq : q.Invalid ∨ q.HasBadPattern) :
    (toLine (some c) line).status = 400 := by
  obtain ⟨f, hf, hstatus⟩ := (q.process_refuses c).error hq
  rw [toLine_of_query h, hf]
  exact hstatus

theorem status_of_passed {q : Query} {c : Catalog}
    (h : Envelope.query line = .ok q)
    (hq : ¬ (q.Invalid ∨ q.HasBadPattern)) :
    (toLine (some c) line).status = 200 := by
  obtain ⟨a, ha⟩ := (q.process_refuses c).ok hq
  rw [toLine_of_query h, ha]
  rfl

end Reply

theorem Verdict.status_eq {current : Option Catalog} {line : String} {n : Nat}
    (h : Verdict current line n) :
    (Reply.toLine current line).status = n := by
  cases h with
  | noEnvelope h =>
      have hquery : Envelope.query line = .error .malformed := by
        rw [Envelope.query, h]
        rfl
      exact Reply.status_of_unread hquery
  | noVersion read h =>
      obtain ⟨n, hn⟩ := Envelope.read_of_unknownVersion h
      exact Reply.status_of_unread ((Envelope.query_of_read? read).trans hn)
  | noRequest read version h =>
      exact Reply.status_of_unread ((Envelope.query_of_read? read).trans
        (Envelope.read_of_badBody version h))
  | noCatalog read holds h =>
      subst h
      rw [Reply.toLine_of_query (Envelope.query_of_holds read holds)]
      rfl
  | invalid read holds there h =>
      subst there
      exact Reply.status_of_refused (Envelope.query_of_holds read holds)
        (Or.inl h)
  | noPattern read holds there valid h =>
      subst there
      exact Reply.status_of_refused (Envelope.query_of_holds read holds)
        (Or.inr h)
  | answered read holds there valid h =>
      subst there
      exact Reply.status_of_passed (Envelope.query_of_holds read holds)
        (not_or.2 ⟨valid, h⟩)

/-! ## Items have no part in it -/

/-- A list that was not empty has several elements once one more is put into
it, and is no pattern any more. -/
theorem not_bad_insert {before after : List String}
    (h : before ++ after ≠ []) (item : String) :
    ¬ (Lacking (some (before ++ item :: after)) ∨
      BadPattern (some (before ++ item :: after))) := by
  rintro ((hnone | hempty) | ⟨pattern, hone, -⟩)
  · cases hnone
  · have hnil := Option.some.inj hempty
    exact List.cons_ne_nil _ _ (List.append_eq_nil_iff.1 hnil).2
  · refine h (List.eq_nil_of_length_eq_zero ?_)
    have hlength := congrArg List.length (Option.some.inj hone)
    simp only [List.length_append, List.length_cons, List.length_nil]
      at hlength ⊢
    omega

/-- One more item leaves a valid query valid and without a bad pattern. -/
theorem Query.withItems_passes {q : Query} {before after : List String}
    (hitems : q.items? = some (before ++ after)) (h : ¬ q.Invalid)
    (item : String) :
    ¬ ((q.withItems (before ++ item :: after)).Invalid ∨
      (q.withItems (before ++ item :: after)).HasBadPattern) := by
  have hne : ¬ Lacking q.items? → before ++ after ≠ [] := by
    intro hlist hnil
    exact hlist (Or.inr (hitems.trans (congrArg some hnil)))
  cases q with
  | updates v r =>
      rintro ((hnone | hmodule) | hpattern)
      · cases hnone
      · exact h (Or.inr hmodule)
      · exact hpattern
  | vulnerabilities r =>
      rintro ((hnone | hmodule) | hpattern)
      · cases hnone
      · exact h (Or.inr hmodule)
      · exact hpattern
  | cves r => exact not_bad_insert (hne h) item
  | errata r => exact not_bad_insert (hne h) item
  | repositories r => exact not_bad_insert (hne h) item
  | packages r =>
      rintro (hlist | hpattern)
      · exact not_bad_insert (hne h) item (Or.inl hlist)
      · exact hpattern
  | freshness => cases hitems

/-- A line that is answered is also answered with one more item in the list
of its query. -/
theorem Reply.status_withItems {current : Option Catalog}
    {line line' item : String} {q : Query} {before after : List String}
    (hitems : q.items? = some (before ++ after))
    (hline : Envelope.query line = .ok q)
    (hline' : Envelope.query line' =
      .ok (q.withItems (before ++ item :: after)))
    (h : (toLine current line).status = 200) :
    (toLine current line').status = 200 := by
  cases current with
  | none =>
      rw [toLine_of_query hline] at h
      cases h
  | some c =>
      have hvalid : ¬ q.Invalid := by
        intro hinvalid
        rw [status_of_refused hline (Or.inl hinvalid)] at h
        cases h
      exact status_of_passed hline'
        (Query.withItems_passes hitems hvalid item)

/-- The status of a reply is the verdict on the line. It does not depend on
what the catalogue holds, only on whether there is one, and one more item in
a list never makes a line fail that is answered. What a verdict asks of a line
is asked of the value on it: which envelope it is, and which body is read. -/
theorem reply_status (s : Service) (line : String) :
    (∀ n, (s.reply line).status = n ↔ Verdict s.current line n) ∧
    (∀ s' : Service, (s'.current = none ↔ s.current = none) →
      (s'.reply line).status = (s.reply line).status) ∧
    (∀ q before item after line', q.items? = some (before ++ after) →
      Envelope.query line = .ok q →
      Envelope.query line' = .ok (q.withItems (before ++ item :: after)) →
      (s.reply line).status = 200 → (s.reply line').status = 200) ∧
    (∀ e, Envelope.read? line = some e ↔
      ∃ json, Json.read? line = some json ∧ IsEnvelope json e) ∧
    ∀ e : Envelope, (e.body = .null → e.queryBody = .object []) ∧
      (e.body ≠ .null → e.queryBody = e.body) := by
  have hverdict : ∀ (s : Service) n, (s.reply line).status = n ↔
      Verdict s.current line n := by
    intro s n
    obtain ⟨m, hm⟩ := exists_verdict s.current line
    constructor
    · intro h
      rw [Service.reply, hm.status_eq] at h
      rwa [h] at hm
    · exact Verdict.status_eq
  refine ⟨hverdict s, fun s' hs' => ?_, fun q before item after line' hitems
    hline hline' => Reply.status_withItems hitems hline hline',
    fun e => Envelope.read?_eq_some_iff, Envelope.queryBody_eq⟩
  obtain ⟨n, hn⟩ := exists_verdict s.current line
  rw [(hverdict s n).2 hn]
  exact (hverdict s' n).2 (hn.of_there hs')

/-- A service whose catalogue has a vulnerability. -/
def reportedService : Service :=
  ⟨some (reportedTables.catalog kernelFreshness), false, false⟩

/-- A service whose catalogue has none. -/
def unreportedService : Service :=
  ⟨some (kernelTables.catalog kernelFreshness), false, false⟩

/-- A line that asks for a vulnerability by name. -/
def cveLine : String :=
  "\x7b\"endpoint\":\"cves\",\"body\":\x7b\"cve_list\":[\"CVE-2020-1\"]\x7d\x7d"

/-- The same line with a name that is not known in front. -/
def unknownCveLine : String :=
  "\x7b\"endpoint\":\"cves\",\"body\":\x7b\"cve_list\":[\"?\",\"CVE-2020-1\"]\x7d\x7d"

/-- What that line asks for. -/
def cveQuery : Query :=
  .cves ⟨some ["CVE-2020-1"], none, none, false, ⟨0, 0⟩⟩

/-- A name is asked for and answered, also by a service that does not know it,
and also with another name that nobody knows. -/
theorem reply_status_answered :
    Envelope.query cveLine = .ok cveQuery ∧
    Envelope.query unknownCveLine =
      .ok (cveQuery.withItems ["?", "CVE-2020-1"]) ∧
    Verdict reportedService.current cveLine 200 ∧
    (reportedService.reply cveLine).status = 200 ∧
    (unreportedService.reply cveLine).status = 200 ∧
    (reportedService.reply unknownCveLine).status = 200 := by
  have hquery : Envelope.query cveLine = .ok cveQuery :=
    toOption_eq_some_iff.1 (by decide +kernel)
  have hunknown : Envelope.query unknownCveLine =
      .ok (cveQuery.withItems ["?", "CVE-2020-1"]) :=
    toOption_eq_some_iff.1 (by decide +kernel)
  obtain ⟨e, hread, hholds⟩ := Envelope.query_eq_ok_iff.1 hquery
  have hvalid : ¬ cveQuery.Invalid := by
    rintro (hnone | hempty)
    · cases hnone
    · cases hempty
  have hpattern : ¬ cveQuery.HasBadPattern := by
    rintro ⟨pattern, hone, hbad⟩
    cases hone
    have hcompiles : (Pattern.compile "CVE-2020-1").toOption.isSome = true := by
      decide +kernel
    obtain ⟨r, hr⟩ := Option.isSome_iff_exists.1 hcompiles
    exact hbad r (toOption_eq_some_iff.1 hr)
  have hverdict : Verdict reportedService.current cveLine 200 :=
    .answered hread hholds rfl hvalid hpattern
  obtain ⟨hstatus, hthere, hitems, -, -⟩ :=
    reply_status reportedService cveLine
  have hanswered := (hstatus 200).2 hverdict
  refine ⟨hquery, hunknown, hverdict, hanswered, ?_, ?_⟩
  · rw [hthere unreportedService ⟨fun h => (by cases h), fun h => (by cases h)⟩,
      hanswered]
  · exact hitems cveQuery [] "?" ["CVE-2020-1"] unknownCveLine rfl hquery
      hunknown hanswered

/-- The version comes before the catalogue, and the catalogue before the list
that is not given. -/
example : (Service.initial.reply "[\"updates\",7,[]]").status = 404 ∧
    (Service.initial.reply "[\"cves\",null]").status = 503 := by
  decide +kernel

end Advisory
