import Advisory.Service.Query
import Advisory.Proofs.Findings

/-!
# Security mode is a filter

Asking for security errata only drops updates and does nothing else: the list
of a package is the unrestricted list without the updates of other errata, in
the same order and with the same repetitions, and the same packages are
placed. The restriction is tested deep inside the searches, once for every
erratum of every candidate, while an update is told from its erratum's name
alone; both look at the same erratum because a search goes through the name
as well. So the search at one pair of a candidate and an erratum is filtered,
and with it all that is found.

The versions of the endpoint differ in this mode and in the texts they
attach, so all their agreements are instances of the one law.
-/

namespace Advisory

namespace Catalog

variable (c : Catalog) (r : UpdatesRequest)

/-- Whether the erratum of an update concerns security: as the catalogue
describes the erratum with that name, this is its type, or it has a
vulnerability at least. -/
def isSecurityUpdate (u : Update) : Bool :=
  c.errata[u.erratum]?.any fun e =>
    e.notice.kind = "security" ∨ e.cves ≠ []

theorem isSecurityUpdate_eq {u : Update} {e : Erratum}
    (h : c.errata[u.erratum]? = some e) :
    c.isSecurityUpdate u = e.isSecurity := by
  rw [isSecurityUpdate, h, Option.any_some, Bool.eq_iff_iff,
    decide_eq_true_eq, Erratum.isSecurity_iff]

/-! ## The search at one pair is filtered -/

theorem updatesThrough_security (b b' : Bool) (own : List Repository)
    (id : PackageId) (p : Package) (x : ErratumId) :
    c.updatesThrough r ⟨b, true⟩ own id p x =
      (c.updatesThrough r ⟨b', false⟩ own id p x).filter
        c.isSecurityUpdate := by
  simp only [updatesThrough]
  cases hx : c.erratum? x with
  | none => rfl
  | some found =>
      obtain ⟨name, e⟩ := found
      obtain ⟨-, he⟩ := erratum?_eq_some_iff.1 hx
      simp only [Bool.true_and, Bool.false_and, Bool.false_or]
      cases hpair : r.admitsPair c id x with
      | false => simp
      | true =>
          -- All updates through one erratum are kept, or none is.
          have hsec : ∀ repo : Repository, c.isSecurityUpdate ⟨c.written p,
              name, repo.label, repo.basearch.getD "",
              repo.releasever.getD ""⟩ = e.isSecurity :=
            fun _ => c.isSecurityUpdate_eq he
          cases hs : e.isSecurity with
          | false => simp [List.filter_map, Function.comp_def, hsec, hs]
          | true => simp [List.filter_map, Function.comp_def, hsec, hs]

theorem updatesOf_security (b b' : Bool) (i : Installed) :
    c.updatesOf r ⟨b, true⟩ i =
      (c.updatesOf r ⟨b', false⟩ i).filter c.isSecurityUpdate :=
  updatesOf_filter (c.updatesThrough_security r b b') i

theorem available_security (b b' : Bool) (text : String) :
    (c.updatesEntry r ⟨b, true⟩ text).available =
      (c.updatesEntry r ⟨b', false⟩ text).available.map
        (List.filter c.isSecurityUpdate) := by
  rw [available_updatesEntry, available_updatesEntry, Option.map_map]
  exact congrArg (Option.map · _)
    (funext fun i => c.updatesOf_security r b b' i)

end Catalog

/-! ## Answers -/

/-- Two answers differ at most in the texts of entries that have a list. -/
structure UpdatesAnswer.SameButTexts (a b : UpdatesAnswer) : Prop where
  repositories : a.repositories = b.repositories
  modules : a.modules = b.modules
  releasever : a.releasever = b.releasever
  basearch : a.basearch = b.basearch
  available : ∀ text : String, a.entries[text]?.map (·.available) =
    b.entries[text]?.map (·.available)
  unplaced : ∀ (text : String) (e : PackageUpdates),
    a.entries[text]? = some e → e.available = none →
      b.entries[text]? = some e

namespace UpdatesRequest

variable (r : UpdatesRequest) (c : Catalog)

theorem entries_security (b b' : Bool) (text : String) :
    (r.resolve c ⟨b, true⟩).entries[text]?.map (·.available) =
      (r.resolve c ⟨b', false⟩).entries[text]?.map fun e =>
        e.available.map (List.filter c.isSecurityUpdate) := by
  rw [getElem?_resolve, getElem?_resolve]
  split
  · exact congrArg some (c.available_security r b b' text)
  · rfl

/-- What a request says about security mode is read by the third version of
the endpoint only; the answer does not depend on it. -/
theorem resolve_securityOnly (b : Bool) (o : UpdateOptions) :
    ({ r with securityOnly := b } : UpdatesRequest).resolve c o =
      r.resolve c o := rfl

/-- The texts are all that the options for them change. -/
theorem resolve_sameButTexts (b b' : Bool) :
    (r.resolve c ⟨b, true⟩).SameButTexts (r.resolve c ⟨b', true⟩) where
  repositories := rfl
  modules := rfl
  releasever := rfl
  basearch := rfl
  available text := by
    rw [r.entries_security c b false, r.entries_security c b' false]
  unplaced text e he hnone := by
    rw [getElem?_resolve] at he ⊢
    split at he
    · next htext =>
        injection he with he
        subst he
        rw [if_pos htext]
        -- Without a list both entries say nothing at all.
        rw [Catalog.available_updatesEntry, Option.map_eq_none_iff] at hnone
        rw [Catalog.updatesEntry, Catalog.updatesEntry, hnone]
    · cases he

/-- A request that passes its check is answered, in every version with the
entries that its options ask for. -/
theorem process_updates (v : UpdatesVersion) :
    (Query.updates v r).process (some c) =
      (fun _ => Answer.updates (r.resolve c (v.options r))) <$>
        r.validate := by
  show (r.validate >>= fun _ => _) = _
  cases r.validate with
  | error e => rfl
  | ok _ => rfl

/-- No text is answered with a list in one mode and without one in the
other. -/
theorem isSome_security (b b' : Bool) (text : String) :
    ((r.resolve c ⟨b, true⟩).entries[text]?.bind (·.available)).isSome =
      ((r.resolve c ⟨b', false⟩).entries[text]?.bind
        (·.available)).isSome := by
  show ((r.resolve c ⟨b, true⟩).listOf? text).isSome =
    ((r.resolve c ⟨b', false⟩).listOf? text).isSome
  rw [listOf?_filter rfl (c.updatesThrough_security r b b'),
    Option.isSome_map]

end UpdatesRequest

/-- Security mode filters the answer, and the versions of the endpoint agree
up to it and up to the texts. A request that fails its check fails alike in
all of them. -/
theorem security_mode_filters (r : UpdatesRequest) (c : Catalog) :
    (∀ (b b' : Bool) (text : String),
      (r.resolve c ⟨b, true⟩).entries[text]?.map (·.available) =
        (r.resolve c ⟨b', false⟩).entries[text]?.map fun e =>
          e.available.map (List.filter c.isSecurityUpdate)) ∧
    (∀ (b b' : Bool) (text : String),
      ((r.resolve c ⟨b, true⟩).entries[text]?.bind (·.available)).isSome =
        ((r.resolve c ⟨b', false⟩).entries[text]?.bind
          (·.available)).isSome) ∧
    (Query.updates .second r).process (some c) =
      (Query.updates .third { r with securityOnly := true }).process
        (some c) ∧
    (∃ first second : UpdatesAnswer, first.SameButTexts second ∧
      (Query.updates .first r).process (some c) =
        (fun _ => Answer.updates first) <$> r.validate ∧
      (Query.updates .second r).process (some c) =
        (fun _ => Answer.updates second) <$> r.validate) ∧
    ∀ b, (Query.updates .first { r with securityOnly := b }).process
        (some c) = (Query.updates .first r).process (some c) ∧
      (Query.updates .second { r with securityOnly := b }).process
        (some c) = (Query.updates .second r).process (some c) := by
  refine ⟨r.entries_security c, r.isSome_security c, ?_,
    ⟨_, _, r.resolve_sameButTexts c true false,
      r.process_updates c .first, r.process_updates c .second⟩, ?_⟩
  · rw [UpdatesRequest.process_updates, UpdatesRequest.process_updates,
      UpdatesRequest.resolve_securityOnly]
    rfl
  · intro b
    constructor
    · rw [UpdatesRequest.process_updates, UpdatesRequest.process_updates,
        UpdatesRequest.resolve_securityOnly]
      rfl
    · rw [UpdatesRequest.process_updates, UpdatesRequest.process_updates,
        UpdatesRequest.resolve_securityOnly]
      rfl

end Advisory
