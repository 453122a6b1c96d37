import Advisory.Service.Envelope

/-!
# How an envelope is written

The value on a request line is looked at in two forms, and inside an object
under three names, each of which may be missing or repeated. `IsEnvelope` says
which values are envelopes without saying how they are read: the endpoint has
one of seven names, the version is missing, null or a number of one byte, and
the body is anything that is sound, null if it is missing. Other members of an
object have no part in it, whatever they hold.
-/

namespace Advisory

/-- The endpoints under their names. -/
def Endpoint.names : List (String × Endpoint) := [
  ("updates", updates), ("vulnerabilities", vulnerabilities), ("cves", cves),
  ("errata", errata), ("repos", repositories), ("packages", packages),
  ("dbchange", freshness)]

/-- The value that an object gives under a name: the only one, or null if there
is none. -/
inductive Gives (name : String) (members : List (String × Json)) : Json → Prop
  | missing (h : ∀ m ∈ members, m.1 ≠ name) : Gives name members .null
  | once {before after : List (String × Json)} {json : Json}
      (h : members = before ++ (name, json) :: after)
      (hbefore : ∀ m ∈ before, m.1 ≠ name) (hafter : ∀ m ∈ after, m.1 ≠ name) :
      Gives name members json

/-- A value names an endpoint: as a text, or as an object with the name over
null. -/
inductive NamesEndpoint : Json → Endpoint → Prop
  | text {name : String} {e : Endpoint} (h : (name, e) ∈ Endpoint.names) :
      NamesEndpoint (.text name) e
  | member {name : String} {e : Endpoint} (h : (name, e) ∈ Endpoint.names) :
      NamesEndpoint (.object [(name, .null)]) e

/-- A value asks for a version, or for none. -/
inductive AsksVersion : Json → Option Nat → Prop
  | null : AsksVersion .null none
  | number {n : Nat} (h : n ≤ 255) : AsksVersion (.integer n) (some n)

/-- A body is sound inside of its envelope. -/
def IsBody (json : Json) : Prop := json.isSound (Json.maxDepth - 1) = true

/-- A value is an envelope. -/
inductive IsEnvelope : Json → Envelope → Prop
  | object {members : List (String × Json)} {endpoint version body : Json}
      {e : Endpoint} {v : Option Nat}
      (hendpoint : Gives "endpoint" members endpoint)
      (hversion : Gives "version" members version)
      (hbody : Gives "body" members body) (he : NamesEndpoint endpoint e)
      (hv : AsksVersion version v) (hb : IsBody body) :
      IsEnvelope (.object members) ⟨e, v, body⟩
  | pair {endpoint version : Json} {e : Endpoint} {v : Option Nat}
      (he : NamesEndpoint endpoint e) (hv : AsksVersion version v) :
      IsEnvelope (.array [endpoint, version]) ⟨e, v, .null⟩
  | triple {endpoint version body : Json} {e : Endpoint} {v : Option Nat}
      (he : NamesEndpoint endpoint e) (hv : AsksVersion version v)
      (hb : IsBody body) :
      IsEnvelope (.array [endpoint, version, body]) ⟨e, v, body⟩

/-! ## Parts -/

theorem Endpoint.ofName?_eq_some_iff {name : String} {e : Endpoint} :
    ofName? name = some e ↔ (name, e) ∈ names := by
  unfold ofName? names
  split
  all_goals simp_all [eq_comm]

namespace Envelope

variable {json : Json} {members : List (String × Json)} {name : String}

theorem endpoint?_eq_some_iff {e : Endpoint} :
    endpoint? json = some e ↔ NamesEndpoint json e := by
  constructor
  · intro h
    unfold endpoint? at h
    split at h
    · exact .text (Endpoint.ofName?_eq_some_iff.1 h)
    · exact .member (Endpoint.ofName?_eq_some_iff.1 h)
    · cases h
  · intro h
    cases h with
    | text h => exact Endpoint.ofName?_eq_some_iff.2 h
    | member h => exact Endpoint.ofName?_eq_some_iff.2 h

theorem version?_eq_some_iff {v : Option Nat} :
    version? json = some v ↔ AsksVersion json v := by
  constructor
  · intro h
    unfold version? at h
    split at h
    · cases h
      exact .null
    · next n =>
        split at h
        · next hn =>
            obtain ⟨k, rfl⟩ := Int.eq_ofNat_of_zero_le hn.1
            cases h
            exact .number (Int.ofNat_le.1 hn.2)
        · cases h
    · cases h
  · intro h
    cases h with
    | null => rfl
    | number h =>
        exact if_pos ⟨Int.natCast_nonneg _, Int.ofNat_le.2 h⟩

theorem body?_eq_some_iff {body : Json} :
    body? json = some body ↔ json = body ∧ IsBody body := by
  unfold body? IsBody
  split
  · next h =>
      rw [Option.some.injEq]
      exact ⟨fun heq => ⟨heq, heq ▸ h⟩, And.left⟩
  · next h =>
      exact ⟨fun heq => (by cases heq), fun ⟨heq, hb⟩ => absurd (heq ▸ hb) h⟩

/-- Reading what is given under a name finds it, unless there are several. -/
theorem only?_eq_some_iff : (∃ found, only? name members = some found ∧
    found.getD .null = json) ↔ Gives name members json := by
  constructor
  · rintro ⟨found, h, rfl⟩
    unfold only? at h
    split at h
    · next hnone =>
        cases h
        refine .missing fun m hm heq => ?_
        exact List.filter_eq_nil_iff.1 hnone m hm (decide_eq_true heq)
    · next other value hone =>
        cases h
        obtain ⟨before, after, rfl, hbefore, hother, hafter⟩ :=
          List.filter_eq_cons_iff.1 hone
        obtain rfl := of_decide_eq_true hother
        refine .once rfl (fun m hm heq => hbefore m hm (decide_eq_true heq))
          fun m hm heq => ?_
        exact List.filter_eq_nil_iff.1 hafter m hm (decide_eq_true heq)
    · cases h
  · intro h
    cases h with
    | missing h =>
        have hnone : members.filter (·.1 = name) = [] :=
          List.filter_eq_nil_iff.2 fun m hm heq => h m hm (of_decide_eq_true heq)
        exact ⟨none, by rw [only?, hnone], rfl⟩
    | @once before after _ h hbefore hafter =>
        have hone : members.filter (·.1 = name) = [(name, json)] := by
          rw [h, List.filter_append, List.filter_cons_of_pos (by simp),
            List.filter_eq_nil_iff.2 fun m hm heq =>
              hbefore m hm (of_decide_eq_true heq),
            List.filter_eq_nil_iff.2 fun m hm heq =>
              hafter m hm (of_decide_eq_true heq)]
          rfl
        exact ⟨some json, by rw [only?, hone], rfl⟩

/-! ## Envelopes -/

variable {e : Envelope}

theorem ofJson?_eq_some_iff : ofJson? json = some e ↔ IsEnvelope json e := by
  constructor
  · intro h
    unfold ofJson? at h
    split at h
    · simp only [Option.bind_eq_bind, Option.bind_eq_some_iff, Option.pure_def,
        Option.some.injEq] at h
      obtain ⟨_, hendpoint, _, rfl, endpoint, he, _, hversion, version, hv, _,
        hbody, body, hb, rfl⟩ := h
      obtain ⟨rfl, hb⟩ := body?_eq_some_iff.1 hb
      exact .object (only?_eq_some_iff.1 ⟨_, hendpoint, rfl⟩)
        (only?_eq_some_iff.1 ⟨_, hversion, rfl⟩)
        (only?_eq_some_iff.1 ⟨_, hbody, rfl⟩) (endpoint?_eq_some_iff.1 he)
        (version?_eq_some_iff.1 hv) hb
    · obtain ⟨endpoint, he, h⟩ := Option.bind_eq_some_iff.1 h
      obtain ⟨version, hv, h⟩ := Option.bind_eq_some_iff.1 h
      have he := endpoint?_eq_some_iff.1 he
      have hv := version?_eq_some_iff.1 hv
      split at h
      · cases h
        exact .pair he hv
      · obtain ⟨body, hb, h⟩ := Option.bind_eq_some_iff.1 h
        obtain ⟨rfl, hb⟩ := body?_eq_some_iff.1 hb
        cases h
        exact .triple he hv hb
      · cases h
    · cases h
  · intro h
    cases h with
    | object gendpoint gversion gbody he hv hb =>
        obtain ⟨endpoint, hendpoint, rfl⟩ := only?_eq_some_iff.2 gendpoint
        obtain ⟨version, hversion, rfl⟩ := only?_eq_some_iff.2 gversion
        obtain ⟨body, hbody, rfl⟩ := only?_eq_some_iff.2 gbody
        -- Null names no endpoint, so the endpoint is not missing.
        cases endpoint with
        | none => cases he
        | some endpoint =>
            have he : endpoint? endpoint = some _ :=
              endpoint?_eq_some_iff.2 he
            simp only [ofJson?, hendpoint, hversion, hbody,
              Option.bind_eq_bind, Option.bind_some, he,
              version?_eq_some_iff.2 hv, body?_eq_some_iff.2 ⟨rfl, hb⟩]
            rfl
    | pair he hv =>
        simp only [ofJson?, endpoint?_eq_some_iff.2 he,
          version?_eq_some_iff.2 hv, Option.bind_eq_bind, Option.bind_some]
        rfl
    | triple he hv hb =>
        simp only [ofJson?, endpoint?_eq_some_iff.2 he,
          version?_eq_some_iff.2 hv, body?_eq_some_iff.2 ⟨rfl, hb⟩,
          Option.bind_eq_bind, Option.bind_some]
        rfl

/-- A line holds an envelope exactly if the value on it is one. -/
theorem read?_eq_some_iff {line : String} : read? line = some e ↔
    ∃ json, Json.read? line = some json ∧ IsEnvelope json e := by
  simp only [read?, Option.bind_eq_bind, Option.bind_eq_some_iff,
    ofJson?_eq_some_iff]

/-- A body that is null is read as an empty object, and any other one as it
is. -/
theorem queryBody_eq (e : Envelope) :
    (e.body = .null → e.queryBody = .object []) ∧
      (e.body ≠ .null → e.queryBody = e.body) := by
  unfold queryBody
  split
  · next h => exact ⟨fun _ => rfl, fun hne => absurd h hne⟩
  · next h => exact ⟨fun hnull => absurd hnull h, fun _ => rfl⟩

end Envelope

end Advisory
