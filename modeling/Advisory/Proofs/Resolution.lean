import Advisory.Proofs.Offers

/-!
# What is answered about an installed package

The answer to an updates request has one entry for every text of the request.
An entry has no list of updates exactly if the text cannot be placed among
the packages of its name. Otherwise the list is about the package at the
greatest place of its version and architecture: it is empty if that package
is the last one of its name, and it holds exactly the updates that are
offered to it if it is not, in order.
-/

namespace Advisory

namespace Catalog

/-- A text cannot be placed: it is no package identifier, or one of its parts
has no number, or its version has no places, or at none of them stands a
package of its architecture. -/
def Unplaced (c : Catalog) (text : String) : Prop :=
  (∀ n, Nevra.parse text ≠ .ok n) ∨
  (∃ n, Nevra.parse text = .ok n ∧ (c.nameIds[n.name]? = none ∨
    c.evrIds[n.evr]? = none ∨ c.archIds[n.arch]? = none)) ∨
  ∃ key, c.Denotes text key ∧
    (c.positions[(key.name, key.evr)]? = none ∨
      ∀ place id, ¬ c.StandsAt key place id)

theorem unplaced_iff {c : Catalog} {text : String} : c.Unplaced text ↔
    ∀ key, c.Denotes text key → ∀ place id, ¬ c.StandsAt key place id := by
  constructor
  · rintro (hbad | ⟨n, hn, hnone⟩ | ⟨key, hkey, hno⟩)
      key' ⟨n', hn', h1, h2, h3⟩ place id hs
    · exact hbad n' hn'
    · rw [hn] at hn'
      cases hn'
      rw [h1, h2, h3] at hnone
      rcases hnone with h | h | h <;> cases h
    · obtain rfl := denotes_unique hkey ⟨n', hn', h1, h2, h3⟩
      rcases hno with h | h
      · rw [Dict.getElem?_of_mem_listAt hs.1] at h
        cases h
      · exact h place id hs
  · -- The lookups are tried in the order in which they can fail.
    intro h
    cases hp : Nevra.parse text with
    | error e => exact Or.inl fun n hn => by rw [hp] at hn; cases hn
    | ok n =>
        refine Or.inr ?_
        cases h1 : c.nameIds[n.name]? with
        | none => exact Or.inl ⟨n, hp, Or.inl h1⟩
        | some name =>
            cases h2 : c.evrIds[n.evr]? with
            | none => exact Or.inl ⟨n, hp, Or.inr (Or.inl h2)⟩
            | some evr =>
                cases h3 : c.archIds[n.arch]? with
                | none => exact Or.inl ⟨n, hp, Or.inr (Or.inr h3)⟩
                | some arch =>
                    have hkey : c.Denotes text ⟨name, evr, arch⟩ :=
                      ⟨n, hp, h1, h2, h3⟩
                    exact Or.inr ⟨_, hkey, Or.inr (h _ hkey)⟩

end Catalog

/-- What an entry has to say about a text. -/
structure PackageUpdates.IsExact (e : PackageUpdates) (c : Catalog)
    (r : UpdatesRequest) (o : UpdateOptions) (text : String) : Prop where
  unplaced : e.available = none ↔ c.Unplaced text
  placed : ∀ updates, e.available = some updates → ∃ key installed,
    c.Denotes text key ∧ c.Installs key installed ∧
    Sorted compare updates ∧
    ((c.versions.listAt key.name).getLast? = some installed →
      updates = []) ∧
    ((c.versions.listAt key.name).getLast? ≠ some installed →
      ∀ u, u ∈ updates ↔ ∃ f : Offer c r o key installed, f.update = u)

theorem UpdatesRequest.getElem?_resolve (r : UpdatesRequest) (c : Catalog)
    (o : UpdateOptions) (text : String) :
    (r.resolve c o).entries[text]? =
      if text ∈ r.packages.getD [] then some (c.updatesEntry r o text)
      else none :=
  Dict.getElem?_ofPairs_map (c.updatesEntry r o) _ text

/-- The list of an entry is about the package that the text is placed as. -/
theorem Catalog.available_updatesEntry (c : Catalog) (r : UpdatesRequest)
    (o : UpdateOptions) (text : String) :
    (c.updatesEntry r o text).available =
      ((Nevra.parse text).toOption.bind c.installed?).map
        (c.updatesOf r o) := by
  rw [Catalog.updatesEntry]
  split
  · next h => rw [h]; rfl
  · next i h => rw [h]; rfl

theorem Catalog.updatesOf_sorted (c : Catalog) (r : UpdatesRequest)
    (o : UpdateOptions) (i : Installed) :
    Sorted compare (c.updatesOf r o i) := by
  rw [Catalog.updatesOf]
  split
  · exact List.Pairwise.nil
  · exact stableSort_sorted _

theorem Catalog.updatesEntry_isExact {c : Catalog} (h : c.PlacesAscend)
    (r : UpdatesRequest) (o : UpdateOptions) (text : String) :
    (c.updatesEntry r o text).IsExact c r o text := by
  rw [Catalog.updatesEntry]
  split
  · next hnone =>
      refine ⟨⟨fun _ => ?_, fun _ => rfl⟩, fun _ hu => by cases hu⟩
      rw [Catalog.unplaced_iff]
      intro key hkey place id hs
      obtain ⟨i, hi⟩ := Catalog.exists_places h hs
      rw [(Catalog.placed_iff h).2 ⟨key, hkey, hi⟩] at hnone
      cases hnone
  · next i hi =>
      obtain ⟨key, hkey, hplaces⟩ := (Catalog.placed_iff h).1 hi
      obtain ⟨place, hs, -⟩ := hplaces.installs
      refine ⟨⟨fun hn => (by cases hn), fun hun => ?_⟩, fun updates hu => ?_⟩
      · exact absurd hs (Catalog.unplaced_iff.1 hun key hkey place _)
      · injection hu with hu
        subst hu
        refine ⟨key, i.package, hkey, hplaces.installs,
          c.updatesOf_sorted r o i, fun hlast => ?_, fun hlast u => ?_⟩
        · rw [Catalog.updatesOf, if_pos (hplaces.versions ▸ hlast)]
        · rw [Catalog.updatesOf, if_neg (hplaces.versions ▸ hlast),
            Catalog.mem_updatesBehind hplaces]

/-- Every text of a request is answered, and the answer says exactly what can
be updated. -/
theorem resolve_isExact {s : Snapshot} {c : Catalog}
    (hload : Catalog.load s = .ok c) (r : UpdatesRequest) (o : UpdateOptions)
    {texts : List String} (hr : r.packages = some texts) {text : String}
    (ht : text ∈ texts) : ∃ e, (r.resolve c o).entries[text]? = some e ∧
      e.IsExact c r o text := by
  refine ⟨c.updatesEntry r o text, ?_,
    Catalog.updatesEntry_isExact (Catalog.load_placesAscend hload) r o text⟩
  rw [UpdatesRequest.getElem?_resolve, hr]
  exact if_pos ht

/-- A request for one package of the snapshot with two builds. -/
def kernelRequest : UpdatesRequest where
  packages := some ["kernel-4-1.x86_64"]
  repositories := none
  modules := none
  releasever := some "8"
  basearch := none
  securityOnly := true

theorem resolve_kernel_isExact :
    Catalog.load kernelSnapshot =
      .ok (kernelTables.catalog kernelFreshness) ∧
    kernelRequest.packages = some ["kernel-4-1.x86_64"] ∧
    "kernel-4-1.x86_64" ∈ ["kernel-4-1.x86_64"] ∧
    ∃ e, (kernelRequest.resolve (kernelTables.catalog kernelFreshness)
        ⟨false, true⟩).entries["kernel-4-1.x86_64"]? = some e ∧
      e.IsExact (kernelTables.catalog kernelFreshness) kernelRequest
        ⟨false, true⟩ "kernel-4-1.x86_64" :=
  ⟨load_kernelSnapshot, rfl, List.mem_singleton.2 rfl,
    resolve_isExact load_kernelSnapshot kernelRequest ⟨false, true⟩ rfl
      (List.mem_singleton.2 rfl)⟩

/-- The newer build is offered, by the repository that ships both. -/
example : ((kernelRequest.resolve (kernelTables.catalog kernelFreshness)
      ⟨false, true⟩).entries["kernel-4-1.x86_64"]?.bind (·.available)) =
    some [⟨"kernel-4-2.x86_64", "RHSA-2020:1", "baseos", "", "8"⟩] := by
  decide +kernel

end Advisory
