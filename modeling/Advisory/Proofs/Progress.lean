import Mathlib.Logic.Relation
import Advisory.Proofs.Findings

/-!
# Updating makes progress

Whoever installs what is offered and asks again is never led back. The
measure is the greatest place that the index gives to a version: candidates
stand behind every place of the installed version, whatever architecture
these places hold, and a candidate's own place belongs to its version as
soon as the index is complete. So each update that is found raises the
measure, and a chain of updates, however long and with whatever requests in
between, cannot return to a version it has left. What an answer lists is what
is found, so this holds of whatever it lists. Rows that break the order of versions do no harm
here, as long as every place is listed under the version that stands there.
-/

namespace Advisory

namespace Catalog

/-- The index lists every place of every name under the version of the
package that stands there. -/
def IndexComplete (c : Catalog) : Prop :=
  ∀ name place id p, (c.versions.listAt name)[place]? = some id →
    c.packages[id]? = some p → place ∈ c.positions.listAt (name, p.evr)

/-- The greatest place of a version of a name. -/
def greatestPlace (c : Catalog) (name : NameId) (evr : EvrId) : Option Nat :=
  (c.positions.listAt (name, evr)).max?

/-- An update is found for a text of a request, at a candidate. -/
def Emits (c : Catalog) (r : UpdatesRequest) (o : UpdateOptions)
    (text : String) (g : Finding) : Prop :=
  ∃ found, r.findings? c o text = some found ∧ g ∈ found

/-- Some request leads from one version of a name to another: for a text that
stands for the one an update is found at a package of the other. -/
def Advances (c : Catalog) (name : NameId) (evr evr' : EvrId) : Prop :=
  ∃ r o text arch g p, c.Denotes text ⟨name, evr, arch⟩ ∧
    c.Emits r o text g ∧ c.packages[g.package]? = some p ∧ p.evr = evr'

theorem exists_greatestPlace {c : Catalog} {name : NameId} {evr : EvrId}
    {place : Nat} (h : place ∈ c.positions.listAt (name, evr)) :
    ∃ g, c.greatestPlace name evr = some g ∧ place ≤ g ∧
      g ∈ c.positions.listAt (name, evr) := by
  obtain ⟨g, hg⟩ := Option.isSome_iff_exists.1 (List.isSome_max?_of_mem h)
  obtain ⟨hmem, hmax⟩ := List.max?_eq_some_iff.1 hg
  exact ⟨g, hg, hmax place h, hmem⟩

/-- The greatest place of one version of a name is in front of that of another
one. -/
def Precedes (c : Catalog) (name : NameId) (evr evr' : EvrId) : Prop :=
  ∃ last last', c.greatestPlace name evr = some last ∧
    c.greatestPlace name evr' = some last' ∧ last < last'

theorem Precedes.trans {c : Catalog} {name : NameId} {evr evr' evr'' : EvrId}
    (h : c.Precedes name evr evr') (h' : c.Precedes name evr' evr'') :
    c.Precedes name evr evr'' := by
  obtain ⟨first, middle, hfirst, hmiddle, hlt⟩ := h
  obtain ⟨middle', last, hmiddle', hlast, hlt'⟩ := h'
  obtain rfl : middle = middle' := Option.some.inj (hmiddle.symm.trans hmiddle')
  exact ⟨first, last, hfirst, hlast, Nat.lt_trans hlt hlt'⟩

theorem Precedes.irrefl {c : Catalog} {name : NameId} {evr : EvrId} :
    ¬ c.Precedes name evr evr := by
  rintro ⟨last, last', hlast, hlast', hlt⟩
  obtain rfl : last = last' := Option.some.inj (hlast.symm.trans hlast')
  exact Nat.lt_irrefl last hlt

/-! ## Steps and chains -/

/-- What is found for a text is offered to the package that is installed under
its key. -/
theorem offer_of_emits {c : Catalog} (h : c.PlacesAscend) {r : UpdatesRequest}
    {o : UpdateOptions} {text : String} {key : PackageKey} {g : Finding}
    (hkey : c.Denotes text key) (hemits : c.Emits r o text g) :
    ∃ id, c.Installs key id ∧ ∃ f : Offer c r o key id,
      f.candidate = g.package ∧ f.update = g.update := by
  obtain ⟨found, hfound, hg⟩ := hemits
  rw [UpdatesRequest.findings?] at hfound
  split at hfound
  · obtain ⟨i, hi, rfl⟩ := Option.map_eq_some_iff.1 hfound
    obtain ⟨key', hkey', hplaces⟩ := (placed_iff h).1 hi
    obtain rfl := denotes_unique hkey hkey'
    exact ⟨i.package, hplaces.installs, hplaces.offer_of_mem_findings hg⟩
  · cases hfound

/-- What is found shows a package whose version has its greatest place beyond
that of the installed version. -/
theorem emits_progress {c : Catalog} (h : c.PlacesAscend)
    (hindex : c.IndexComplete) {r : UpdatesRequest} {o : UpdateOptions}
    {text : String} {key : PackageKey} {g : Finding}
    (hkey : c.Denotes text key) (hemits : c.Emits r o text g) :
    ∃ p, c.packages[g.package]? = some p ∧ g.update.package = c.written p ∧
      c.Precedes key.name key.evr p.evr := by
  obtain ⟨id, ⟨place, ⟨hplace, -⟩, -⟩, f, hcandidate, hupdate⟩ :=
    offer_of_emits h hkey hemits
  obtain ⟨last, hlast, -, hmem⟩ := exists_greatestPlace hplace
  obtain ⟨last', hlast', hle, -⟩ := exists_greatestPlace
    (hindex key.name f.place f.candidate f.package f.stands f.known)
  have hlt := f.behind last hmem
  refine ⟨f.package, ?_, ?_, last, last', hlast, hlast', by omega⟩
  · rw [← hcandidate]
    exact f.known
  · rw [← hupdate]
    rfl

theorem advances_progress {c : Catalog} (h : c.PlacesAscend)
    (hindex : c.IndexComplete) {name : NameId} {evr evr' : EvrId}
    (hstep : c.Advances name evr evr') : c.Precedes name evr evr' := by
  obtain ⟨r, o, text, arch, g, p, hkey, hemits, hp, rfl⟩ := hstep
  obtain ⟨p', hp', -, hprecedes⟩ := emits_progress h hindex hkey hemits
  obtain rfl : p = p' := Option.some.inj (hp.symm.trans hp')
  exact hprecedes

/-- A chain of steps makes progress as a whole. -/
theorem chain_progress {c : Catalog} (h : c.PlacesAscend)
    (hindex : c.IndexComplete) {name : NameId} {evr evr' : EvrId}
    (hchain : Relation.TransGen (c.Advances name) evr evr') :
    c.Precedes name evr evr' := by
  induction hchain with
  | single hstep => exact advances_progress h hindex hstep
  | tail _ hstep ih => exact ih.trans (advances_progress h hindex hstep)

end Catalog

/-- What is listed for a text is what is found for it, in order. What is found
shows a package of a version beyond the installed one, and no chain of updates
comes back to a version it has left. -/
theorem updates_never_return {s : Snapshot} {c : Catalog}
    (hload : Catalog.load s = .ok c) (hindex : c.IndexComplete) :
    (∀ (r : UpdatesRequest) (o : UpdateOptions) (text : String),
      (r.resolve c o).listOf? text = (r.findings? c o text).map fun found =>
        stableSort compare (found.map (·.update))) ∧
    (∀ r o text key g, c.Denotes text key → c.Emits r o text g →
      ∃ p last last', c.packages[g.package]? = some p ∧
        g.update.package = c.written p ∧ p.evr ≠ key.evr ∧
        c.greatestPlace key.name key.evr = some last ∧
        c.greatestPlace key.name p.evr = some last' ∧ last < last') ∧
    ∀ name evr, ¬ Relation.TransGen (c.Advances name) evr evr := by
  have h := Catalog.load_placesAscend hload
  refine ⟨fun r o text => r.listOf?_eq_findings c o text, ?_, ?_⟩
  · intro r o text key g hkey hemits
    obtain ⟨p, hp, hshown, hprecedes⟩ :=
      Catalog.emits_progress h hindex hkey hemits
    have hne : p.evr ≠ key.evr := by
      intro heq
      rw [heq] at hprecedes
      exact Catalog.Precedes.irrefl hprecedes
    obtain ⟨last, last', hlast, hlast', hlt⟩ := hprecedes
    exact ⟨p, last, last', hp, hshown, hne, hlast, hlast', hlt⟩
  · intro name evr hchain
    exact Catalog.Precedes.irrefl (Catalog.chain_progress h hindex hchain)

/-- The index of the snapshot with two builds is complete. -/
theorem kernel_indexComplete :
    (kernelTables.catalog kernelFreshness).IndexComplete := by
  intro name place id p hv hp
  have hmem : (id, p) ∈ kernelTables.packages :=
    Dict.mem_of_getElem?_ofPairs hp
  change (Dict.listAt (.group _) name)[place]? = some id at hv
  change place ∈ Dict.listAt (.group _) (name, p.evr)
  rw [Dict.listAt_group_eq_valuesOf] at hv ⊢
  rw [mem_valuesOf]
  by_cases hname : name = ⟨1⟩
  · subst hname
    have hp' : (id, p) = (⟨10⟩, ⟨⟨1⟩, ⟨1⟩, ⟨1⟩, ⟨0⟩, ⟨0⟩, none⟩) ∨
        (id, p) = (⟨20⟩, ⟨⟨1⟩, ⟨2⟩, ⟨1⟩, ⟨0⟩, ⟨0⟩, none⟩) := by
      simpa [kernelTables] using hmem
    match place, hv with
    | 0, hv =>
        cases hv
        rcases hp' with h | h <;> cases h
        decide
    | 1, hv =>
        cases hv
        rcases hp' with h | h <;> cases h
        decide
  · have hne : ¬ (⟨1⟩ : NameId) = name := fun h => hname h.symm
    simp [valuesOf, kernelTables, hne] at hv

/-- The update that the snapshot with two builds offers. -/
def kernelUpdate : Update :=
  ⟨"kernel-4-2.x86_64", "RHSA-2020:1", "baseos", "", "8"⟩

theorem kernel_findings? :
    kernelRequest.findings? (kernelTables.catalog kernelFreshness)
      ⟨false, true⟩ "kernel-4-1.x86_64" =
        some [⟨⟨20⟩, ⟨100⟩, kernelUpdate⟩] := by
  decide +kernel

theorem kernel_denotes : (kernelTables.catalog kernelFreshness).Denotes
    "kernel-4-1.x86_64" ⟨⟨1⟩, ⟨1⟩, ⟨1⟩⟩ :=
  ⟨⟨"kernel", 0, "4", "1", "x86_64"⟩, rfl, by decide +kernel,
    by decide +kernel, by decide +kernel⟩

/-- The newer build is found for the older one, and it is listed. -/
theorem updates_never_return_kernel :
    Catalog.load kernelSnapshot =
      .ok (kernelTables.catalog kernelFreshness) ∧
    (kernelTables.catalog kernelFreshness).IndexComplete ∧
    (kernelRequest.resolve (kernelTables.catalog kernelFreshness)
      ⟨false, true⟩).listOf? "kernel-4-1.x86_64" = some [kernelUpdate] ∧
    (kernelTables.catalog kernelFreshness).Denotes "kernel-4-1.x86_64"
      ⟨⟨1⟩, ⟨1⟩, ⟨1⟩⟩ ∧
    (kernelTables.catalog kernelFreshness).Emits kernelRequest ⟨false, true⟩
      "kernel-4-1.x86_64" ⟨⟨20⟩, ⟨100⟩, kernelUpdate⟩ ∧
    (∃ p last last', (kernelTables.catalog kernelFreshness).packages[
        (⟨20⟩ : PackageId)]? = some p ∧ kernelUpdate.package =
          (kernelTables.catalog kernelFreshness).written p ∧ p.evr ≠ ⟨1⟩ ∧
      (kernelTables.catalog kernelFreshness).greatestPlace ⟨1⟩ ⟨1⟩ =
        some last ∧
      (kernelTables.catalog kernelFreshness).greatestPlace ⟨1⟩ p.evr =
        some last' ∧ last < last') ∧
    ¬ Relation.TransGen
      ((kernelTables.catalog kernelFreshness).Advances ⟨1⟩) ⟨1⟩ ⟨1⟩ := by
  have hemits : (kernelTables.catalog kernelFreshness).Emits kernelRequest
      ⟨false, true⟩ "kernel-4-1.x86_64" ⟨⟨20⟩, ⟨100⟩, kernelUpdate⟩ :=
    ⟨_, kernel_findings?, List.mem_singleton.2 rfl⟩
  obtain ⟨hlisted, hprogress, hchain⟩ :=
    updates_never_return load_kernelSnapshot kernel_indexComplete
  refine ⟨load_kernelSnapshot, kernel_indexComplete, ?_, kernel_denotes, hemits,
    hprogress _ _ _ _ _ kernel_denotes hemits, hchain _ _⟩
  rw [hlisted, kernel_findings?]
  rfl

end Advisory
