import Mathlib.Data.List.Forall2
import Advisory.Proofs.Delivery

/-!
# Tables that store the same are read alike

A table may be stored with its rows and its columns in any order and with
columns that nobody reads. What a row means is found by the names of the
columns, so the order of columns and what else is stored next to them leave
no trace in it; the order of rows leaves none in which rows are read and in
whether all of them can be.

`Table.Alike` says that two tables store the same, and `Tables.read_alike`
that two snapshots of such tables either cannot be read for the same reason
or hold the same rows. The order of delivery is not yet fixed by that, since
rows that tie are delivered as they are stored; `Rearrangement.lean` is about
the ties.
-/

namespace Advisory

/-! ## Tables that store the same -/

/-- Names that are the same but for the case of letters. -/
theorem sameColumn_iff {a b : String} : sameColumn a b = true ↔
    a.toList.map Char.toLower = b.toList.map Char.toLower :=
  decide_eq_true_iff

namespace Table

/-- Whether a column is one of those with some names. -/
def isNamed (names : List String) (column : String) : Bool :=
  names.any (sameColumn · column)

/-- The cells of a row that stand in columns with some names, each with the
name of its column. -/
def namedCells (names : List String) (t : Table) (row : List Cell) :
    List (String × Cell) :=
  (t.columns.zip row).filter fun cell => isNamed names cell.1

/-- Two tables store the same in the columns with some names: they differ at
most by the order of rows, by the order of columns and by other columns. -/
structure Alike (names : List String) (t t' : Table) : Prop where
  /-- No two columns have one name, so none hides another. -/
  distinct : t.columns.Pairwise fun a b => sameColumn a b = false
  columns : (t.columns.filter (isNamed names)).Perm
    (t'.columns.filter (isNamed names))
  /-- The rows are the same up to their order, and in each the cells have
  moved with their columns. -/
  rows : ∃ order, t.rows.Perm order ∧ List.Forall₂ (fun row row' =>
    (t.namedCells names row).Perm (t'.namedCells names row')) order t'.rows

variable {names : List String} {t t' : Table}

theorem isNamed_of_sameColumn {name column : String} (hname : name ∈ names)
    (h : sameColumn name column = true) : isNamed names column = true :=
  List.any_eq_true.2 ⟨name, hname, h⟩

theorem Alike.hasColumn_eq (h : Alike names t t') {name : String}
    (hname : name ∈ names) : t.hasColumn name = t'.hasColumn name := by
  have hnamed : ∀ columns : List String, columns.any (sameColumn name) =
      (columns.filter (isNamed names)).any (sameColumn name) := by
    intro columns
    rw [List.any_filter]
    refine congrArg columns.any (funext fun column => ?_)
    cases hsame : sameColumn name column with
    | false => rw [Bool.and_false]
    | true => rw [isNamed_of_sameColumn hname hsame]; rfl
  rw [hasColumn, hasColumn, hnamed, hnamed t'.columns, h.columns.any_eq]

/-! ## Looking up a cell -/

/-- Where at most one element is looked for, their order does not matter. -/
theorem find?_perm {α : Type} {xs ys : List α} (h : xs.Perm ys)
    {q : α → Bool} (hone : xs.Pairwise fun x y => q x = true → q y = false) :
    xs.find? q = ys.find? q := by
  rw [← List.head?_filter, ← List.head?_filter]
  have hperm := h.filter q
  have hfound := hone.filter q
  have hq : ∀ x ∈ xs.filter q, q x = true :=
    fun x hx => (List.mem_filter.1 hx).2
  match hxs : xs.filter q, hperm, hfound, hq with
  | [], hperm, _, _ => rw [List.nil_perm.1 hperm]
  | [x], hperm, _, _ => rw [List.singleton_perm.1 hperm]
  | x :: y :: rest, _, hfound, hq =>
      have hy := (List.pairwise_cons.1 hfound).1 y List.mem_cons_self
        (hq x List.mem_cons_self)
      rw [hq y (List.mem_cons_of_mem x List.mem_cons_self)] at hy
      cases hy

theorem pairwise_zip {columns : List String} {row : List Cell}
    (h : columns.Pairwise fun a b => sameColumn a b = false) :
    (columns.zip row).Pairwise fun a b => sameColumn a.1 b.1 = false := by
  induction columns generalizing row with
  | nil => exact List.Pairwise.nil
  | cons column columns ih =>
      cases row with
      | nil => exact List.Pairwise.nil
      | cons cell row =>
          obtain ⟨hcolumn, hcolumns⟩ := List.pairwise_cons.1 h
          exact List.pairwise_cons.2
            ⟨fun b hb => hcolumn b.1 (List.of_mem_zip hb).1, ih hcolumns⟩

/-- Only cells in columns with a name are found under it. -/
theorem cell?_eq_namedCells {name : String} (hname : name ∈ names)
    (t : Table) (row : List Cell) : t.cell? row name =
      ((t.namedCells names row).find? fun c => sameColumn name c.1).map
        (·.2) := by
  have hnamed : (fun c : String × Cell => decide (isNamed names c.1 = true ∧
      sameColumn name c.1 = true)) = fun c => sameColumn name c.1 := by
    funext c
    cases hsame : sameColumn name c.1 with
    | false => rw [decide_eq_false fun h => Bool.false_ne_true h.2]
    | true => exact decide_eq_true ⟨isNamed_of_sameColumn hname hsame, rfl⟩
  rw [cell?, namedCells, List.find?_filter, hnamed]

theorem Alike.cell?_eq (h : Alike names t t') {row row' : List Cell}
    (hrow : (t.namedCells names row).Perm (t'.namedCells names row'))
    {name : String} (hname : name ∈ names) :
    t.cell? row name = t'.cell? row' name := by
  rw [cell?_eq_namedCells hname, cell?_eq_namedCells hname,
    find?_perm hrow]
  refine ((pairwise_zip h.distinct).filter _).imp fun {a b} hab ha => ?_
  rw [← Bool.not_eq_true, sameColumn_iff] at hab ⊢
  rw [sameColumn_iff] at ha
  exact fun hb => hab (ha.symm.trans hb)

end Table

/-! ## Decoding a table -/

theorem Row.decode_congr {f g : String → Option Cell} {columns : List Column}
    (h : ∀ column ∈ columns, f column.name = g column.name) :
    Row.decode f columns = Row.decode g columns := by
  induction columns with
  | nil => rfl
  | cons column columns ih =>
      rw [Row.decode, Row.decode, h column List.mem_cons_self,
        ih fun c hc => h c (List.mem_cons_of_mem column hc)]

/-- Whether all elements have a meaning, and which, does not depend on their
order. -/
theorem mapM_perm {α β : Type} {f : α → Option β} {xs ys : List α}
    (h : xs.Perm ys) : Option.Rel List.Perm (xs.mapM f) (ys.mapM f) := by
  induction h with
  | nil => exact .some .nil
  | @cons x xs ys _ ih =>
      rw [List.mapM_cons, List.mapM_cons]
      -- What the two runs yield is all that counts from here on.
      generalize xs.mapM f = a, ys.mapM f = b at ih
      cases f x with
      | none => exact .none
      | some y =>
          cases ih with
          | none => exact .none
          | some h => exact .some (h.cons y)
  | swap x y xs =>
      simp only [List.mapM_cons]
      cases f x with
      | none => cases f y <;> exact .none
      | some x' =>
          cases f y with
          | none => exact .none
          | some y' =>
              cases xs.mapM f with
              | none => exact .none
              | some xs' => exact .some (.swap x' y' xs')
  | @trans xs ys zs _ _ ih ih' =>
      generalize xs.mapM f = a, ys.mapM f = b, zs.mapM f = c at ih ih'
      cases ih with
      | none => exact ih'
      | some h =>
          cases ih' with
          | some h' => exact .some (h.trans h')

namespace Layout

variable {ρ : Type} {l : Layout ρ} {s s' : Snapshot} {t t' : Table}

theorem decodeRow_alike (h : t.Alike l.columnNames t') {row row' : List Cell}
    (hrow : (t.namedCells l.columnNames row).Perm
      (t'.namedCells l.columnNames row')) :
    l.decodeRow t row = l.decodeRow t' row' :=
  congrArg (Option.map l.build) (Row.decode_congr fun _ hc =>
    h.cell?_eq hrow (List.mem_map_of_mem hc))

theorem decode_rows_alike (h : t.Alike l.columnNames t') :
    Option.Rel List.Perm (t.rows.mapM (l.decodeRow t))
      (t'.rows.mapM (l.decodeRow t')) := by
  obtain ⟨order, hperm, hrows⟩ := h.rows
  have hmap : order.map (l.decodeRow t) = t'.rows.map (l.decodeRow t') := by
    rw [← List.forall₂_eq_eq_eq, List.forall₂_map_left_iff,
      List.forall₂_map_right_iff]
    exact hrows.imp fun _ _ => decodeRow_alike h
  have hmapM : order.mapM (l.decodeRow t) = t'.rows.mapM (l.decodeRow t') :=
    Option.ext fun _ => by rw [mapM_eq_some_iff, mapM_eq_some_iff, hmap]
  rw [← hmapM]
  exact mapM_perm hperm

theorem decode_alike
    (h : Option.Rel (Table.Alike l.columnNames) (l.table? s) (l.table? s'))
    (horder : ∀ name ∈ l.order, name ∈ l.columnNames) :
    Option.Rel List.Perm (l.decode s) (l.decode s') := by
  rw [decode, decode]
  generalize l.table? s = a, l.table? s' = b at h
  cases h with
  | none => exact .none
  | @some t t' h =>
      have hall : l.order.all t.hasColumn = l.order.all t'.hasColumn := by
        rw [Bool.eq_iff_iff, List.all_eq_true, List.all_eq_true]
        exact forall₂_congr fun name hname => by
          rw [h.hasColumn_eq (horder name hname)]
      show Option.Rel List.Perm
        (guard (l.order.all t.hasColumn) >>= fun _ =>
          t.rows.mapM (l.decodeRow t))
        (guard (l.order.all t'.hasColumn) >>= fun _ =>
          t'.rows.mapM (l.decodeRow t'))
      rw [hall]
      cases l.order.all t'.hasColumn with
      | false => exact .none
      | true => exact decode_rows_alike h

end Layout

/-! ## Reading all tables -/

/-- Two results are the same error, or values that are related. -/
inductive ResultRel {ε α β : Type} (r : α → β → Prop) :
    Except ε α → Except ε β → Prop
  | error (e : ε) : ResultRel r (.error e) (.error e)
  | ok {a : α} {b : β} (h : r a b) : ResultRel r (.ok a) (.ok b)

theorem ResultRel.bind {ε α β γ δ : Type} {r : α → β → Prop}
    {q : γ → δ → Prop} {x : Except ε α} {y : Except ε β}
    {f : α → Except ε γ} {g : β → Except ε δ} (h : ResultRel r x y)
    (hfg : ∀ a b, r a b → ResultRel q (f a) (g b)) :
    ResultRel q (x >>= f) (y >>= g) := by
  cases h with
  | error e => exact .error e
  | ok h => exact hfg _ _ h

theorem ResultRel.bind_eq {ε α β γ : Type} {r : α → β → Prop}
    {x : Except ε α} {y : Except ε β} {f : α → Except ε γ}
    {g : β → Except ε γ} (h : ResultRel r x y)
    (hfg : ∀ a b, x = .ok a → y = .ok b → r a b → f a = g b) :
    (x >>= f) = (y >>= g) := by
  cases h with
  | error e => rfl
  | ok h => exact hfg _ _ rfl rfl h

namespace Snapshot

/-- The table that a snapshot stores under a name, which is empty with the
usual columns if nothing is said about it. -/
def stored? (s : Snapshot) (name : String) (columns : List String) :
    Option Table :=
  match s.tables.find? (·.1 = name) with
  | some (_, t) => t
  | none => some ⟨columns, []⟩

/-- Two snapshots store the same: the same tables exist, and each stores the
same in the columns that are read. -/
def StoredAlike (s s' : Snapshot) : Prop :=
  ∀ name columns, (name, columns) ∈ standardColumns →
    Option.Rel (Table.Alike columns) (s.stored? name columns)
      (s'.stored? name columns)

variable {s s' : Snapshot}

theorem StoredAlike.read {ρ : Type} {l : Layout ρ} (h : s.StoredAlike s')
    (hl : (l.table, l.columnNames) ∈ standardColumns)
    (horder : ∀ name ∈ l.order, name ∈ l.columnNames) :
    ResultRel List.Perm (l.read s) (l.read s') := by
  have hdecode := Layout.decode_alike (h _ _ hl) horder
  rw [Layout.read, Layout.read]
  generalize l.decode s = a, l.decode s' = b at hdecode
  cases hdecode with
  | none => exact .error _
  | @some rows rows' hperm =>
      exact .ok ((stableSort_perm l.compare rows).trans
        (hperm.trans (stableSort_perm l.compare rows').symm))

end Snapshot

namespace Tables

/-- Tables that hold the same rows in any order. -/
structure Permuted (t t' : Tables) : Prop where
  names : t.names.Perm t'.names
  evrs : t.evrs.Perm t'.evrs
  arches : t.arches.Perm t'.arches
  archCompat : t.archCompat.Perm t'.archCompat
  texts : t.texts.Perm t'.texts
  packages : t.packages.Perm t'.packages
  updates : t.updates.Perm t'.updates
  index : t.index.Perm t'.index
  repositories : t.repositories.Perm t'.repositories
  packageRepositories : t.packageRepositories.Perm t'.packageRepositories
  packageErrata : t.packageErrata.Perm t'.packageErrata
  erratumRepositories : t.erratumRepositories.Perm t'.erratumRepositories
  erratumCves : t.erratumCves.Perm t'.erratumCves
  erratumBugzillas : t.erratumBugzillas.Perm t'.erratumBugzillas
  erratumReferences : t.erratumReferences.Perm t'.erratumReferences
  erratumModules : t.erratumModules.Perm t'.erratumModules
  modular : t.modular.Perm t'.modular
  errata : t.errata.Perm t'.errata
  cveWeaknesses : t.cveWeaknesses.Perm t'.cveWeaknesses
  cvePackages : t.cvePackages.Perm t'.cvePackages
  cves : t.cves.Perm t'.cves
  streams : t.streams.Perm t'.streams
  freshness : t.freshness.Perm t'.freshness

variable {s s' : Snapshot} {t t' : Tables}

/-- Snapshots that store the same are read alike, table by table. -/
theorem read_alike (h : s.StoredAlike s') :
    ResultRel Permuted (Tables.read s) (Tables.read s') := by
  rw [Tables.read, Tables.read]
  refine (h.read (by decide) (by decide)).bind fun _ _ names => ?_
  refine (h.read (by decide) (by decide)).bind fun _ _ evrs => ?_
  refine (h.read (by decide) (by decide)).bind fun _ _ arches => ?_
  refine (h.read (by decide) (by decide)).bind fun _ _ archCompat => ?_
  refine (h.read (by decide) (by decide)).bind fun _ _ texts => ?_
  refine (h.read (by decide) (by decide)).bind fun _ _ packages => ?_
  refine (h.read (by decide) (by decide)).bind fun _ _ updates => ?_
  refine (h.read (by decide) (by decide)).bind fun _ _ index => ?_
  refine (h.read (by decide) (by decide)).bind fun _ _ repositories => ?_
  refine (h.read (by decide) (by decide)).bind fun _ _ packageRepositories => ?_
  refine (h.read (by decide) (by decide)).bind fun _ _ packageErrata => ?_
  refine (h.read (by decide) (by decide)).bind fun _ _ erratumRepositories => ?_
  refine (h.read (by decide) (by decide)).bind fun _ _ erratumCves => ?_
  refine (h.read (by decide) (by decide)).bind fun _ _ erratumBugzillas => ?_
  refine (h.read (by decide) (by decide)).bind fun _ _ erratumReferences => ?_
  refine (h.read (by decide) (by decide)).bind fun _ _ erratumModules => ?_
  refine (h.read (by decide) (by decide)).bind fun _ _ modular => ?_
  refine (h.read (by decide) (by decide)).bind fun _ _ errata => ?_
  refine (h.read (by decide) (by decide)).bind fun _ _ cveWeaknesses => ?_
  refine (h.read (by decide) (by decide)).bind fun _ _ cvePackages => ?_
  refine (h.read (by decide) (by decide)).bind fun _ _ cves => ?_
  refine (h.read (by decide) (by decide)).bind fun _ _ streams => ?_
  refine (h.read (by decide) (by decide)).bind fun _ _ freshness => ?_
  exact .ok ⟨names, evrs, arches, archCompat, texts, packages, updates, index,
    repositories, packageRepositories, packageErrata, erratumRepositories,
    erratumCves, erratumBugzillas, erratumReferences, erratumModules,
    modular, errata, cveWeaknesses, cvePackages, cves, streams, freshness⟩

end Tables

end Advisory
