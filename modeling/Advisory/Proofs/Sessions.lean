import Advisory.Proofs.Placement
import Advisory.Service.Session

/-!
# Sessions answer from the last snapshot that loaded

Three kinds of step publish a catalogue, and each of them may fail. They
differ in what they touch on the way: a refresh takes a lock, one in the
background raises a flag before that, and an error ends either of them early.
Nothing of it may be left behind, neither after a success nor after a failure.

So a service between two steps is idle, and on idle services all steps are
alike: `after_of_idle` says that a step replaces the catalogue by the one that
it loads and changes nothing if it loads none. By induction a run leaves the
last catalogue that was loaded and nothing else, which is what a service would
hold that had been started with this catalogue.
-/

namespace Advisory

/-- The catalogue that a step loads, if there is a snapshot and it can be
loaded. -/
def Step.loaded? : Step → Option Catalog
  | load snapshot => (Catalog.load snapshot).toOption
  | refresh source => source.load.toOption
  | backgroundRefresh source => source.load.toOption
  | handle _ => none

/-- Of some steps the last one that loads a catalogue loads this one. -/
def LastLoaded (steps : List Step) (c : Catalog) : Prop :=
  ∃ earlier step later, steps = earlier ++ step :: later ∧
    step.loaded? = some c ∧ ∀ x ∈ later, x.loaded? = none

/-- None of some steps loads a catalogue. -/
def NoneLoaded (steps : List Step) : Prop := ∀ x ∈ steps, x.loaded? = none

namespace Service

/-- Nothing is under way. -/
structure Idle (s : Service) : Prop where
  unlocked : s.locked = false
  settled : s.refreshing = false

theorem initial_idle : initial.Idle := ⟨rfl, rfl⟩

/-- The service with a catalogue, if there is one, in the place of its own. -/
def replace (s : Service) (c? : Option Catalog) : Service :=
  { s with current := c?.or s.current }

theorem Idle.replace {s : Service} (h : s.Idle) (c? : Option Catalog) :
    (s.replace c?).Idle :=
  ⟨h.unlocked, h.settled⟩

/-! ## One step -/

theorem afterLoading_eq_replace (s : Service)
    (outcome : Except LoadError Catalog) :
    s.afterLoading outcome = s.replace outcome.toOption := by
  cases outcome with
  | error e => rfl
  | ok c => rfl

/-- A refresh gives back the lock that it has taken. -/
theorem refresh_of_unlocked {s : Service} (h : s.locked = false)
    (source : Source) :
    s.refresh source = s.replace source.load.toOption := by
  rw [refresh, afterLoading_eq_replace]
  obtain ⟨current, locked, refreshing⟩ := s
  subst h
  rfl

/-- A refresh in the background lowers the flag that it has raised. -/
theorem backgroundRefresh_of_idle {s : Service} (h : s.Idle)
    (source : Source) :
    s.backgroundRefresh source = s.replace source.load.toOption := by
  obtain ⟨hunlocked, hsettled⟩ := h
  have hbegin : s.beginRefresh = some { s with refreshing := true } := by
    rw [beginRefresh, hsettled]
    rfl
  rw [backgroundRefresh, hbegin]
  show endRefresh { s with refreshing := true } source = _
  rw [endRefresh,
    refresh_of_unlocked (s := { s with refreshing := true }) hunlocked]
  obtain ⟨current, locked, refreshing⟩ := s
  subst hsettled
  rfl

/-- A step of an idle service replaces the catalogue by the one that it
loads. -/
theorem after_of_idle {s : Service} (h : s.Idle) (x : Step) :
    s.after x = s.replace x.loaded? := by
  cases x with
  | load snapshot => exact s.afterLoading_eq_replace _
  | refresh source => exact refresh_of_unlocked h.unlocked source
  | backgroundRefresh source => exact backgroundRefresh_of_idle h source
  | handle line => rfl

/-! ## Whole runs -/

theorem replace_replace (s : Service) (c? d? : Option Catalog) :
    (s.replace c?).replace d? = s.replace (d?.or c?) := by
  rw [replace, replace, replace, Option.or_assoc]

/-- A run of an idle service replaces the catalogue by the last one that is
loaded. -/
theorem run_of_idle {s : Service} (h : s.Idle) (steps : List Step) :
    s.run steps = s.replace (steps.filterMap Step.loaded?).getLast? := by
  induction steps generalizing s with
  | nil => rfl
  | cons x steps ih =>
      rw [run, List.foldl_cons, after_of_idle h]
      refine (ih (h.replace _)).trans ?_
      rw [replace_replace, List.filterMap_cons]
      cases x.loaded? with
      | none => rw [Option.or_none]
      | some c =>
          rw [List.getLast?_cons]
          cases (steps.filterMap Step.loaded?).getLast? with
          | none => rfl
          | some d => rfl

end Service

theorem lastLoaded_iff {steps : List Step} {c : Catalog} :
    LastLoaded steps c ↔
      (steps.filterMap Step.loaded?).getLast? = some c := by
  rw [List.getLast?_filterMap, List.findSome?_eq_some_iff]
  constructor
  · intro h
    obtain ⟨earlier, x, later, rfl, hx, hlater⟩ := h
    refine ⟨later.reverse, x, earlier.reverse, by simp, hx, fun y hy => ?_⟩
    exact hlater y (List.mem_reverse.1 hy)
  · intro h
    obtain ⟨later, x, earlier, hsplit, hx, hlater⟩ := h
    refine ⟨earlier.reverse, x, later.reverse, ?_, hx, fun y hy => ?_⟩
    · rw [← List.reverse_reverse steps, hsplit]
      simp
    · exact hlater y (List.mem_reverse.1 hy)

theorem noneLoaded_iff {steps : List Step} :
    NoneLoaded steps ↔
      (steps.filterMap Step.loaded?).getLast? = none := by
  rw [List.getLast?_eq_none_iff, List.filterMap_eq_nil_iff, NoneLoaded]

/-- After any steps a service holds the catalogue that was loaded last, and
none if none was. A step that loads nothing changes nothing. Nothing is left
under way: a refresh in the background can begin, and only while it is under
way no other can. Every request line is answered as by a service that was
started with that catalogue. -/
theorem sessions_hold_last_loaded (steps : List Step) :
    (∀ c, (Service.initial.run steps).current = some c ↔
      LastLoaded steps c) ∧
    ((Service.initial.run steps).current = none ↔ NoneLoaded steps) ∧
    (∀ x : Step, x.loaded? = none →
      Service.initial.run (steps ++ [x]) = Service.initial.run steps) ∧
    (Service.initial.run steps).isLoading = false ∧
    (∃ begun, (Service.initial.run steps).beginRefresh = some begun ∧
      begun.isLoading = true ∧ begun.beginRefresh = none) ∧
    ∀ line,
      (∀ c, LastLoaded steps c → (Service.initial.run steps).reply line =
        (Service.initial.publish c).reply line) ∧
      (NoneLoaded steps → (Service.initial.run steps).reply line =
        Service.initial.reply line) := by
  have hrun := Service.run_of_idle Service.initial_idle steps
  have hcurrent : (Service.initial.run steps).current =
      (steps.filterMap Step.loaded?).getLast? := by
    rw [hrun]
    exact Option.or_none
  refine ⟨fun c => by rw [hcurrent, lastLoaded_iff],
    by rw [hcurrent, noneLoaded_iff], fun x hx => ?_, by rw [hrun]; rfl,
    by rw [hrun]; exact ⟨_, rfl, rfl, rfl⟩,
    fun line => ⟨fun c hc => ?_, fun hnone => ?_⟩⟩
  · rw [hrun, Service.run_of_idle Service.initial_idle, List.filterMap_append,
      List.filterMap_cons, hx, List.filterMap_nil, List.append_nil]
  · rw [hrun, lastLoaded_iff.1 hc]
    rfl
  · rw [hrun, noneLoaded_iff.1 hnone]
    rfl

/-- A refresh from a file that does not exist and a request leave the
catalogue that was loaded before them. -/
theorem sessions_hold_last_loaded_kernel :
    LastLoaded [.load kernelSnapshot, .refresh none, .handle ""]
      (kernelTables.catalog kernelFreshness) ∧
    (Service.initial.run
      [.load kernelSnapshot, .refresh none, .handle ""]).current =
        some (kernelTables.catalog kernelFreshness) := by
  have hlast : LastLoaded [.load kernelSnapshot, .refresh none, .handle ""]
      (kernelTables.catalog kernelFreshness) := by
    refine ⟨[], .load kernelSnapshot, [.refresh none, .handle ""], rfl,
      ?_, ?_⟩
    · rw [Step.loaded?, load_kernelSnapshot]
      rfl
    · simp [Step.loaded?, Source.load, Except.toOption]
  exact ⟨hlast, ((sessions_hold_last_loaded
    [.load kernelSnapshot, .refresh none, .handle ""]).1 _).2 hlast⟩

end Advisory
