import Mathlib
import CellSearch.Proofs.Engine.Flush

/-!
# Current results

The results of an engine are current if they are those of a scan of the table as it is, with the
live columns (`Engine.Current`). A scan makes them so, and a new engine has to scan
(`Engine.ofConfig_apply`). Both ways to flush are one refresh, of the engine or of the engine with
other descriptors (`Engine.flush_eq`).
-/

namespace CellSearch

/-- The calls that flush. -/
inductive Flush where
  | apply (descriptors : List Descriptor)
  | refresh

variable {R K : Type}

namespace Engine

/-- The engine that is refreshed by a flush. -/
def chosen (e : Engine R K) : Flush → Engine R K
  | .apply descriptors => e.choose descriptors
  | .refresh => e

theorem Coherent.chosen {e : Engine R K} (he : e.Coherent) (f : Flush) : (e.chosen f).Coherent := by
  cases f with
  | apply descriptors => exact he.choose descriptors
  | refresh => exact he

/-- A flush has other descriptors to scan for, or it refreshes the engine as it is. -/
theorem chosen_eq {e : Engine R K} {f : Flush} (h : ¬ (e.chosen f).MustScan) : e.chosen f = e := by
  cases f with
  | apply descriptors =>
    by_cases hsame : e.applied = some descriptors
    · exact if_pos hsame
    · exact absurd (mustScan_choose hsame) h
  | refresh => rfl

theorem retargeted_chosen (e : Engine R K) (f : Flush) : e.Retargeted (e.chosen f) := by
  cases f with
  | apply descriptors => exact retargeted_choose e descriptors
  | refresh => exact .refl e

variable [SearchRow R K]

/-- The engine has the results of a scan of the rows, with the live columns. -/
structure Current (e : Engine R K) (live : List (Column R)) (rows : List R) : Prop where
  bound : ∃ columns, e.columns = some columns ∧
    ColumnSet.bind e.config.missingAccessor live = .ok columns ∧
    e.results = (fullScan (.ofList rows) columns (e.planFor columns)).1
  baseline_eq : e.baseline = rows.length

theorem Scanned.current {e e' : Engine R K} {live : List (Column R)} {rows : List R}
    {columns : ColumnSet R} (h : e.Scanned live (.ofList rows) columns e')
    (hbound : ∀ set, e.columns = some set →
      ColumnSet.bind e.config.missingAccessor live = .ok set) : e'.Current live rows := by
  refine ⟨⟨columns, h.columns_eq, ?_, ?_⟩, h.baseline_eq⟩
  · rw [h.config_eq]
    rcases h.bound with hold | ⟨-, hbind⟩
    · exact hbound columns hold
    · exact hbind
  · rw [h.results_eq, planFor, planFor, h.applied_eq]

/-- An engine without columns scans with the live ones. -/
theorem Scanned.eq_of_bind {e e' : Engine R K} {live : List (Column R)} {source : RowSource R}
    {columns columns' : ColumnSet R} (h : e.Scanned live source columns e')
    (hnone : e.columns = none)
    (hbind : ColumnSet.bind e.config.missingAccessor live = .ok columns') : columns = columns' := by
  rcases h.bound with hold | ⟨-, hbound⟩
  · rw [hnone] at hold
    cases hold
  · rw [hbind] at hbound
    exact (Except.ok.inj hbound).symm

variable [DecidableEq K]

/-- Flush the engine. -/
def flush (e : Engine R K) (f : Flush) (live : List (Column R)) (source : RowSource R) :
    Reply R K Unit :=
  match f with
  | .apply descriptors => e.applyDescriptors descriptors live source
  | .refresh =>
    let reply := e.refresh live source
    ⟨reply.engine, reply.outcome.map fun _ => (), reply.notices⟩

theorem flush_eq (e : Engine R K) (f : Flush) (live : List (Column R)) (source : RowSource R) :
    (e.flush f live source).engine = ((e.chosen f).refresh live source).engine ∧
      (e.flush f live source).outcome =
        ((e.chosen f).refresh live source).outcome.map fun _ => () := by
  cases f with
  | apply descriptors => exact applyDescriptors_eq e descriptors live source
  | refresh => exact ⟨rfl, rfl⟩

/-- A new engine scans. -/
theorem ofConfig_apply {config : EngineConfig} {live : List (Column R)} {columns : ColumnSet R}
    (hbind : ColumnSet.bind config.missingAccessor live = .ok columns)
    (descriptors : List Descriptor) (source : RowSource R) :
    ((ofConfig config).applyDescriptors descriptors live source).outcome = .ok () ∧
      ((ofConfig config).applyDescriptors descriptors live source).engine.results =
        ((fullScan source columns (.build columns (descriptors.map .ofDescriptor))).1 :
          ResultSet K) := by
  obtain ⟨hengine, houtcome⟩ :=
    applyDescriptors_eq (ofConfig config : Engine R K) descriptors live source
  rw [hengine, houtcome]
  set chosen : Engine R K := (ofConfig config).choose descriptors with hchosen
  have hother : (ofConfig config : Engine R K).applied ≠ some descriptors := by simp [ofConfig]
  have happlied : chosen.applied = some descriptors := applied_choose _ _
  have hcoherent : chosen.Coherent := (coherent_ofConfig config).choose descriptors
  have hkept : (ofConfig config).Retargeted chosen := retargeted_choose _ descriptors
  have hconfig : chosen.config = config := hkept.config_eq
  rcases (refresh_cases hcoherent live source).of_mustScan (mustScan_choose hother)
    (by simp [happlied]) with ⟨set, reason, hscanned, hok⟩ | ⟨err, hunbound, -⟩
  · obtain rfl := hscanned.eq_of_bind hkept.columns_eq (hconfig ▸ hbind)
    refine ⟨by rw [hok]; rfl, ?_⟩
    rw [hscanned.results_eq, planFor, happlied, Option.getD_some]
  · have herr := hunbound.bind_eq
    rw [hconfig, hbind] at herr
    cases herr

end Engine

end CellSearch
