import CiaoDatastore.RowStore
import Mathlib.Data.List.Chain

/-! Tenant usage histories. `updateTenantUsage` appends an entry stamped with the clock once
`tenantUsagePeriod` has passed since the last one, and otherwise folds the delta into the last
entry under its old stamp; so a history built at non-decreasing clock readings is spaced by at
least the period. `GetTenantUsage` counts the entries before `start` and before `end` and
returns the slice between the two counts: on a sorted history and `start ≤ end` that is exactly
the window `[start, end)`, but for `start > end` inside the history the slice bounds are out of
order and the call panics. -/
namespace CiaoDatastore
namespace Datastore

/-- The histories a sequence of `updateTenantUsage` calls builds, each call a usage delta, a
tenant and the clock reading it is made at. -/
def usageRun (usage : GoMap String (List CiaoUsage)) : List (CiaoUsage × String × Int) →
    GoMap String (List CiaoUsage)
  | [] => usage
  | (delta,tenantID,now) :: rest => usageRun (updateTenantUsage usage delta tenantID now) rest

/-- A history whose entries are stamped at least `tenantUsagePeriod` apart, in order. -/
def Spaced (history : List CiaoUsage) : Prop :=
  history.Pairwise fun u v => u.timestamp + tenantUsagePeriod ≤ v.timestamp

/-- Every history of the map is spaced and stamped no later than `clock`. -/
def UsageClock (usage : GoMap String (List CiaoUsage)) (clock : Int) : Prop :=
  ∀ tenantID history, usage.get tenantID = some history →
    Spaced history ∧ ∀ u ∈ history, u.timestamp ≤ clock

private theorem tenantUsagePeriod_pos : 0 < tenantUsagePeriod := by decide

theorem Spaced.sorted {history : List CiaoUsage} (spaced : Spaced history) :
    history.Pairwise fun u v => u.timestamp ≤ v.timestamp :=
  spaced.imp fun apart => by have := tenantUsagePeriod_pos; omega

private theorem Spaced.le_last {history : List CiaoUsage} (spaced : Spaced history) (nonempty : history ≠ [])
    {u : CiaoUsage} (mem : u ∈ history) : u.timestamp ≤ (history.getLast nonempty).timestamp := by
  rw [← List.dropLast_append_getLast nonempty] at spaced mem
  rcases List.mem_append.mp mem with earlier | last
  · have := List.pairwise_append.mp spaced.sorted
    exact this.2.2 u earlier _ (List.mem_singleton_self _)
  · rw [List.mem_singleton.mp last]

private theorem Spaced.replace_last {history : List CiaoUsage} (spaced : Spaced history) (nonempty : history ≠ [])
    {u : CiaoUsage} (stamp : u.timestamp = (history.getLast nonempty).timestamp) :
    Spaced (history.dropLast ++ [u]) := by
  have stamps : (history.dropLast ++ [u]).map CiaoUsage.timestamp = history.map CiaoUsage.timestamp := by
    conv_rhs => rw [← List.dropLast_append_getLast nonempty]
    simp [stamp]
  unfold Spaced at spaced ⊢
  rw [← List.pairwise_map (R := fun a b => a + tenantUsagePeriod ≤ b)] at spaced ⊢
  rwa [stamps]

theorem UsageClock.insert {usage : GoMap String (List CiaoUsage)} {clock : Int} (inv : UsageClock usage clock)
    {tenantID : String} {history : List CiaoUsage} (spaced : Spaced history)
    (stamped : ∀ u ∈ history, u.timestamp ≤ clock) : UsageClock (usage.insert tenantID history) clock := by
  intro k h got
  simp only [GoMap.get_insert] at got
  split at got
  · cases got; exact ⟨spaced,stamped⟩
  · exact inv k h got

theorem UsageClock.update {usage : GoMap String (List CiaoUsage)} {clock now : Int}
    (inv : UsageClock usage clock) (later : clock ≤ now) (delta : CiaoUsage) (tenantID : String) :
    UsageClock (updateTenantUsage usage delta tenantID now) now := by
  have older : UsageClock usage now :=
    fun k h got => ⟨(inv k h got).1,fun u mem => ((inv k h got).2 u mem).trans later⟩
  obtain ⟨spaced,stamped⟩ : Spaced ((usage.get tenantID).getD []) ∧
      ∀ u ∈ (usage.get tenantID).getD [], u.timestamp ≤ now := by
    cases got : usage.get tenantID with
    | none => exact ⟨List.Pairwise.nil,fun _ mem => nomatch mem⟩
    | some h => exact older _ _ got
  unfold updateTenantUsage
  split
  · exact older
  · generalize (usage.get tenantID).getD [] = h at spaced stamped
    dsimp only
    split
    · rename_i fresh
      refine older.insert (List.pairwise_append.mpr ⟨spaced,List.pairwise_singleton _ _,?_⟩) fun u mem => ?_
      · intro u mem v new
        rw [List.mem_singleton.mp new]
        have nonempty : h ≠ [] := List.ne_nil_of_mem mem
        simp only [nonempty,false_or,List.getLastD_eq_getLast?,List.getLast?_eq_getLast h nonempty,
          Option.getD_some] at fresh
        have := spaced.le_last nonempty mem
        show _ ≤ now
        omega
      · rcases List.mem_append.mp mem with old | new
        · exact stamped u old
        · simp [List.mem_singleton.mp new]
    · rename_i kept
      have nonempty : h ≠ [] := fun empty => kept (.inl empty)
      refine older.insert (spaced.replace_last nonempty ?_) fun u mem => ?_
      · simp [List.getLastD_eq_getLast?,List.getLast?_eq_getLast h nonempty]
      · rcases List.mem_append.mp mem with old | new
        · exact stamped u (List.dropLast_subset h old)
        · rw [List.mem_singleton.mp new]
          simp only [List.getLastD_eq_getLast?,List.getLast?_eq_getLast h nonempty,Option.getD_some]
          exact stamped _ (List.getLast_mem nonempty)

/-- A run of `updateTenantUsage` calls at non-decreasing clock readings keeps every history
spaced. -/
theorem UsageClock.run {usage : GoMap String (List CiaoUsage)} {clock : Int} (inv : UsageClock usage clock)
    (updates : List (CiaoUsage × String × Int)) (times : (clock :: updates.map (·.2.2)).Chain' (· ≤ ·)) :
    ∃ clock', UsageClock (usageRun usage updates) clock' := by
  induction updates generalizing usage clock with
  | nil => exact ⟨clock,inv⟩
  | cons update updates ih =>
    obtain ⟨delta,tenantID,now⟩ := update
    obtain ⟨later,times⟩ := List.chain'_cons.mp times
    exact ih (inv.update later delta tenantID) times

private theorem window_eq_filter {history : List CiaoUsage}
    (sorted : history.Pairwise fun u v => u.timestamp ≤ v.timestamp) {start stop : Int} (window : start ≤ stop) :
    (history.take (history.countP (·.timestamp < stop))).drop (history.countP (·.timestamp < start)) =
      history.filter fun u => start ≤ u.timestamp ∧ u.timestamp < stop := by
  induction history with
  | nil => simp
  | cons u rest ih =>
    obtain ⟨later,sorted⟩ := List.pairwise_cons.mp sorted
    by_cases before : u.timestamp < start
    · simp [List.countP_cons,before,show u.timestamp < stop by omega,ih sorted]
    · have none : rest.countP (·.timestamp < start) = 0 :=
        List.countP_eq_zero.mpr fun v mem => by have := later v mem; simp; omega
      by_cases inside : u.timestamp < stop
      · have ih := ih sorted
        rw [none,List.drop_zero] at ih
        simp [List.countP_cons,before,inside,none,ih,not_lt.mp before]
      · have past : rest.countP (·.timestamp < stop) = 0 :=
          List.countP_eq_zero.mpr fun v mem => by have := later v mem; simp; omega
        simp [List.countP_cons,before,inside,none,past]
        intro v mem _
        have := later v mem
        omega

/-- `GetTenantUsage` on a sorted history with `start ≤ stop` returns the window. -/
private theorem getTenantUsage_window (c : Cache) (tenantID : String) {start stop : Int} (window : start ≤ stop)
    (sorted : ((c.tenantUsage.get tenantID).getD []).Pairwise fun u v => u.timestamp ≤ v.timestamp) :
    getTenantUsage c tenantID start stop = some (((c.tenantUsage.get tenantID).getD []).filter
      fun u => start ≤ u.timestamp ∧ u.timestamp < stop) := by
  unfold getTenantUsage
  generalize (c.tenantUsage.get tenantID).getD [] = history at sorted ⊢
  cases history with
  | nil => rfl
  | cons first rest =>
    have nonempty : first :: rest ≠ [] := List.cons_ne_nil _ _
    have low : ∀ v ∈ first :: rest, first.timestamp ≤ v.timestamp := by
      intro v mem
      rcases List.mem_cons.mp mem with rfl | later
      · exact le_rfl
      · exact (List.pairwise_cons.mp sorted).1 v later
    have high : ∀ v ∈ first :: rest, v.timestamp ≤ ((first :: rest).getLast nonempty).timestamp := by
      intro v mem
      rw [← List.dropLast_append_getLast nonempty] at sorted mem
      rcases List.mem_append.mp mem with earlier | last
      · exact (List.pairwise_append.mp sorted).2.2 v earlier _ (List.mem_singleton_self _)
      · rw [List.mem_singleton.mp last]
    simp only [List.head?_cons,List.getLast?_eq_getLast _ nonempty]
    split
    · rename_i outside
      refine congrArg some (List.filter_eq_nil_iff.mpr fun v mem => ?_).symm
      have := low v mem; have := high v mem
      simp only [decide_eq_true_eq]; omega
    · rw [if_pos (List.countP_mono_left fun v _ below => by simp at below ⊢; omega),
        window_eq_filter sorted window]

/-- For every history a run of `updateTenantUsage` calls at non-decreasing clock readings
builds, consecutive entries are at least `tenantUsagePeriod` apart, and `GetTenantUsage` with
`start ≤ end` returns exactly the entries stamped in `[start, end)`, in history order. -/
theorem usage_window_exact (updates : List (CiaoUsage × String × Int))
    (times : (updates.map (·.2.2)).Chain' (· ≤ ·)) (c : Cache) (built : c.tenantUsage = usageRun .empty updates)
    (tenantID : String) {start stop : Int} (window : start ≤ stop) :
    ((c.tenantUsage.get tenantID).getD []).Chain' (fun u v => u.timestamp + tenantUsagePeriod ≤ v.timestamp) ∧
      getTenantUsage c tenantID start stop = some (((c.tenantUsage.get tenantID).getD []).filter
        fun u => start ≤ u.timestamp ∧ u.timestamp < stop) := by
  have spaced : Spaced ((c.tenantUsage.get tenantID).getD []) := by
    obtain ⟨clock,inv⟩ : ∃ clock, UsageClock (usageRun .empty updates) clock := by
      cases updates with
      | nil => exact ⟨0,fun _ _ got => by simp [usageRun] at got⟩
      | cons update updates =>
        exact UsageClock.run (show UsageClock .empty update.2.2 from fun _ _ got => by simp at got) _
          (List.chain'_cons.mpr ⟨le_rfl,times⟩)
    rw [built]
    cases got : (usageRun .empty updates).get tenantID with
    | none => exact List.Pairwise.nil
    | some history => exact (inv tenantID history got).1
  exact ⟨spaced.chain',getTenantUsage_window c tenantID window spaced.sorted⟩

/-- Two calls a period apart, the window `[0, 1)` over their history. -/
def twoUsageUpdates : List (CiaoUsage × String × Int) :=
  [(⟨1,0,0,0⟩,"t",0),(⟨1,0,0,0⟩,"t",tenantUsagePeriod)]

theorem usage_window_two_entries :
    (((usageRun .empty twoUsageUpdates).get "t").getD []).Chain'
      (fun u v => u.timestamp + tenantUsagePeriod ≤ v.timestamp) ∧
    getTenantUsage {emptyDatastore.cache with tenantUsage := usageRun .empty twoUsageUpdates} "t" 0 1 =
      some ((((usageRun .empty twoUsageUpdates).get "t").getD []).filter
        fun u => 0 ≤ u.timestamp ∧ u.timestamp < 1) :=
  usage_window_exact twoUsageUpdates (by simp [twoUsageUpdates,tenantUsagePeriod]) {emptyDatastore.cache with tenantUsage := _} rfl "t" (by decide)

/-- Two entries a period apart, queried with `start` the later stamp and `end` the earlier:
the counts are `1` and `0`, and the slice `[1:0]` panics. -/
theorem reversed_window_panics :
    getTenantUsage {emptyDatastore.cache with tenantUsage := usageRun .empty twoUsageUpdates}
      "t" tenantUsagePeriod 0 = none := by decide

end Datastore
end CiaoDatastore
