import KubeSentry.Gateway.RenderFor

/-!
# What a snapshot depends on

`renderFor` puts the rows of every owner into by-name maps.  This file says
which part of those maps a snapshot depends on.

`renderRows_congr` is the upper bound: two sets of rows give the same snapshot
when their by-name answers agree at the names that targeting distributions
list.  A group or exception of the snapshot is rendered from the row that
answers for its name (`renderRows_group_row`, `renderRows_exception_row`).
`renderRows_group_labels` and `renderRows_exception_labels` are the
lower bound: at a listed name the answer shows in the snapshot, at least
through its labels.
-/

namespace KubeSentry.Gateway

open GoLib Database

/-! ## Upper bound -/

variable (cl : ClusterRow) (groups : List GroupRow) (policies : List PolicyRow)
  (exceptions : List ExceptionRow)

/-- The index that `renderFor` builds from rows. -/
def rowIndex : RenderIndex :=
  .build (toGatewayCluster cl) (groups.map toV1alpha1Group) (policies.map toV1alpha1Policy)
    (exceptions.map toV1alpha1Exception)

theorem rowIndex_groupByName (n : String) :
    (rowIndex cl groups policies exceptions).groupByName[n]? =
      ((indexBy (fun g => g.name) groups)[n]?).map toV1alpha1Group :=
  getElem?_indexBy_map (fun _ => rfl) groups n

theorem rowIndex_exceptionByName (n : String) :
    (rowIndex cl groups policies exceptions).exceptionByName[n]? =
      ((indexBy (fun e => e.name) exceptions)[n]?).map toV1alpha1Exception :=
  getElem?_indexBy_map (fun _ => rfl) exceptions n

variable {policies} {dists : List DistributionRow} [Apimachinery] [GoUnicode]
  (hnodup : (policies.map fun p => p.name).Nodup)

include hnodup

/-- The closed forms hold for the loop inside `renderFor`. -/
theorem rendered_rows (dists : List DistributionRow) :
    Rendered (rowIndex cl groups policies exceptions) (dists.map toGatewayDist)
      ((dists.map toGatewayDist).foldl
        (renderDistribution (rowIndex cl groups policies exceptions)) {}) := by
  apply rendered_foldl
  have hnames : (policies.map toV1alpha1Policy).map (fun p => p.name) =
      policies.map fun p => p.name := by
    rw [List.map_map]
    rfl
  rw [rowIndex, RenderIndex.build, hnames]
  exact hnodup

variable {cl groups exceptions} [Digest]

/-- A snapshot depends on groups and exceptions through the by-name answers at
the names that targeting distributions list. -/
theorem renderRows_congr {groups' : List GroupRow} {exceptions' : List ExceptionRow}
    (hgroups : ∀ d ∈ dists, targets (toGatewayCluster cl) (toGatewayDist d) = true →
      ∀ n ∈ d.spec.policyGroups,
        (indexBy (fun g => g.name) groups)[n]? = (indexBy (fun g => g.name) groups')[n]?)
    (hexceptions : ∀ d ∈ dists, targets (toGatewayCluster cl) (toGatewayDist d) = true →
      ∀ n ∈ d.spec.policyExceptions, (indexBy (fun e => e.name) exceptions)[n]? =
          (indexBy (fun e => e.name) exceptions')[n]?) :
    renderRows cl dists groups policies exceptions =
      renderRows cl dists groups' policies exceptions' := by
  have hanswers : ∀ d ∈ dists.map toGatewayDist, targets (toGatewayCluster cl) d = true →
      (∀ n ∈ d.spec.policyGroups, (rowIndex cl groups policies exceptions).groupByName[n]? =
          (rowIndex cl groups' policies exceptions').groupByName[n]?) ∧
      ∀ n ∈ d.spec.policyExceptions, (rowIndex cl groups policies exceptions).exceptionByName[n]? =
          (rowIndex cl groups' policies exceptions').exceptionByName[n]? := by
    intro d hd htargets
    obtain ⟨row, hrow, rfl⟩ := List.mem_map.mp hd
    refine ⟨?_, ?_⟩
    · intro n hn
      rw [rowIndex_groupByName, rowIndex_groupByName, hgroups row hrow htargets n hn]
    · intro n hn
      rw [rowIndex_exceptionByName, rowIndex_exceptionByName, hexceptions row hrow htargets n hn]
  obtain ⟨hobjects, hmatched, herrors⟩ := objects_eq_of_answers
    (rendered_rows cl groups exceptions hnodup dists)
    (rendered_rows cl groups' exceptions' hnodup dists) rfl (fun _ => rfl) rfl
    (fun d hd ht => (hanswers d hd ht).1) (fun d hd ht => (hanswers d hd ht).2)
  rw [rowIndex, rowIndex] at hobjects hmatched herrors
  simp only [renderRows, renderWithExceptions, hobjects, hmatched, herrors]

section

variable {o : ManagedObject} (ho : o ∈ (renderRows cl dists groups policies exceptions).objects)

include ho

/-- A group of the snapshot is rendered from the row that answers for its
name. -/
theorem renderRows_group_row (hkind : o.kind = .policyGroup) :
    ∃ row, (indexBy (fun g => g.name) groups)[o.name]? = some row ∧
      ∃ modes, o = groupObject o.name { src := toV1alpha1Group row, modes := modes } := by
  have h := rendered_rows cl groups exceptions hnodup dists
  rcases (RenderState.mem_objects_iff _ o).mp ho with
    ⟨name, p, _, rfl⟩ | ⟨name, rg, hrg, rfl⟩ | ⟨name, e, _, rfl⟩
  · exact absurd hkind (by simp [policyObject])
  · have hrendered := (h.rendered name).symm.trans hrg
    obtain ⟨_, g, hg, rfl⟩ := (RenderIndex.renderedOf_eq_some_iff
      (rowIndex cl groups policies exceptions) _ name rg).mp hrendered
    have hanswer := Option.eq_some_of_filter_eq_some hg
    rw [rowIndex_groupByName] at hanswer
    obtain ⟨row, hrow, rfl⟩ := Option.map_eq_some_iff.mp hanswer
    exact ⟨row, hrow, _, rfl⟩
  · exact absurd hkind (by simp [exceptionObject])

/-- An exception of the snapshot is rendered from the row that answers for its
name. -/
theorem renderRows_exception_row (hkind : o.kind = .policyException) :
    ∃ row, (indexBy (fun e => e.name) exceptions)[o.name]? = some row ∧
      o = exceptionObject o.name (toV1alpha1Exception row) := by
  have h := rendered_rows cl groups exceptions hnodup dists
  rcases (RenderState.mem_objects_iff _ o).mp ho with
    ⟨name, p, _, rfl⟩ | ⟨name, rg, _, rfl⟩ | ⟨name, e, he, rfl⟩
  · exact absurd hkind (by simp [policyObject])
  · exact absurd hkind (by simp [groupObject])
  · obtain ⟨_, hanswer⟩ := (h.neededExceptions name e).mp he
    rw [rowIndex_exceptionByName] at hanswer
    obtain ⟨row, hrow, rfl⟩ := Option.map_eq_some_iff.mp hanswer
    exact ⟨row, hrow, rfl⟩

end

/-! ## Lower bound -/

variable {d : DistributionRow} (hd : d ∈ dists)
  (htargets : targets (toGatewayCluster cl) (toGatewayDist d) = true) {n : String}

include hd htargets

/-- A listed, enabled group reaches the snapshot with its row's labels. -/
theorem renderRows_group_labels (hn : n ∈ d.spec.policyGroups) {row : GroupRow}
    (hrow : (indexBy (fun g => g.name) groups)[n]? = some row) (henabled : row.spec.enabled = true)
    (labels : Labels) :
    (∃ o ∈ (renderRows cl dists groups policies exceptions).objects,
      o.kind = .policyGroup ∧ o.name = n ∧ o.labels = labels) ↔
        labels = withManaged row.labels := by
  have h := rendered_rows cl groups exceptions hnodup dists
  have hgroup : (rowIndex cl groups policies exceptions).enabledGroup n =
      some (toV1alpha1Group row) := by
    rw [RenderIndex.enabledGroup, rowIndex_groupByName, hrow]
    simp [toV1alpha1Group, henabled]
  have hvisit : (n, overrideFor (toGatewayCluster cl) (toGatewayDist d)) ∈
      visits (toGatewayCluster cl) (dists.map toGatewayDist) :=
    (mem_visits_iff _ _ _ _).mpr ⟨toGatewayDist d, List.mem_map.mpr ⟨d, hd, rfl⟩, htargets, hn, rfl⟩
  have hrendered := (RenderIndex.renderedOf_eq_some_iff
    (rowIndex cl groups policies exceptions) _ n _).mpr ⟨⟨_, hvisit⟩, _, hgroup, rfl⟩
  constructor
  · intro hobject
    obtain ⟨o, ho, hkind, hname, hlabels⟩ := hobject
    obtain ⟨row', hrow', _, hobj⟩ := renderRows_group_row hnodup ho hkind
    rw [hname, hrow] at hrow'
    cases hrow'
    rw [← hlabels, hobj]
    rfl
  · intro hlabels
    have hmem := (RenderState.mem_objects_iff _ _).mpr
      (.inr (.inl ⟨n, _, (h.rendered n).trans hrendered, rfl⟩))
    exact ⟨_, hmem, rfl, rfl, hlabels.symm⟩

/-- A listed exception reaches the snapshot with its row's labels. -/
theorem renderRows_exception_labels (hn : n ∈ d.spec.policyExceptions) {row : ExceptionRow}
    (hrow : (indexBy (fun e => e.name) exceptions)[n]? = some row) (labels : Labels) :
    (∃ o ∈ (renderRows cl dists groups policies exceptions).objects,
      o.kind = .policyException ∧ o.name = n ∧ o.labels = labels) ↔
        labels = withManaged row.labels := by
  have h := rendered_rows cl groups exceptions hnodup dists
  have hlisted : n ∈ listedExceptions (toGatewayCluster cl) (dists.map toGatewayDist) := by
    refine List.mem_flatMap.mpr ⟨toGatewayDist d, List.mem_filter.mpr ⟨?_, htargets⟩, hn⟩
    exact List.mem_map.mpr ⟨d, hd, rfl⟩
  have hanswer : (rowIndex cl groups policies exceptions).exceptionByName[n]? =
      some (toV1alpha1Exception row) := by
    rw [rowIndex_exceptionByName, hrow, Option.map_some]
  have hneeded := (h.neededExceptions n _).mpr ⟨hlisted, hanswer⟩
  constructor
  · intro hobject
    obtain ⟨o, ho, hkind, hname, hlabels⟩ := hobject
    obtain ⟨row', hrow', hobj⟩ := renderRows_exception_row hnodup ho hkind
    rw [hname, hrow] at hrow'
    cases hrow'
    rw [← hlabels, hobj]
    rfl
  · intro hlabels
    have hmem := (RenderState.mem_objects_iff _ _).mpr (.inr (.inr ⟨n, _, hneeded, rfl⟩))
    exact ⟨_, hmem, rfl, rfl, hlabels.symm⟩

end KubeSentry.Gateway
