import KubeSentry.Api.Proto
import KubeSentry.GroupResolve

/-!
# The snapshot renderer

`RenderWithExceptions` of `internal/gateway/render.go` turns in-memory lists
of distributions, groups, policies and exceptions into the snapshot of one
cluster.  The source keeps five accumulators across one loop over the
distributions; they are the fields of `RenderState`, and each inner loop is a
fold with its own round function.

A rendered object carries its spec as JSON text in the source.  Here the spec
is the value that was encoded (`ObjectSpec`), so reading it back is lossless.
`sha256` and `json.Marshal` of whole values are the operations of the class
`Digest`; nothing is assumed about them.
-/

namespace KubeSentry.Gateway

open GoLib GroupResolve

/-! ## The gateway's own models -/

/-- `gatewaymodel.Cluster`: its name and `spec.labels`. -/
structure Cluster where
  name : String
  labels : Labels := ∅
  deriving DecidableEq

structure DistributionClusters where
  byName : List String := []
  clusterSelector : Option LabelSelector := none
  deriving DecidableEq

structure DistributionOverride where
  cluster : String
  enforcementMode : EnforcementMode
  deriving DecidableEq

structure PolicyDistributionSpec where
  clusters : DistributionClusters := {}
  policyGroups : List String := []
  policyExceptions : List String := []
  overrides : List DistributionOverride := []
  deriving DecidableEq

structure PolicyDistribution where
  name : String
  deletionTimestamp : Option Time := none
  spec : PolicyDistributionSpec := {}
  deriving DecidableEq

/-! ## Snapshot objects -/

/-- The `Kind` text of a snapshot object. -/
inductive Kind where
  | policy
  | policyGroup
  | policyException
  | other (text : String)
  deriving DecidableEq, Repr

/-- The `Spec` bytes of a snapshot object, as the value they encode.
`malformed` is text that decodes as none of the three specs. -/
inductive ObjectSpec where
  | policy (spec : PolicySpec)
  | policyGroup (spec : PolicyGroupSpec)
  | policyException (spec : PolicyExceptionSpec)
  | malformed (text : String)
  deriving DecidableEq

structure ManagedObject where
  kind : Kind
  name : String
  labels : Labels
  spec : ObjectSpec
  deriving DecidableEq

/-- `RenderResult`.  The renderer leaves the last two fields empty; `renderFor`
fills them. -/
structure RenderResult where
  hash : String
  objects : List ManagedObject
  matched : List String
  errors : GoMap String
  uninstallTasks : List UninstallTask := []
  admissionEventConfig : Option AdmissionEventConfig := none
  deriving DecidableEq

/-- Hashing and encoding of whole values. -/
class Digest where
  /-- `hex.EncodeToString(sha256.Sum256(text))`. -/
  sha256Hex : String → String
  /-- `json.Marshal` of an object list. -/
  marshalObjects : List ManagedObject → String
  /-- `json.Marshal` of a delivery configuration. -/
  marshalConfig : AdmissionEventConfig → String

/-- The object names in place of a hash; for runs on concrete inputs. -/
@[reducible] def Digest.names : Digest where
  sha256Hex text := text
  marshalObjects objects := ",".intercalate (objects.map fun o => o.name)
  marshalConfig config := config.version

/-! ## The code -/

/-- `stricter`. -/
def stricter (a b : EnforcementMode) : EnforcementMode :=
  if a = .enforce ∨ b = .enforce then .enforce
  else if a = .unset then b
  else a

/-- `withManaged`. -/
def withManaged (labels : Labels) : Labels :=
  labels.insert managedByLabel managedByPlatform

/-- The lists and by-name maps that the loop over the distributions reads. -/
structure RenderIndex where
  cluster : Cluster
  policies : List Policy
  groupByName : GoMap PolicyGroup
  policyByName : GoMap Policy
  exceptionByName : GoMap PolicyException

/-- The head of `RenderWithExceptions`, which fills the by-name maps. -/
def RenderIndex.build (cluster : Cluster) (groups : List PolicyGroup)
    (policies : List Policy) (exceptions : List PolicyException) : RenderIndex where
  cluster := cluster
  policies := policies
  groupByName := indexBy (fun g => g.name) groups
  policyByName := indexBy (fun p => p.name) policies
  exceptionByName := indexBy (fun e => e.name) exceptions

/-- `renderedGroup`: the source group and the strictest mode of each policy. -/
structure RenderedGroup where
  src : PolicyGroup
  modes : GoMap EnforcementMode

/-- The accumulators of the loop over the distributions. -/
structure RenderState where
  matched : List String := []
  errors : GoMap String := ∅
  rendered : GoMap RenderedGroup := ∅
  needed : GoMap Policy := ∅
  neededExceptions : GoMap PolicyException := ∅

variable [Apimachinery] [GoUnicode]

/-- `distMatches`: an error text, or whether the distribution targets the
cluster. -/
def distMatches (d : PolicyDistribution) (cluster : Cluster) : Except String Bool :=
  if cluster.name ∈ d.spec.clusters.byName then .ok true
  else
    match d.spec.clusters.clusterSelector with
    | none => .ok false
    | some clusterSelector =>
      match Apimachinery.labelSelectorAsSelector clusterSelector with
      | .error err => .error ("invalid clusterSelector: " ++ err)
      | .ok sel => .ok (sel cluster.labels)

/-- The override of a distribution for the cluster; the last entry wins. -/
def overrideFor (cluster : Cluster) (d : PolicyDistribution) : EnforcementMode :=
  d.spec.overrides.foldl
    (fun override o => if o.cluster = cluster.name then o.enforcementMode else override) .unset

/-- The mode a member gets: the override where there is one. -/
def applyOverride (override mode : EnforcementMode) : EnforcementMode :=
  if override ≠ .unset then override else mode

/-- One round of the loop over the members of a group. -/
def renderMember (ix : RenderIndex) (override : EnforcementMode)
    (acc : GoMap EnforcementMode × GoMap Policy) (m : EffectiveMember) :
    GoMap EnforcementMode × GoMap Policy :=
  let mode := applyOverride override m.enforcementMode
  let modes := acc.1.insert m.name (stricter (acc.1[m.name]?.getD .unset) mode)
  match ix.policyByName[m.name]? with
  | some p => (modes, acc.2.insert m.name p)
  | none => (modes, acc.2)

/-- One round of the loop over `spec.policyGroups`.  The second component is
the slice `errs`. -/
def renderGroup (ix : RenderIndex) (override : EnforcementMode)
    (acc : RenderState × List String) (gname : String) : RenderState × List String :=
  match ix.groupByName[gname]? with
  | none => (acc.1, acc.2 ++ ["policygroup " ++ quote gname ++ " not found"])
  | some g =>
    -- A disabled group is an administrator's no-op, not an error.
    if !g.spec.enabled then acc
    else
      let members := (resolve g.spec ix.policies).1
      let rg := acc.1.rendered[gname]?.getD { src := g, modes := ∅ }
      let (modes, needed) := members.foldl (renderMember ix override) (rg.modes, acc.1.needed)
      ({ acc.1 with
          rendered := acc.1.rendered.insert gname { rg with modes := modes }
          needed := needed }, acc.2)

/-- One round of the loop over `spec.policyExceptions`. -/
def renderException (ix : RenderIndex) (acc : RenderState × List String) (name : String) :
    RenderState × List String :=
  match ix.exceptionByName[name]? with
  | none => (acc.1, acc.2 ++ ["policyexception " ++ quote name ++ " not found"])
  | some e =>
    ({ acc.1 with neededExceptions := acc.1.neededExceptions.insert name e }, acc.2)

/-- One round of the loop over the distributions. -/
def renderDistribution (ix : RenderIndex) (st : RenderState) (d : PolicyDistribution) :
    RenderState :=
  if d.deletionTimestamp.isSome then st
  else
    match distMatches d ix.cluster with
    | .error matchErr =>
      -- The distribution targets the cluster as far as its status goes.
      { st with
        matched := st.matched ++ [d.name]
        errors := st.errors.insert d.name matchErr }
    | .ok false => st
    | .ok true =>
      let st := { st with matched := st.matched ++ [d.name] }
      let override := overrideFor ix.cluster d
      let acc := d.spec.policyGroups.foldl (renderGroup ix override) (st, [])
      let (st, errs) := d.spec.policyExceptions.foldl (renderException ix) acc
      if errs = [] then st
      else { st with errors := st.errors.insert d.name ("; ".intercalate errs) }

/-- The snapshot form of a group: its members are an explicit name list. -/
def flattenGroup (rg : RenderedGroup) : PolicyGroupSpec :=
  { rg.src.spec with
    policies := { byName := rg.modes.toList.map (fun e => ⟨e.1, e.2⟩) }
    selectorEnforcementMode := .unset }

def policyObject (name : String) (p : Policy) : ManagedObject :=
  { kind := .policy, name := name, labels := withManaged p.labels, spec := .policy p.spec }

def groupObject (name : String) (rg : RenderedGroup) : ManagedObject :=
  { kind := .policyGroup, name := name, labels := withManaged rg.src.labels
    spec := .policyGroup (flattenGroup rg) }

def exceptionObject (name : String) (e : PolicyException) : ManagedObject :=
  { kind := .policyException, name := name, labels := withManaged e.labels
    spec := .policyException e.spec }

/-- The object list: policies, then groups, then exceptions, each in the order
of `sortedKeys`, which is the key order of the map. -/
def RenderState.objects (st : RenderState) : List ManagedObject :=
  st.needed.toList.map (fun e => policyObject e.1 e.2) ++
  st.rendered.toList.map (fun e => groupObject e.1 e.2) ++
  st.neededExceptions.toList.map (fun e => exceptionObject e.1 e.2)

variable [Digest]

/-- `RenderWithExceptions`. -/
def renderWithExceptions (cluster : Cluster) (dists : List PolicyDistribution)
    (groups : List PolicyGroup) (policies : List Policy)
    (exceptions : List PolicyException) : RenderResult :=
  let ix := RenderIndex.build cluster groups policies exceptions
  let st := dists.foldl (renderDistribution ix) {}
  { hash := Digest.sha256Hex (Digest.marshalObjects st.objects)
    objects := st.objects
    matched := sortStrings st.matched
    errors := st.errors }

end KubeSentry.Gateway
