import Mathlib.Data.List.Chain
import Splitter.Driver.Instructions

/-!
# Cluster changes and their base

A `ClusterMessage` carries a version, strictly sequential if it is a change. The driver applies a
change to the map it published last, whatever the versions say, and passes over a message that it
cannot apply. So a change after such a message is layered on a map that misses it.
`layered_iff`: over a stream of consecutive versions, the changes that are published on the map of
the version before theirs are exactly those that come right after a message that was published, and
version 1 where nothing was published yet.
-/

namespace Splitter

namespace ClusterMap

/-! ## Every message relabels the map with its version -/

theorem id_dropGrant (m : ClusterMap) (gid : GrantId) : (m.dropGrant gid).id = m.id := by
  unfold dropGrant
  split <;> rfl

theorem id_removeConsumer (m : ClusterMap) (cid : ConsumerId) : (m.removeConsumer cid).id = m.id := by
  unfold removeConsumer
  split <;> rfl

section
variable [UuidCrate] {m m' : ClusterMap}

theorem id_applyAssignment {a : pb.Assignment} (h : m.applyAssignment a = .ok m') :
    m'.id = m.id := by
  obtain ⟨raw, -, h⟩ := Except.bind_eq_ok.1 h
  obtain ⟨consumer, -, h⟩ := Except.bind_eq_ok.1 h
  refine List.foldlM_invariant (P := fun s => s.id = m.id) (fun s g t hs hst => ?_) h rfl
  obtain ⟨shard, rfl⟩ := assignGrant_ok hst
  exact hs

theorem id_changeAssign {as : List pb.Assignment} (h : m.changeAssign as = .ok m') :
    m'.id = m.id :=
  List.foldlM_invariant (P := fun s => s.id = m.id)
    (fun _ _ _ hs hst => (id_applyAssignment hst).trans hs) h rfl

theorem version_changeParts {change : pb.Change} {version : Int64} {timestamp : SystemTime}
    (h : m.changeParts change version timestamp = .ok m') : m'.id.version = version := by
  obtain ⟨m₁, h₁, h⟩ := Except.bind_eq_ok.1 h
  obtain ⟨m₂, h₂, h⟩ := Except.bind_eq_ok.1 h
  obtain ⟨m₃, h₃, h₄⟩ := Except.bind_eq_ok.1 h
  have hv₁ : m₁.id.version = version := by
    rcases ifPart_ok h₁ with ⟨-, rfl⟩ | ⟨raw, -, hrun⟩
    · rfl
    · obtain ⟨shards, -, hrun⟩ := Except.bind_eq_ok.1 hrun
      cases hrun
      exact List.foldl_invariant (P := fun s : ClusterMap => s.id.version = version)
        (fun s gid hs => by rw [id_dropGrant]; exact hs) rfl
  have hv₂ : m₂.id.version = version := by
    rcases ifPart_ok h₂ with ⟨-, rfl⟩ | ⟨as, -, hrun⟩
    · exact hv₁
    · rw [id_changeAssign hrun]
      exact hv₁
  have hv₃ : m₃.id.version = version := by
    rcases ifPart_ok h₃ with ⟨-, rfl⟩ | ⟨gs, -, hrun⟩
    · exact hv₂
    · refine List.foldlM_invariant (P := fun s => s.id.version = version)
        (fun s g t hs hst => ?_) hrun hv₂
      rcases updateGrant_ok hst with ⟨-, rfl⟩ | ⟨entry, shard, -, rfl⟩ <;> exact hs
  rcases ifPart_ok h₄ with ⟨-, rfl⟩ | ⟨gs, -, hrun⟩
  · exact hv₃
  · cases hrun
    exact List.foldl_invariant (P := fun s : ClusterMap => s.id.version = version)
      (fun s gid hs => by rw [id_dropGrant]; exact hs) hv₃

/-- **A message that applies leaves the map with its version.** -/
theorem version_apply {msg : pb.ClusterMessage} (h : m.apply msg = .ok m') :
    m'.id.version = msg.version := by
  obtain ⟨timestamp, -, h⟩ := Except.bind_eq_ok.1 h
  split at h
  · obtain ⟨shards, -, h⟩ := Except.bind_eq_ok.1 h
    obtain ⟨origin, -, h⟩ := Except.bind_eq_ok.1 h
    rw [id_changeAssign h]
  · obtain ⟨m₄, hparts, h₅⟩ := Except.bind_eq_ok.1 h
    have hv₄ := version_changeParts hparts
    rcases ifPart_ok h₅ with ⟨-, rfl⟩ | ⟨cs, -, hrun⟩
    · exact hv₄
    · cases hrun
      exact List.foldl_invariant (P := fun s : ClusterMap => s.id.version = msg.version)
        (fun s cid hs => by rw [id_removeConsumer]; exact hs) hv₄
  · cases h

end

end ClusterMap

/-! ## The stream of cluster messages -/

/-- A cluster message the driver has taken: the map it was to be applied to, and whether the result
was published. -/
structure Application where
  base : ClusterMap
  msg : pb.ClusterMessage
  published : Bool

namespace Application

/-- The message is a change and its result was published. -/
def Layers (a : Application) : Prop := a.published = true ∧ ∃ change, a.msg.msg = some (.change change)

/-- The change was applied to the map of the version before its own. -/
def Layered (a : Application) : Prop := a.base.id.version.toInt = a.msg.version.toInt - 1

instance (a : Application) : Decidable a.Layered := inferInstanceAs (Decidable (_ = _))

/-- The versions of a stream are strictly consecutive. -/
def Consecutive (stream : List Application) : Prop :=
  stream.IsChain fun a b => b.msg.version.toInt = a.msg.version.toInt + 1

/-- The message before was published, or none was and this one has version 1. -/
def NothingMissed (pre : List Application) (a : Application) : Prop :=
  (∃ b, pre.getLast? = some b ∧ b.published = true) ∨
    (∀ b ∈ pre, b.published = false) ∧ a.msg.version.toInt = 1

/-- The version of the map that was published last, which is 0 where none was. -/
def lastVersion (pre : List Application) : Int :=
  ((pre.filter (·.published)).getLast?.map (·.msg.version.toInt)).getD 0

theorem lastVersion_concat (pre : List Application) (a : Application) :
    lastVersion (pre ++ [a]) = if a.published then a.msg.version.toInt else lastVersion pre := by
  unfold lastVersion
  rw [List.filter_append]
  cases hpub : a.published <;> simp [hpub]

/-- Where nothing was published, the map is the first one. -/
theorem lastVersion_of_none {pre : List Application} (h : ∀ b ∈ pre, b.published = false) :
    lastVersion pre = 0 := by
  have hnil : pre.filter (·.published) = [] :=
    List.filter_eq_nil_iff.2 fun b hb => by simp [h b hb]
  rw [lastVersion, hnil]
  rfl

/-- Otherwise it is that of a message that was published. -/
theorem exists_lastVersion {pre : List Application} (h : ∃ b ∈ pre, b.published = true) :
    ∃ b ∈ pre, lastVersion pre = b.msg.version.toInt := by
  obtain ⟨b, hb, hpub⟩ := h
  have hmem : b ∈ pre.filter (·.published) := List.mem_filter.2 ⟨hb, hpub⟩
  cases hlast : (pre.filter (·.published)).getLast? with
  | none =>
    rw [List.getLast?_eq_none_iff.1 hlast] at hmem
    cases hmem
  | some c =>
    refine ⟨c, (List.mem_filter.1 (List.mem_of_getLast? hlast)).1, ?_⟩
    rw [lastVersion, hlast]
    rfl

/-- Versions only grow along the stream. -/
theorem Consecutive.lt {pre post : List Application} {a : Application}
    (h : Consecutive (pre ++ a :: post)) : ∀ b ∈ pre, b.msg.version.toInt < a.msg.version.toInt := by
  have hchain : (pre ++ a :: post).IsChain fun a b => a.msg.version.toInt < b.msg.version.toInt :=
    List.IsChain.imp (fun a b hab => by omega) h
  have hpair := (List.isChain_iff_pairwise (R := fun a b : Application =>
    a.msg.version.toInt < b.msg.version.toInt)).1 hchain
  intro b hb
  exact (List.pairwise_append.1 hpair).2.2 b hb a (by simp)

/-- **One change of a stream**: the map published last has the version before its own exactly if
nothing was missed. -/
theorem lastVersion_iff {pre post : List Application} {a : Application}
    (h : Consecutive (pre ++ a :: post)) :
    lastVersion pre = a.msg.version.toInt - 1 ↔ NothingMissed pre a := by
  rcases List.eq_nil_or_concat pre with rfl | ⟨pre, b, rfl⟩
  · have hlast : lastVersion [] = 0 := rfl
    rw [hlast, NothingMissed]
    constructor
    · intro hv
      exact .inr ⟨fun b hb => (by cases hb), by omega⟩
    · rintro (⟨b, hb, -⟩ | ⟨-, hv⟩)
      · cases hb
      · omega
  · rw [List.concat_eq_append] at h ⊢
    have hnext : a.msg.version.toInt = b.msg.version.toInt + 1 := by
      rw [List.append_assoc, List.singleton_append] at h
      exact (List.isChain_append_cons_cons.1 h).2.1
    have hgetLast : (pre ++ [b]).getLast? = some b := by simp
    rw [lastVersion_concat, NothingMissed, hgetLast]
    cases hpub : b.published with
    | true =>
      refine iff_of_true ?_ (.inl ⟨b, rfl, hpub⟩)
      rw [if_pos rfl, hnext]
      omega
    | false =>
      rw [if_neg (by simp)]
      constructor
      · intro hv
        right
        by_cases hsome : ∃ c ∈ pre, c.published = true
        · obtain ⟨c, hc, hlast⟩ := exists_lastVersion hsome
          have hlt : c.msg.version.toInt < b.msg.version.toInt := by
            rw [List.append_assoc, List.singleton_append] at h
            exact Consecutive.lt h c hc
          omega
        · have hnone : ∀ c ∈ pre, c.published = false := by simpa using hsome
          rw [lastVersion_of_none hnone] at hv
          refine ⟨fun c hc => ?_, by omega⟩
          rcases List.mem_append.1 hc with hc | hc
          · exact hnone c hc
          · rw [List.mem_singleton.1 hc, hpub]
      · rintro (⟨c, hc, hcpub⟩ | ⟨hnone, hv⟩)
        · cases hc
          rw [hpub] at hcpub
          cases hcpub
        · rw [lastVersion_of_none fun c hc => hnone c (List.mem_append_left _ hc)]
          omega

end Application

/-! ## Runs of the driver -/

namespace Driver

section
variable [UuidCrate]

/-- What becomes of a cluster message: it is published if it applies and somebody listens. -/
def application (env : Env) (self : Driver) (cm : pb.ClusterMessage) : Application :=
  { base := self.cluster, msg := cm
    published := env.clusterObserved && (self.cluster.apply cm).isOk }

/-- The cluster message of a frame, as the driver takes it. -/
def applied (env : Env) (self : Driver) (join : pb.JoinMessage) : List Application :=
  match join.msg with
  | some (.consumer { msg := some (.cluster cm) }) => [self.application env cm]
  | _ => []

/-- The map that is published has the version of the message; a message that is not published
leaves the map. -/
theorem cluster_handleCluster (env : Env) (self : Driver) (cm : pb.ClusterMessage) :
    if (self.application env cm).published then
      (self.handleCluster env cm).1.cluster.id.version = cm.version
    else (self.handleCluster env cm).1.cluster = self.cluster := by
  unfold handleCluster application
  cases happly : self.cluster.apply cm with
  | ok next =>
    cases hobserved : env.clusterObserved with
    | true => exact ClusterMap.version_apply happly
    | false => exact rfl
  | error fault =>
    cases env.clusterObserved <;> cases fault <;> rfl

end

theorem cluster_removeGrant (self : Driver) (id : GrantId) :
    (self.removeGrant id).cluster = self.cluster := by
  unfold removeGrant
  split <;> rfl

/-- The entries of a client message leave the cluster map alone. -/
theorem cluster_perform (self : Driver) (i : Instruction) :
    (self.perform i).1.cluster = self.cluster := by
  cases i with
  | assign g now =>
    simp only [perform, onAssign]
    split
    · rfl
    · split
      · rfl
      · exact cluster_removeGrant self ⟨g.id⟩
  | promote g =>
    simp only [perform, onPromote]
    split <;> rfl
  | revoke g =>
    simp only [perform, onRevoke]
    split
    · rfl
    · split <;> rfl
  | notify n =>
    simp only [perform, onNotify]
    split
    · split <;> rfl
    · rfl
  | extend lease =>
    simp only [perform, onExtend]
    split <;> rfl

theorem cluster_follow (self : Driver) (is : List Instruction) :
    (self.follow is).1.cluster = self.cluster :=
  follow_invariant (P := fun d => d.cluster = self.cluster)
    (fun d i hd => (d.cluster_perform i).trans hd) rfl is

end Driver

namespace Loop

/-- What holds of the driver's map and the stream so far: it is the map published last, and each
message was to be applied to the one that was then. -/
structure Streamed (s : Loop) (stream : List Application) : Prop where
  current : s.driver.cluster.id.version.toInt = Application.lastVersion stream
  base : ∀ pre a post, stream = pre ++ a :: post →
    a.base.id.version.toInt = Application.lastVersion pre

theorem Streamed.initial : Streamed initial [] where
  current := rfl
  base pre a post h := by simp at h

/-- A step that takes no cluster message and leaves the map. -/
theorem Streamed.quiet {s t : Loop} {stream : List Application} (h : Streamed s stream)
    (hcluster : t.driver.cluster = s.driver.cluster) : Streamed t (stream ++ []) := by
  rw [List.append_nil]
  exact ⟨hcluster ▸ h.current, h.base⟩

/-- A cluster message, applied to the map that is current. -/
theorem Streamed.taken {s t : Loop} {stream : List Application} {a : Application}
    (h : Streamed s stream) (hbase : a.base = s.driver.cluster)
    (hnext : if a.published then t.driver.cluster.id.version = a.msg.version
      else t.driver.cluster = s.driver.cluster) :
    Streamed t (stream ++ [a]) where
  current := by
    rw [Application.lastVersion_concat]
    split at hnext
    · next hpub => rw [if_pos hpub, hnext]
    · next hpub => rw [if_neg hpub, hnext, h.current]
  base pre b post heq := by
    rcases List.eq_nil_or_concat post with rfl | ⟨post, c, rfl⟩
    · obtain ⟨rfl, hb⟩ := List.append_inj' heq rfl
      cases hb
      rw [hbase]
      exact h.current
    · rw [List.concat_eq_append, ← List.cons_append, ← List.append_assoc] at heq
      exact h.base pre b post (List.append_inj' heq rfl).1

section
variable [UuidCrate]

/-- The cluster message a step takes, if it takes one. -/
def applied (s : Loop) : Event → List Application
  | .takeInbound (some (.ok join)) env => s.driver.applied env join
  | _ => []

/-- The stream of cluster messages of a run. -/
def applications (es : List Event) : List Application := machine.outputs applied initial es

/-- **The step lemma.** -/
theorem Streamed.step {s t : Loop} {e : Event} {stream : List Application} (h : Streamed s stream)
    (hst : s.step e = some t) : Streamed t (stream ++ s.applied e) := by
  cases step_cases hst with
  | takeInbound item env =>
    rcases item with _ | ⟨status | ⟨_ | msg | ⟨_ | client | cm⟩⟩⟩
    · exact h.quiet rfl
    · exact h.quiet rfl
    · exact h.quiet rfl
    · exact h.quiet rfl
    · exact h.quiet rfl
    · refine h.quiet ?_
      show (s.driver.handleClientMessage env client).1.cluster = _
      rw [Driver.handleClientMessage_follow]
      exact s.driver.cluster_follow _
    · exact h.taken rfl (s.driver.cluster_handleCluster env cm)
  | @handled result now => rcases result with (_ | _) | (_ | _) <;> exact h.quiet rfl
  | deregisterSent ok | closedSent ok =>
    cases ok <;> exact h.quiet rfl
  | collect ids =>
    refine h.quiet ?_
    exact List.foldl_invariant (P := fun d : Driver => d.cluster = s.driver.cluster)
      (fun d id hd => by rw [Driver.cluster_removeGrant]; exact hd) rfl
  | _ => exact h.quiet rfl

/-- **When no change is layered on a map that misses a message.** Over every run of the driver whose
cluster messages have strictly consecutive versions, whether they decode or not: every change that
is published was applied to the map of the version before its own exactly if nothing was missed
before any of them. -/
theorem layered_iff {es : List Event} {s : Loop} (hrun : machine.run initial es = some s)
    (hseq : Application.Consecutive (applications es)) :
    (∀ pre a post, applications es = pre ++ a :: post → a.Layers → a.Layered) ↔
      ∀ pre a post, applications es = pre ++ a :: post → a.Layers →
        Application.NothingMissed pre a := by
  have hstreamed : Streamed s ([] ++ applications es) :=
    Machine.run_outputs (I := Streamed) (fun _ _ _ _ h hst => h.step hst) Streamed.initial hrun
  have hiff : ∀ pre a post, applications es = pre ++ a :: post →
      (a.Layered ↔ Application.NothingMissed pre a) := by
    intro pre a post heq
    rw [Application.Layered, hstreamed.base pre a post heq]
    rw [heq] at hseq
    exact Application.lastVersion_iff hseq
  constructor
  · exact fun h pre a post heq hlayers => (hiff pre a post heq).1 (h pre a post heq hlayers)
  · exact fun h pre a post heq hlayers => (hiff pre a post heq).2 (h pre a post heq hlayers)

end

/-! ## Two streams -/

/-- The driver takes a cluster message, publishes its result if it has one, and waits again. -/
def takeCluster (cm : pb.ClusterMessage) (effects : Nat) : List Event :=
  .takeInbound (some (.ok { msg := some (.consumer { msg := some (.cluster cm) }) })) epochEnv ::
    List.replicate effects .exec ++ [.handled SystemTime.unixEpoch]

/-- A change that assigns nothing to a consumer it does not name, which does not decode. -/
def namelessAssign (version : Int64) : pb.ClusterMessage :=
  { msg := some (.change
      { assign := some [{ consumer := none, grants := [] }]
        update := none, unassign := none, remove := none, shards := none })
    id := "", version, timestamp := none }

open ClusterMap (assignOne removeOne idA)

/-- Three changes that apply. -/
def cleanStream : List Event :=
  .start :: takeCluster (assignOne 1 idA "g") 1 ++ takeCluster (assignOne 2 idA "h") 1 ++
    takeCluster (removeOne 3 idA) 1

/-- The same with a second change that does not decode. -/
def gapStream : List Event :=
  .start :: takeCluster (assignOne 1 idA "g") 1 ++ takeCluster (namelessAssign 2) 0 ++
    takeCluster (assignOne 3 idA "h") 1

/-- The stream of three changes that apply. -/
theorem layered_cleanStream :
    let := UuidCrate.pair
    ∃ s, machine.run initial cleanStream = some s ∧
      ∀ pre a post, applications cleanStream = pre ++ a :: post → a.Layers → a.Layered := by
  let := UuidCrate.pair
  have hrun : machine.run initial cleanStream = some _ := rfl
  have hstream : applications cleanStream = [_, _, _] := rfl
  have hseq : Application.Consecutive (applications cleanStream) := by
    rw [hstream]
    exact .cons_cons rfl (.cons_cons rfl (.singleton _))
  have hpublished : ∀ b ∈ applications cleanStream, b.published = true := by
    have hall : (applications cleanStream).all (·.published) = true := rfl
    exact fun b hb => List.all_eq_true.1 hall b hb
  refine ⟨_, hrun, (layered_iff hrun hseq).2 fun pre a post heq _ => ?_⟩
  rcases List.eq_nil_or_concat pre with rfl | ⟨pre, b, rfl⟩
  · rw [hstream] at heq
    cases heq
    exact .inr ⟨fun b hb => (by cases hb), rfl⟩
  · refine .inl ⟨b, by simp, hpublished b ?_⟩
    rw [heq]
    simp

/-- **A change is layered on a map that misses the one before it.** -/
theorem gapStream_not_layered :
    let := UuidCrate.pair
    (∃ s, machine.run initial gapStream = some s) ∧
      Application.Consecutive (applications gapStream) ∧
      ¬ ∀ pre a post, applications gapStream = pre ++ a :: post → a.Layers → a.Layered := by
  let := UuidCrate.pair
  have hstream : applications gapStream = [_, _, _] := rfl
  refine ⟨⟨_, rfl⟩, ?_, fun h => ?_⟩
  · rw [hstream]
    exact .cons_cons rfl (.cons_cons rfl (.singleton _))
  · exact absurd (h [_, _] _ [] hstream ⟨rfl, _, rfl⟩) (by decide)

end Loop

end Splitter
