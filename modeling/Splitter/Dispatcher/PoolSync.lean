import Splitter.Dispatcher.Router
import Splitter.Lib.Watch
import Splitter.Routing.Pool

/-!
# The pool updater

`dispatcher.rs`: `build` seeds the pool with the current cluster map, and later spawns a task that
waits for the watch channel to change and applies the map it then borrows. The driver publishes at
any time. `pool_current`: whenever the updater waits with nothing unseen, the last map applied is
the one published last.
-/

namespace Splitter

/-- The map an effect publishes. -/
def Effect.publish? : Effect → Option ClusterMap
  | .publish map => some map
  | _ => none

/-- The maps a list of effects publishes, after the empty one the channel starts with. -/
def Effect.published (log : List Effect) : List ClusterMap := log.filterMap publish?

namespace PoolSync

/-- Where `build` and the updater it spawns stand. -/
inductive Pc
  /-- `join` has returned. -/
  | joined
  /-- In `pool.apply_cluster(&join.cluster.borrow().clone())`, with the map borrowed. -/
  | seeding (map : ClusterMap)
  | seeded
  /-- The updater waits in `cluster.changed()`. -/
  | waiting (cluster : Watch.Receiver)
  /-- `changed` has resolved. -/
  | woken (cluster : Watch.Receiver)
  /-- The updater has borrowed the map it is about to apply. -/
  | applying (cluster : Watch.Receiver) (map : ClusterMap)
  | stopped

end PoolSync

/-- The driver, the pool, and the part of the dispatcher that keeps it in sync. -/
structure PoolSync (Channel : Type) where
  loop : Loop
  pool : ConnectionPool Channel
  /-- The map of the last call of `apply_cluster`. -/
  applied : Option ClusterMap
  /-- `join.cluster`. -/
  cluster : Watch.Receiver
  pc : PoolSync.Pc

namespace PoolSync

variable {Channel : Type}

inductive Event (Channel : Type)
  | driver (e : Loop.Event)
  /-- `build` borrows the current map. -/
  | borrow
  /-- The pending call of `apply_cluster`, of `build` or of the updater. -/
  | apply (dial : Dial Channel) (consumers : List ConsumerEntry)
  /-- `build` spawns the updater with a clone of its receiver. -/
  | spawn
  | changed
  | borrowAndUpdate
  /-- The dispatcher aborts the updater. -/
  | abort

/-- `join` has returned; the pool is a new one or the user's own. -/
def initial (pool : ConnectionPool Channel) : PoolSync Channel :=
  { loop := .initial, pool, applied := none, cluster := .new, pc := .joined }

/-- The maps published so far. -/
def published (s : PoolSync Channel) : List ClusterMap := Effect.published s.loop.done

/-- The map that is published now. -/
def currentMap (s : PoolSync Channel) : ClusterMap := Watch.value .empty s.published

/-- A call of `apply_cluster`. -/
def applyMap (s : PoolSync Channel) (map : ClusterMap) (dial : Dial Channel)
    (consumers : List ConsumerEntry) (pc : Pc) : Option (PoolSync Channel) :=
  if consumers.Perm map.consumers.values then
    some { s with pool := s.pool.applyCluster dial consumers, applied := some map, pc }
  else none

def step [UuidCrate] (s : PoolSync Channel) : Event Channel → Option (PoolSync Channel)
  | .driver e => (s.loop.step e).map fun loop => { s with loop }
  | .borrow =>
    match s.pc with
    | .joined => some { s with pc := .seeding s.currentMap }
    | _ => none
  | .apply dial consumers =>
    match s.pc with
    | .seeding map => s.applyMap map dial consumers .seeded
    | .applying cluster map => s.applyMap map dial consumers (.waiting cluster)
    | _ => none
  | .spawn =>
    match s.pc with
    | .seeded => some { s with pc := .waiting s.cluster }
    | _ => none
  | .changed =>
    match s.pc with
    | .waiting cluster =>
      match cluster.changed s.published with
      | some cluster => some { s with pc := .woken cluster }
      -- the sender is gone with the driver, and `changed` fails
      | none => if s.loop.gone then some { s with pc := .stopped } else none
    | _ => none
  | .borrowAndUpdate =>
    match s.pc with
    | .woken _ =>
      let (map, cluster) := Watch.Receiver.borrowAndUpdate .empty s.published
      some { s with pc := .applying cluster map }
    | _ => none
  | .abort =>
    match s.pc with
    | .waiting _ | .woken _ | .applying _ _ => some { s with pc := .stopped }
    | _ => none

def machine [UuidCrate] : Machine (PoolSync Channel) (Event Channel) where
  init s := ∃ pool, s = initial pool
  step := step

/-! ## What is applied, or about to be -/

/-- The receiver has seen nothing newer than the map that is applied or about to be. -/
def Synced (s : PoolSync Channel) : Prop :=
  let fresh (cluster : Watch.Receiver) (map : ClusterMap) : Prop :=
    Watch.Fresh .empty s.published cluster map
  s.cluster = .new ∧
    match s.pc with
    | .joined | .woken _ | .stopped => True
    | .seeding map => fresh s.cluster map
    | .seeded => ∃ map, s.applied = some map ∧ fresh s.cluster map
    | .waiting cluster => ∃ map, s.applied = some map ∧ fresh cluster map
    | .applying cluster map => fresh cluster map

/-- **The updater misses no map**: where it waits with nothing unseen, the last map applied is the
current one. -/
def PoolCurrent (s : PoolSync Channel) : Prop :=
  ∀ cluster, s.pc = .waiting cluster → cluster.UpToDate s.published →
    s.applied = some s.currentMap

theorem Synced.initial (pool : ConnectionPool Channel) : Synced (initial pool) := ⟨rfl, trivial⟩

theorem Synced.poolCurrent {s : PoolSync Channel} (h : Synced s) : PoolCurrent s := by
  intro cluster hpc hup
  obtain ⟨-, h⟩ := h
  rw [hpc] at h
  obtain ⟨map, happlied, hfresh⟩ := h
  rw [happlied, hfresh.current hup, currentMap]

/-- What was published stays so while the driver goes on. -/
theorem Synced.publish {s : PoolSync Channel} (h : Synced s) {loop : Loop} {new : List ClusterMap}
    (hnew : Effect.published loop.done = s.published ++ new) : Synced { s with loop } := by
  obtain ⟨hcluster, h⟩ := h
  refine ⟨hcluster, ?_⟩
  have hpublished : published { s with loop } = s.published ++ new := hnew
  simp only [hpublished]
  split at h
  · trivial
  · trivial
  · trivial
  · exact h.send new
  · obtain ⟨map, happlied, hfresh⟩ := h
    exact ⟨map, happlied, hfresh.send new⟩
  · obtain ⟨map, happlied, hfresh⟩ := h
    exact ⟨map, happlied, hfresh.send new⟩
  · exact h.send new

/-- A call of `apply_cluster` applies the map it was given. -/
theorem applyMap_eq_some {s t : PoolSync Channel} {map : ClusterMap} {dial : Dial Channel}
    {consumers : List ConsumerEntry} {pc : Pc} (h : s.applyMap map dial consumers pc = some t) :
    t = { s with pool := s.pool.applyCluster dial consumers, applied := some map, pc } := by
  unfold applyMap at h
  split at h
  · exact (Option.some.inj h).symm
  · cases h

section
variable [UuidCrate]

/-- **The step lemma.** -/
theorem Synced.step {s t : PoolSync Channel} {e : Event Channel} (h : Synced s)
    (hst : s.step e = some t) : Synced t := by
  have hcluster := h.1
  cases e with
  | driver e =>
    obtain ⟨loop, hloop, rfl⟩ := Option.map_eq_some_iff.1 hst
    have hnew : Effect.published loop.done = s.published ++ Effect.published (s.loop.carried e) := by
      rw [Loop.done_step hloop]
      exact List.filterMap_append ..
    exact h.publish hnew
  | borrow =>
    simp only [PoolSync.step] at hst
    split at hst
    · cases hst
      refine ⟨hcluster, .borrow ?_⟩
      rw [hcluster]
      exact Nat.zero_le _
    · cases hst
  | apply dial consumers =>
    simp only [PoolSync.step] at hst
    split at hst
    · next map hpc =>
      obtain rfl := applyMap_eq_some hst
      obtain ⟨-, h⟩ := h
      rw [hpc] at h
      exact ⟨hcluster, map, rfl, h⟩
    · next cluster map hpc =>
      obtain rfl := applyMap_eq_some hst
      obtain ⟨-, h⟩ := h
      rw [hpc] at h
      exact ⟨hcluster, map, rfl, h⟩
    · cases hst
  | spawn =>
    simp only [PoolSync.step] at hst
    split at hst
    · next hpc =>
      cases hst
      obtain ⟨-, h⟩ := h
      rw [hpc] at h
      exact ⟨hcluster, h⟩
    · cases hst
  | changed =>
    simp only [PoolSync.step] at hst
    split at hst
    · split at hst
      · cases hst
        exact ⟨hcluster, trivial⟩
      · split at hst
        · cases hst
          exact ⟨hcluster, trivial⟩
        · cases hst
    · cases hst
  | borrowAndUpdate =>
    simp only [PoolSync.step] at hst
    split at hst
    · cases hst
      exact ⟨hcluster, .borrow (Nat.le_refl _)⟩
    · cases hst
  | abort =>
    simp only [PoolSync.step] at hst
    split at hst
    · cases hst; exact ⟨hcluster, trivial⟩
    · cases hst; exact ⟨hcluster, trivial⟩
    · cases hst; exact ⟨hcluster, trivial⟩
    · cases hst

/-- **The pool never misses a cluster update.** In every run of the driver, `build` and the updater,
whatever is published before, between and during their steps, the last map applied is the current
one whenever the updater waits with nothing unseen. -/
theorem pool_current (pool : ConnectionPool Channel) (es : List (Event Channel)) :
    machine.Always PoolCurrent (initial pool) es :=
  (Machine.always_of_invariant (fun _ _ _ h hst => h.step hst) (Synced.initial pool) es).mono
    fun _ h => h.poolCurrent

end

end PoolSync

end Splitter
