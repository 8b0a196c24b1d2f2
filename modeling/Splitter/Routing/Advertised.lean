import Splitter.Routing.Pool

/-!
# The pool and the advertised peers

What one call of `apply_cluster` leaves for each identifier: nothing for one that is not advertised,
the old entry for one that is connected already, and what the dial makes of the old entry for any
other (`lookup_applyCluster_kept`, `lookup_applyCluster_dialed`). A peer that cannot be dialed keeps
the entry it has, whatever endpoint that was dialed for; so the pool is what the map advertises
exactly where no redial fails (`exact_iff`).
-/

namespace Splitter

variable {Channel : Type}

namespace ConnectionPool

/-- The map advertises an endpoint of another consumer. -/
def Advertises (self : ConnectionPool Channel) (map : ClusterMap) (id : InstanceId)
    (endpoint : Endpoint) : Prop :=
  id ≠ self.selfId ∧ endpoint.str ≠ "" ∧
    ∃ c, map.consumers.lookup id = some c ∧ c.consumer.endpoint = endpoint

/-- The calls of the dial function that `apply_cluster` makes, in order. -/
def calls (self : ConnectionPool Channel) (consumers : List ConsumerEntry) :
    List (InstanceId × Endpoint) :=
  (self.scan consumers).toAdd ++ (self.scan consumers).toRebuild

/-! ## One call -/

/-- A map advertises one endpoint for an identifier. -/
theorem Advertises.unique {self : ConnectionPool Channel} {map : ClusterMap} {id : InstanceId}
    {endpoint endpoint' : Endpoint} (h : self.Advertises map id endpoint)
    (h' : self.Advertises map id endpoint') : endpoint = endpoint' := by
  obtain ⟨-, -, c, hc, rfl⟩ := h
  obtain ⟨-, -, c', hc', rfl⟩ := h'
  rw [hc] at hc'
  cases hc'
  rfl

section
variable {map : ClusterMap} {consumers : List ConsumerEntry} (hfiled : map.Filed)
  (hperm : consumers.Perm map.consumers.values)
include hfiled hperm

/-- What the map advertises is what the loop over its consumers finds. -/
theorem advertises_iff (self : ConnectionPool Channel) (id : InstanceId) (endpoint : Endpoint) :
    self.Advertises map id endpoint ↔
      ∃ c ∈ consumers, self.IsPeer c ∧ (c.consumer.id, c.consumer.endpoint) = (id, endpoint) := by
  constructor
  · rintro ⟨hne, hendpoint, c, hc, rfl⟩
    obtain rfl := hfiled id c hc
    exact ⟨c, hperm.mem_iff.2 (AList.mem_values.2 ⟨_, hc⟩), ⟨hne, hendpoint⟩, rfl⟩
  · rintro ⟨c, hc, hpeer, heq⟩
    cases heq
    obtain ⟨k, hk⟩ := AList.mem_values.1 (hperm.mem_iff.1 hc)
    obtain rfl := hfiled k c hk
    exact ⟨hpeer.1, hpeer.2, c, hk, rfl⟩

/-- The peers that are dialed: those advertised at an endpoint they have no channel for. -/
theorem mem_calls (self : ConnectionPool Channel) (id : InstanceId) (endpoint : Endpoint) :
    (id, endpoint) ∈ self.calls consumers ↔
      self.Advertises map id endpoint ∧ ¬ self.Connected id endpoint := by
  rw [advertises_iff hfiled hperm]
  refine ((mem_scan self consumers).2 (id, endpoint)).trans ?_
  constructor
  · rintro ⟨c, hc, hpeer, heq, hnot⟩
    exact ⟨⟨c, hc, hpeer, heq⟩, hnot⟩
  · rintro ⟨⟨c, hc, hpeer, heq⟩, hnot⟩
    exact ⟨c, hc, hpeer, heq, hnot⟩

/-- A peer that is advertised is seen, so what the dials leave of it stays. -/
theorem lookup_applyCluster_of_advertises {self : ConnectionPool Channel} {id : InstanceId}
    {endpoint : Endpoint} (dial : Dial Channel) (h : self.Advertises map id endpoint) :
    (self.applyCluster dial consumers).entries.lookup id =
      ((self.calls consumers).foldl (dialPeer dial) self).entries.lookup id := by
  obtain ⟨c, hc, hpeer, heq⟩ := (advertises_iff hfiled hperm self id endpoint).1 h
  have hseen : id ∈ (self.scan consumers).seen :=
    ((mem_scan self consumers).1 id).2 ⟨c, hc, hpeer, congrArg Prod.fst heq⟩
  rw [applyCluster_eq]
  simp only [retainSeen, AList.lookup_retain]
  rw [if_pos (decide_eq_true hseen)]
  rfl

/-- A peer that has a channel at its endpoint is not dialed and keeps its entry. -/
theorem lookup_applyCluster_kept {self : ConnectionPool Channel} {id : InstanceId}
    {endpoint : Endpoint} (dial : Dial Channel) (h : self.Advertises map id endpoint)
    (hconn : self.Connected id endpoint) :
    (self.applyCluster dial consumers).entries.lookup id = self.entries.lookup id ∧
      ∀ p ∈ self.calls consumers, p.1 ≠ id := by
  have hcalls : ∀ p ∈ self.calls consumers, p.1 ≠ id := by
    rintro ⟨k, other⟩ hp rfl
    obtain ⟨hother, hnot⟩ := (mem_calls hfiled hperm self _ other).1 hp
    rw [hother.unique h] at hnot
    exact hnot hconn
  rw [lookup_applyCluster_of_advertises hfiled hperm dial h]
  exact ⟨lookup_dialPeers_of_notMem hcalls, hcalls⟩

/-- Any other advertised peer is dialed. -/
theorem lookup_applyCluster_dialed {self : ConnectionPool Channel} {id : InstanceId}
    {endpoint : Endpoint} (dial : Dial Channel) (h : self.Advertises map id endpoint)
    (hconn : ¬ self.Connected id endpoint) :
    (self.applyCluster dial consumers).entries.lookup id = self.redialed dial id endpoint := by
  have hone : ∀ p ∈ self.calls consumers, p.1 = id → p.2 = endpoint := by
    rintro ⟨k, other⟩ hp rfl
    exact ((mem_calls hfiled hperm self _ other).1 hp).1.unique h
  rw [lookup_applyCluster_of_advertises hfiled hperm dial h]
  exact lookup_dialPeers_of_mem hone ((mem_calls hfiled hperm self id endpoint).2 ⟨h, hconn⟩)

/-- An identifier with an entry after a call is advertised. -/
theorem advertised_of_lookup {self : ConnectionPool Channel} {dial : Dial Channel}
    {id : InstanceId} {e : PoolEntry Channel}
    (h : (self.applyCluster dial consumers).entries.lookup id = some e) :
    ∃ endpoint, self.Advertises map id endpoint := by
  by_contra hnone
  rw [lookup_applyCluster_none] at h
  · cases h
  · intro c hc hid hpeer
    refine hnone ⟨c.consumer.endpoint, (advertises_iff hfiled hperm self _ _).2 ⟨c, hc, hpeer, ?_⟩⟩
    rw [hid]

end

/-! ## The advertised peers -/

/-- The pool after a call has exactly the peers the map advertises, each at the endpoint it is
advertised at and dialed for it; a peer that had a channel at that endpoint keeps it. -/
structure Exact (pool : ConnectionPool Channel) (map : ClusterMap) (dial : Dial Channel)
    (consumers : List ConsumerEntry) : Prop where
  only : ∀ id e, (pool.applyCluster dial consumers).entries.lookup id = some e →
    pool.Advertises map id e.endpoint ∧
      (e.endpoint, .ok e.channel) ∈ (pool.applyCluster dial consumers).dialed
  every : ∀ id endpoint, pool.Advertises map id endpoint →
    (dial id endpoint).isOk = true ∨ pool.Connected id endpoint →
      ((pool.applyCluster dial consumers).entries.lookup id).isSome = true
  kept : ∀ id e, pool.entries.lookup id = some e → pool.Advertises map id e.endpoint →
    (pool.applyCluster dial consumers).entries.lookup id = some e ∧
      ∀ p ∈ pool.calls consumers, p.1 ≠ id

/-- A peer of the pool that the map advertises at another endpoint can be dialed there. -/
def Redials (self : ConnectionPool Channel) (map : ClusterMap) (dial : Dial Channel) : Prop :=
  ∀ id e endpoint, self.entries.lookup id = some e → self.Advertises map id endpoint →
    e.endpoint ≠ endpoint → (dial id endpoint).isOk = true

/-- **The advertised peers.** Whatever the pool was given before, and whatever dials failed, a call
leaves it with exactly the peers the map advertises if and only if no redial of a peer whose
endpoint has changed fails. -/
theorem exact_iff {selfId : InstanceId} {applies : List (Apply Channel)}
    {pool : ConnectionPool Channel}
    (hrun : (machine selfId).run (new selfId) applies = some pool) {map : ClusterMap}
    (hfiled : map.Filed) (dial : Dial Channel) {consumers : List ConsumerEntry}
    (hperm : consumers.Perm map.consumers.values) :
    pool.Exact map dial consumers ↔ pool.Redials map dial := by
  constructor
  · intro hexact id e endpoint he hadv hne
    cases hdial : dial id endpoint with
    | ok channel => rfl
    | error err =>
      -- the entry that the failed dial leaves is advertised at the endpoint it was dialed for
      have hconn : ¬ pool.Connected id endpoint := by
        rintro ⟨e', he', hendpoint⟩
        rw [he] at he'
        cases he'
        exact hne hendpoint
      have hstale := lookup_applyCluster_dialed hfiled hperm dial hadv hconn
      rw [redialed, hdial] at hstale
      have honly := (hexact.only id e (hstale.trans he)).1
      exact absurd (honly.unique hadv) hne
  · intro hredials
    have hsourced := (run_sourced hrun).1.applyCluster dial consumers
    refine ⟨fun id e he => ⟨?_, hsourced id e he⟩, fun id endpoint hadv hor => ?_,
      fun id e he hadv => ?_⟩
    · obtain ⟨endpoint, hadv⟩ := advertised_of_lookup hfiled hperm he
      by_cases hconn : pool.Connected id endpoint
      · obtain ⟨old, hold, rfl⟩ := hconn
        have hkept := (lookup_applyCluster_kept hfiled hperm dial hadv ⟨old, hold, rfl⟩).1
        rw [he, hold] at hkept
        cases hkept
        exact hadv
      · rw [lookup_applyCluster_dialed hfiled hperm dial hadv hconn, redialed] at he
        split at he
        · cases he
          exact hadv
        · next hdial =>
          have hok := hredials id e endpoint he hadv fun heq => hconn ⟨e, he, heq⟩
          rw [hdial] at hok
          cases hok
    · by_cases hconn : pool.Connected id endpoint
      · rw [(lookup_applyCluster_kept hfiled hperm dial hadv hconn).1]
        obtain ⟨old, hold, -⟩ := hconn
        rw [hold]
        rfl
      · have hok := hor.resolve_right hconn
        rw [lookup_applyCluster_dialed hfiled hperm dial hadv hconn, redialed]
        split
        · rfl
        · next hdial =>
          rw [hdial] at hok
          cases hok
    · obtain ⟨hlookup, hcalls⟩ := lookup_applyCluster_kept hfiled hperm dial hadv ⟨e, he, rfl⟩
      exact ⟨hlookup.trans he, hcalls⟩

/-! ## A peer that moves -/

/-- A cluster of one consumer, with its endpoint. -/
def peerAt (endpoint : String) : ClusterMap :=
  { ClusterMap.empty with
    consumers := AList.insert ⟨⟨11⟩⟩
      { consumer :=
          { id := ⟨⟨11⟩⟩, location := { region := ⟨""⟩, node := ⟨""⟩ }, name := ⟨""⟩
            created := SystemTime.unixEpoch, endpoint := ⟨endpoint⟩ }
        grants := [] } ∅ }

theorem peerAt_filed (endpoint : String) : (peerAt endpoint).Filed := by
  intro c entry hc
  replace hc := (AList.lookup_insert_ite _ _ _ _).symm.trans hc
  split at hc
  · next heq =>
    cases hc
    exact heq.symm
  · cases hc

/-- A dial that names the endpoint, except where there is nothing to reach. -/
def dialNamed : Dial String :=
  fun _ endpoint => if endpoint.str = "b:1" then .error (.transportSetup "") else .ok endpoint.str

/-- The pool of another consumer is given the peer at its first endpoint. -/
def peerApplies : List (Apply String) :=
  [{ map := peerAt "a:1", consumers := (peerAt "a:1").consumers.values, dial := dialNamed }]

/-- A peer that moves to an endpoint that can be dialed is followed there. -/
theorem exact_moved :
    ∃ pool, (machine ⟨⟨10⟩⟩).run (new ⟨⟨10⟩⟩) peerApplies = some pool ∧
      pool.Exact (peerAt "c:1") dialNamed (peerAt "c:1").consumers.values := by
  have hrun : (machine ⟨⟨10⟩⟩).run (new ⟨⟨10⟩⟩) peerApplies = some _ := rfl
  refine ⟨_, hrun, (exact_iff hrun (peerAt_filed _) dialNamed (List.Perm.refl _)).2 ?_⟩
  rintro id e endpoint - ⟨-, -, c, hc, rfl⟩ -
  replace hc := (AList.lookup_insert_ite _ _ _ _).symm.trans hc
  split at hc
  · cases hc
    rfl
  · cases hc

/-- A peer that moves to an endpoint that cannot be dialed keeps the channel to the old one. -/
theorem moved_not_exact :
    ∃ pool, (machine ⟨⟨10⟩⟩).run (new ⟨⟨10⟩⟩) peerApplies = some pool ∧
      (peerAt "b:1").Filed ∧
      ¬ pool.Exact (peerAt "b:1") dialNamed (peerAt "b:1").consumers.values := by
  have hrun : (machine ⟨⟨10⟩⟩).run (new ⟨⟨10⟩⟩) peerApplies = some _ := rfl
  refine ⟨_, hrun, peerAt_filed _, fun hexact => ?_⟩
  obtain ⟨⟨-, -, c, hc, hendpoint⟩, -⟩ := hexact.only ⟨⟨11⟩⟩ _ rfl
  cases hc
  exact absurd hendpoint (by decide)

end ConnectionPool

end Splitter
