import Splitter.Cluster.Lookup

/-!
# The connection pool

`pool.rs`: a channel for every other consumer of the cluster that advertises an endpoint.
`applyCluster` brings the channels in step with a cluster map. Dialing is the user's function: what
a call of `applyCluster` gets from it is an argument, by peer, since a call dials a peer at most
once.

Where every dial succeeds, a call leaves exactly the peers with a channel, each dialed for the
endpoint it is recorded with (`connected_applyCluster`, `lookup_applyCluster_none`).
-/

namespace Splitter

variable {Channel : Type}

structure PoolEntry (Channel : Type) where
  endpoint : Endpoint
  channel : Channel

/-- The pool. `dialed` is bookkeeping for statements about what was dialed, and nothing reads it. -/
structure ConnectionPool (Channel : Type) where
  selfId : InstanceId
  entries : HashMap InstanceId (PoolEntry Channel)
  dialed : List (Endpoint × Except ClientError Channel)

/-- What a user's dial function returns for a peer and its endpoint. -/
abbrev Dial (Channel : Type) := InstanceId → Endpoint → Except ClientError Channel

namespace ConnectionPool

/-- `ConnectionPool::new`. -/
def new (selfId : InstanceId) : ConnectionPool Channel := { selfId, entries := ∅, dialed := [] }

/-- `ConnectionPool::resolve`. -/
def resolve (self : ConnectionPool Channel) (id : InstanceId) : Except ClientError Channel :=
  if id = self.selfId then .error .noResolution
  else
    match self.entries.lookup id with
    | some e => .ok e.channel
    | none => .error .noResolution

/-- What `apply_cluster` collects from the consumers. -/
structure Scan where
  seen : List InstanceId
  toAdd : List (InstanceId × Endpoint)
  toRebuild : List (InstanceId × Endpoint)

/-- One iteration of the first loop of `apply_cluster`. -/
def scanConsumer (self : ConnectionPool Channel) (s : Scan) (consumer : ConsumerEntry) : Scan :=
  let id := consumer.consumer.id
  let endpoint := consumer.consumer.endpoint
  if id = self.selfId then s
  else if endpoint.str = "" then s
  else
    let s := { s with seen := s.seen ++ [id] }
    match self.entries.lookup id with
    | some existing =>
      if existing.endpoint = endpoint then s
      else { s with toRebuild := s.toRebuild ++ [(id, endpoint)] }
    | none => { s with toAdd := s.toAdd ++ [(id, endpoint)] }

/-- The first loop of `apply_cluster`. -/
def scan (self : ConnectionPool Channel) (consumers : List ConsumerEntry) : Scan :=
  consumers.foldl self.scanConsumer { seen := [], toAdd := [], toRebuild := [] }

/-- One iteration of the second loop: a peer that cannot be dialed is skipped with a warning. -/
def dialPeer (dial : Dial Channel) (self : ConnectionPool Channel)
    (peer : InstanceId × Endpoint) : ConnectionPool Channel :=
  let result := dial peer.1 peer.2
  { self with
    entries :=
      match result with
      | .ok channel => self.entries.insert peer.1 { endpoint := peer.2, channel }
      | .error _ => self.entries
    dialed := self.dialed ++ [(peer.2, result)] }

/-- `entries.retain(|id, _| seen.contains(id))`. -/
def retainSeen (self : ConnectionPool Channel) (seen : List InstanceId) :
    ConnectionPool Channel :=
  { self with entries := self.entries.retain fun id => decide (id ∈ seen) }

/-- `apply_cluster`, on the consumers in the enumeration order of the map. -/
def applyCluster (self : ConnectionPool Channel) (dial : Dial Channel)
    (consumers : List ConsumerEntry) : ConnectionPool Channel :=
  let s := self.scan consumers
  if s.toAdd.isEmpty ∧ s.toRebuild.isEmpty then self.retainSeen s.seen
  else ((s.toAdd ++ s.toRebuild).foldl (dialPeer dial) self).retainSeen s.seen

/-- The way out with nothing to dial does what the dials would. -/
theorem applyCluster_eq (self : ConnectionPool Channel) (dial : Dial Channel)
    (consumers : List ConsumerEntry) :
    self.applyCluster dial consumers =
      (((self.scan consumers).toAdd ++ (self.scan consumers).toRebuild).foldl (dialPeer dial)
        self).retainSeen (self.scan consumers).seen := by
  simp only [applyCluster]
  split
  · next hnone =>
    rw [List.isEmpty_iff.1 hnone.1, List.isEmpty_iff.1 hnone.2]
    rfl
  · rfl

/-! ## The scan -/

/-- The consumer is another one that advertises an endpoint. -/
def IsPeer (self : ConnectionPool Channel) (consumer : ConsumerEntry) : Prop :=
  consumer.consumer.id ≠ self.selfId ∧ consumer.consumer.endpoint.str ≠ ""

/-- The pool has a channel for the peer at the endpoint. -/
def Connected (self : ConnectionPool Channel) (id : InstanceId) (endpoint : Endpoint) : Prop :=
  ∃ e, self.entries.lookup id = some e ∧ e.endpoint = endpoint

/-- What one consumer adds to the scan. -/
theorem mem_scanConsumer (self : ConnectionPool Channel) (s : Scan) (c : ConsumerEntry) :
    (∀ id, id ∈ (self.scanConsumer s c).seen ↔
      id ∈ s.seen ∨ self.IsPeer c ∧ c.consumer.id = id) ∧
    ∀ p, p ∈ (self.scanConsumer s c).toAdd ++ (self.scanConsumer s c).toRebuild ↔
      p ∈ s.toAdd ++ s.toRebuild ∨ self.IsPeer c ∧ (c.consumer.id, c.consumer.endpoint) = p ∧
        ¬ self.Connected p.1 p.2 := by
  unfold scanConsumer
  by_cases hself : c.consumer.id = self.selfId
  · simp [IsPeer, hself]
  by_cases hempty : c.consumer.endpoint.str = ""
  · simp [IsPeer, hself, hempty]
  have hpeer : self.IsPeer c := ⟨hself, hempty⟩
  simp only [if_neg hself, if_neg hempty, hpeer, true_and]
  cases hlookup : self.entries.lookup c.consumer.id with
  | none =>
    refine ⟨fun id => by simp [eq_comm], fun p => ?_⟩
    have hnot : (c.consumer.id, c.consumer.endpoint) = p → ¬ self.Connected p.1 p.2 := by
      rintro rfl ⟨e, he, -⟩
      rw [hlookup] at he
      cases he
    rw [and_iff_left_of_imp hnot]
    simp only [List.mem_append, List.mem_singleton]
    rw [or_right_comm, eq_comm]
  | some existing =>
    by_cases heq : existing.endpoint = c.consumer.endpoint
    · refine ⟨fun id => by simp [heq, eq_comm], fun p => ?_⟩
      simp only [if_pos heq]
      rw [or_iff_left]
      rintro ⟨rfl, hnot⟩
      exact hnot ⟨existing, hlookup, heq⟩
    · refine ⟨fun id => by simp [heq, eq_comm], fun p => ?_⟩
      have hnot : (c.consumer.id, c.consumer.endpoint) = p → ¬ self.Connected p.1 p.2 := by
        rintro rfl ⟨e, he, hendpoint⟩
        rw [hlookup] at he
        cases he
        exact heq hendpoint
      rw [and_iff_left_of_imp hnot]
      simp only [if_neg heq, List.mem_append, List.mem_singleton]
      rw [or_assoc, eq_comm]

/-- **The scan.** The peers are seen, and those without a channel at their endpoint are dialed. -/
theorem mem_scan (self : ConnectionPool Channel) (consumers : List ConsumerEntry) :
    (∀ id, id ∈ (self.scan consumers).seen ↔
      ∃ c ∈ consumers, self.IsPeer c ∧ c.consumer.id = id) ∧
    ∀ p, p ∈ (self.scan consumers).toAdd ++ (self.scan consumers).toRebuild ↔
      ∃ c ∈ consumers, self.IsPeer c ∧ (c.consumer.id, c.consumer.endpoint) = p ∧
        ¬ self.Connected p.1 p.2 := by
  suffices h : ∀ s : Scan,
      (∀ id, id ∈ (consumers.foldl self.scanConsumer s).seen ↔
        id ∈ s.seen ∨ ∃ c ∈ consumers, self.IsPeer c ∧ c.consumer.id = id) ∧
      ∀ p, p ∈ (consumers.foldl self.scanConsumer s).toAdd ++
          (consumers.foldl self.scanConsumer s).toRebuild ↔
        p ∈ s.toAdd ++ s.toRebuild ∨
          ∃ c ∈ consumers, self.IsPeer c ∧ (c.consumer.id, c.consumer.endpoint) = p ∧
            ¬ self.Connected p.1 p.2 by
    simpa [scan] using h { seen := [], toAdd := [], toRebuild := [] }
  induction consumers with
  | nil => intro s; simp
  | cons c consumers ih =>
    intro s
    obtain ⟨hseen, hdial⟩ := ih (self.scanConsumer s c)
    obtain ⟨hseen', hdial'⟩ := mem_scanConsumer self s c
    refine ⟨fun id => ?_, fun p => ?_⟩
    · rw [List.foldl_cons, hseen, hseen', or_assoc]
      simp
    · rw [List.foldl_cons, hdial, hdial', or_assoc]
      simp

/-! ## The dials -/

/-- Every dial so far has succeeded. -/
def AllDialed (self : ConnectionPool Channel) : Prop := ∀ d ∈ self.dialed, d.2.isOk = true

/-- Every channel of the pool was dialed for the endpoint it is filed with. -/
def Sourced (self : ConnectionPool Channel) : Prop :=
  ∀ id e, self.entries.lookup id = some e → (e.endpoint, .ok e.channel) ∈ self.dialed

theorem Sourced.new (selfId : InstanceId) : (new selfId : ConnectionPool Channel).Sourced :=
  fun _ _ h => by cases h

theorem Sourced.dialPeer {self : ConnectionPool Channel} (h : self.Sourced) (dial : Dial Channel)
    (peer : InstanceId × Endpoint) : (self.dialPeer dial peer).Sourced := by
  intro id e he
  simp only [ConnectionPool.dialPeer] at he ⊢
  cases hd : dial peer.1 peer.2 with
  | error err =>
    rw [hd] at he
    exact List.mem_append_left _ (h id e he)
  | ok channel =>
    simp only [hd, AList.lookup_insert_ite] at he
    split at he
    · cases he
      exact List.mem_append_right _ (List.mem_singleton.2 rfl)
    · exact List.mem_append_left _ (h id e he)

theorem Sourced.retainSeen {self : ConnectionPool Channel} (h : self.Sourced)
    (seen : List InstanceId) : (self.retainSeen seen).Sourced := by
  intro id e he
  simp only [ConnectionPool.retainSeen, AList.lookup_retain] at he
  split at he
  · exact h id e he
  · cases he

/-- A call keeps the channels sourced. -/
theorem Sourced.applyCluster {self : ConnectionPool Channel} (h : self.Sourced)
    (dial : Dial Channel) (consumers : List ConsumerEntry) :
    (self.applyCluster dial consumers).Sourced := by
  rw [applyCluster_eq]
  exact (List.foldl_invariant (fun _ peer hs => hs.dialPeer dial peer) h).retainSeen _

/-- The dial function is called once for each of the peers. -/
theorem dialed_dialPeers (dial : Dial Channel) (self : ConnectionPool Channel)
    (peers : List (InstanceId × Endpoint)) :
    (peers.foldl (dialPeer dial) self).dialed =
      self.dialed ++ peers.map fun p => (p.2, dial p.1 p.2) := by
  induction peers generalizing self with
  | nil => exact (List.append_nil _).symm
  | cons p peers ih =>
    rw [List.foldl_cons, ih, List.map_cons, ← List.singleton_append, ← List.append_assoc]
    rfl

/-- The entry of a peer once it is dialed. -/
def redialed (self : ConnectionPool Channel) (dial : Dial Channel) (id : InstanceId)
    (endpoint : Endpoint) : Option (PoolEntry Channel) :=
  match dial id endpoint with
  | .ok channel => some { endpoint, channel }
  | .error _ => self.entries.lookup id

theorem lookup_dialPeer (self : ConnectionPool Channel) (dial : Dial Channel)
    (p : InstanceId × Endpoint) (id : InstanceId) :
    (self.dialPeer dial p).entries.lookup id =
      if id = p.1 then self.redialed dial p.1 p.2 else self.entries.lookup id := by
  rcases hdial : dial p.1 p.2 with err | channel
  · simp only [dialPeer, redialed, hdial]
    split
    · next hid => rw [hid]
    · rfl
  · simp only [dialPeer, redialed, hdial]
    exact AList.lookup_insert_ite _ _ _ _

/-- A peer that is not dialed keeps its entry. -/
theorem lookup_dialPeers_of_notMem {dial : Dial Channel} {self : ConnectionPool Channel}
    {peers : List (InstanceId × Endpoint)} {id : InstanceId} (h : ∀ p ∈ peers, p.1 ≠ id) :
    (peers.foldl (dialPeer dial) self).entries.lookup id = self.entries.lookup id := by
  induction peers generalizing self with
  | nil => rfl
  | cons p peers ih =>
    have hne : id ≠ p.1 := (h p (List.mem_cons_self ..)).symm
    rw [List.foldl_cons, ih fun q hq => h q (List.mem_cons_of_mem _ hq), lookup_dialPeer,
      if_neg hne]

/-- A peer that is dialed for one endpoint at most, and not for that, is not dialed. -/
theorem fst_ne_of_notMem {peers : List (InstanceId × Endpoint)} {id : InstanceId}
    {endpoint : Endpoint} (hone : ∀ p ∈ peers, p.1 = id → p.2 = endpoint)
    (h : (id, endpoint) ∉ peers) : ∀ p ∈ peers, p.1 ≠ id := by
  rintro ⟨pid, pendpoint⟩ hp rfl
  obtain rfl : pendpoint = endpoint := hone _ hp rfl
  exact h hp

/-- A peer that is dialed for one endpoint only has what that dial makes of its entry. -/
theorem lookup_dialPeers_of_mem {dial : Dial Channel} {self : ConnectionPool Channel}
    {peers : List (InstanceId × Endpoint)} {id : InstanceId} {endpoint : Endpoint}
    (hone : ∀ p ∈ peers, p.1 = id → p.2 = endpoint) (h : (id, endpoint) ∈ peers) :
    (peers.foldl (dialPeer dial) self).entries.lookup id = self.redialed dial id endpoint := by
  induction peers generalizing self with
  | nil => cases h
  | cons p peers ih =>
    have hone' : ∀ q ∈ peers, q.1 = id → q.2 = endpoint :=
      fun q hq => hone q (List.mem_cons_of_mem _ hq)
    rw [List.foldl_cons]
    by_cases hid : id = p.1
    · have hp : self.redialed dial p.1 p.2 = self.redialed dial id endpoint := by
        rw [← hid, hone p (List.mem_cons_self ..) hid.symm]
      have hfirst : (self.dialPeer dial p).entries.lookup id = self.redialed dial id endpoint := by
        rw [lookup_dialPeer, if_pos hid, hp]
      by_cases hmem : (id, endpoint) ∈ peers
      · rw [ih hone' hmem]
        unfold redialed at hfirst ⊢
        split
        · rfl
        · next hdial =>
          rw [hdial] at hfirst
          exact hfirst
      · rw [lookup_dialPeers_of_notMem (fst_ne_of_notMem hone' hmem), hfirst]
    · have hmem : (id, endpoint) ∈ peers := by
        refine (List.mem_cons.1 h).resolve_left fun heq => hid ?_
        exact congrArg Prod.fst heq
      rw [ih hone' hmem, redialed, redialed, lookup_dialPeer, if_neg hid]

/-- Where every dial succeeds, a peer that is dialed for one endpoint only, or that has it already,
is connected to it afterwards. -/
theorem connected_dialPeers {dial : Dial Channel} {self : ConnectionPool Channel}
    {peers : List (InstanceId × Endpoint)} {id : InstanceId} {endpoint : Endpoint}
    (hone : ∀ p ∈ peers, p.1 = id → p.2 = endpoint)
    (hok : (peers.foldl (dialPeer dial) self).AllDialed)
    (h : self.Connected id endpoint ∨ (id, endpoint) ∈ peers) :
    (peers.foldl (dialPeer dial) self).Connected id endpoint := by
  unfold Connected
  by_cases hmem : (id, endpoint) ∈ peers
  · have hresult : (dial id endpoint).isOk = true := by
      refine hok (endpoint, dial id endpoint) ?_
      rw [dialed_dialPeers]
      exact List.mem_append_right _ (List.mem_map_of_mem hmem)
    rw [lookup_dialPeers_of_mem hone hmem, redialed]
    cases hd : dial id endpoint with
    | error err =>
      rw [hd] at hresult
      cases hresult
    | ok channel => exact ⟨_, rfl, rfl⟩
  · rw [lookup_dialPeers_of_notMem (fst_ne_of_notMem hone hmem)]
    exact h.resolve_right hmem

/-! ## What a call leaves behind -/

/-- A call leaves the pool with the identifier it has. -/
theorem selfId_applyCluster (self : ConnectionPool Channel) (dial : Dial Channel)
    (consumers : List ConsumerEntry) :
    (self.applyCluster dial consumers).selfId = self.selfId := by
  rw [applyCluster_eq]
  exact List.foldl_invariant (f := dialPeer dial) (P := fun s => s.selfId = self.selfId)
    (fun _ _ hs => hs) rfl

/-- **A call of `apply_cluster`.** If every dial succeeds and every consumer has one entry, each
peer is connected to its endpoint. -/
theorem connected_applyCluster {self : ConnectionPool Channel} {dial : Dial Channel}
    {consumers : List ConsumerEntry} (hok : (self.applyCluster dial consumers).AllDialed)
    (hone : ∀ c ∈ consumers, ∀ c' ∈ consumers, c.consumer.id = c'.consumer.id → c = c')
    {c : ConsumerEntry} (hc : c ∈ consumers) (hpeer : self.IsPeer c) :
    (self.applyCluster dial consumers).Connected c.consumer.id c.consumer.endpoint := by
  obtain ⟨hseen, hdial⟩ := mem_scan self consumers
  rw [applyCluster_eq] at hok ⊢
  have hone' : ∀ p ∈ (self.scan consumers).toAdd ++ (self.scan consumers).toRebuild,
      p.1 = c.consumer.id → p.2 = c.consumer.endpoint := by
    intro p hp hid
    obtain ⟨c', hc', -, rfl, -⟩ := (hdial p).1 hp
    rw [hone c' hc' c hc hid]
  have hsource : self.Connected c.consumer.id c.consumer.endpoint ∨
      (c.consumer.id, c.consumer.endpoint) ∈
        (self.scan consumers).toAdd ++ (self.scan consumers).toRebuild := by
    by_cases hconn : self.Connected c.consumer.id c.consumer.endpoint
    · exact .inl hconn
    · exact .inr ((hdial _).2 ⟨c, hc, hpeer, rfl, hconn⟩)
  obtain ⟨e, he, hendpoint⟩ := connected_dialPeers hone' hok hsource
  refine ⟨e, ?_, hendpoint⟩
  simp only [retainSeen, AList.lookup_retain]
  rw [if_pos (decide_eq_true ((hseen _).2 ⟨c, hc, hpeer, rfl⟩))]
  exact he

/-- A consumer that is no peer has no channel after a call. -/
theorem lookup_applyCluster_none {self : ConnectionPool Channel} {dial : Dial Channel}
    {consumers : List ConsumerEntry} {id : InstanceId}
    (h : ∀ c ∈ consumers, c.consumer.id = id → ¬ self.IsPeer c) :
    (self.applyCluster dial consumers).entries.lookup id = none := by
  obtain ⟨hseen, -⟩ := mem_scan self consumers
  rw [applyCluster_eq]
  simp only [retainSeen, AList.lookup_retain]
  rw [if_neg]
  intro hmem
  obtain ⟨c, hc, hpeer, hid⟩ := (hseen id).1 (of_decide_eq_true hmem)
  exact h c hc hid hpeer

/-! ## The pool's runs -/

/-- A call of `apply_cluster`: a map, its consumers in enumeration order, what the dials return. -/
structure Apply (Channel : Type) where
  map : ClusterMap
  consumers : List ConsumerEntry
  dial : Dial Channel

/-- A pool from its construction on, under any calls with any maps. -/
def machine (selfId : InstanceId) : Machine (ConnectionPool Channel) (Apply Channel) where
  init self := self = new selfId
  step self a :=
    if a.consumers.Perm a.map.consumers.values then some (self.applyCluster a.dial a.consumers)
    else none

/-- What holds of a pool whatever was applied. -/
theorem run_sourced {selfId : InstanceId} {applies : List (Apply Channel)}
    {pool : ConnectionPool Channel}
    (hrun : (machine selfId).run (new selfId) applies = some pool) :
    pool.Sourced ∧ pool.selfId = selfId := by
  refine Machine.run_invariant
    (I := fun pool : ConnectionPool Channel => pool.Sourced ∧ pool.selfId = selfId)
    (fun s a t hs hst => ?_) ⟨Sourced.new selfId, rfl⟩ hrun
  simp only [machine] at hst
  split at hst
  · cases hst
    exact ⟨hs.1.applyCluster a.dial a.consumers, (s.selfId_applyCluster _ _).trans hs.2⟩
  · cases hst

end ConnectionPool

end Splitter
