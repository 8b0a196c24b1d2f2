import Splitter.Routing.Pool

/-!
# The domain resolver

`resolver.rs`: the owner of a key in the latest cluster map, as a location or as a client over the
owner's channel. `routes_to_owner` joins the three components: in a map that any messages lead to,
with a pool that was last given that map, a key resolves to the channel of the recorded owner.
-/

namespace Splitter

variable {Channel C : Type}

/-- `Display` of a qualified domain name. -/
def QualifiedDomainName.display (d : QualifiedDomainName) : String :=
  s!"{d.service.tenant.str}/{d.service.service.str}/{d.name.str}"

/-- The resolver, with the cluster map its receiver borrows. -/
structure DomainResolver (Channel C : Type) where
  pool : ConnectionPool Channel
  cluster : ClusterMap
  domain : QualifiedDomainName
  remoteFn : Channel → C
  /-- Grant states to consider during lookup, in priority order. -/
  preferredStates : List GrantState

namespace DomainResolver

/-- `DomainResolver::new`. -/
def new (pool : ConnectionPool Channel) (cluster : ClusterMap) (domain : QualifiedDomainName)
    (remoteFn : Channel → C) : DomainResolver Channel C :=
  { pool, cluster, domain, remoteFn
    preferredStates := [.active, .allocatedLoaded, .revoked] }

/-- The lookup both operations make, on the grants in the enumeration order of the map. -/
def owner (self : DomainResolver Channel C) (grants : List GrantEntry)
    (key : QualifiedDomainKey) : Option GrantEntry :=
  ClusterMap.lookup grants key self.preferredStates

/-- `DomainResolver::location`. -/
def location (self : DomainResolver Channel C) (grants : List GrantEntry)
    (key : QualifiedDomainKey) : Option Location :=
  ((self.owner grants key).bind fun g => self.cluster.consumers.lookup g.consumer).map
    (·.consumer.location)

/-- `DomainResolver::resolve`. -/
def resolve (self : DomainResolver Channel C) (grants : List GrantEntry)
    (key : QualifiedDomainKey) : Except ClientError C :=
  if key.domain ≠ self.domain then
    .error (.invalidMessage
      s!"resolver domain mismatch: {self.domain.display} vs {key.domain.display}")
  else
    match self.owner grants key with
    | none => .error .noResolution
    | some grant => (self.pool.resolve grant.consumer).map self.remoteFn

/-! ## Routing -/

/-- The resolver answers for a key as the grants say: nothing where no grant is found, and
otherwise the location of the owner, and a channel dialed for the endpoint of an owner that is
another consumer and advertises one. -/
structure Routes (self : DomainResolver Channel C) (grants : List GrantEntry)
    (key : QualifiedDomainKey) : Prop where
  unowned : self.owner grants key = none →
    self.resolve grants key = .error .noResolution ∧ self.location grants key = none
  owned : ∀ g, self.owner grants key = some g →
    ∃ owner, self.cluster.consumers.lookup g.consumer = some owner ∧
      self.location grants key = some owner.consumer.location ∧
      (g.consumer ≠ self.pool.selfId ∧ owner.consumer.endpoint.str ≠ "" →
        ∃ channel, (owner.consumer.endpoint, .ok channel) ∈ self.pool.dialed ∧
          self.resolve grants key = .ok (self.remoteFn channel)) ∧
      (¬ (g.consumer ≠ self.pool.selfId ∧ owner.consumer.endpoint.str ≠ "") →
        self.resolve grants key = .error .noResolution)

/-- What a pool answers for a consumer of the map it was last given. -/
theorem pool_resolve {before : ConnectionPool Channel} {dial : Dial Channel} {map : ClusterMap}
    {consumers : List ConsumerEntry} (hfiled : map.Filed)
    (hconsumers : consumers.Perm map.consumers.values) (hsourced : before.Sourced)
    (hok : (before.applyCluster dial consumers).AllDialed) {id : ConsumerId}
    {owner : ConsumerEntry} (howner : map.consumers.lookup id = some owner) :
    (id ≠ before.selfId ∧ owner.consumer.endpoint.str ≠ "" →
      ∃ channel, (owner.consumer.endpoint, .ok channel) ∈
          (before.applyCluster dial consumers).dialed ∧
        (before.applyCluster dial consumers).resolve id = .ok channel) ∧
    (¬ (id ≠ before.selfId ∧ owner.consumer.endpoint.str ≠ "") →
      (before.applyCluster dial consumers).resolve id = .error .noResolution) := by
  have hid : owner.consumer.id = id := hfiled id owner howner
  have hentry : ∀ c ∈ consumers, map.consumers.lookup c.consumer.id = some c := by
    intro c hc
    obtain ⟨k, hk⟩ := AList.mem_values.1 ((hconsumers.mem_iff).1 hc)
    rw [hfiled k c hk]
    exact hk
  constructor
  · rintro ⟨hne, hendpoint⟩
    have hmem : owner ∈ consumers := (hconsumers.mem_iff).2 (AList.mem_values.2 ⟨id, howner⟩)
    have hone : ∀ c ∈ consumers, ∀ c' ∈ consumers, c.consumer.id = c'.consumer.id → c = c' := by
      intro c hc c' hc' heq
      have hlookup := hentry c hc
      rw [heq, hentry c' hc'] at hlookup
      exact (Option.some.inj hlookup).symm
    have hpeer : before.IsPeer owner := ⟨hid ▸ hne, hendpoint⟩
    obtain ⟨e, he, heq⟩ := ConnectionPool.connected_applyCluster hok hone hmem hpeer
    rw [hid] at he
    refine ⟨e.channel, ?_, ?_⟩
    · rw [← heq]
      exact hsourced.applyCluster dial consumers id e he
    · rw [ConnectionPool.resolve, ConnectionPool.selfId_applyCluster, if_neg hne, he]
  · intro hnot
    rw [ConnectionPool.resolve, ConnectionPool.selfId_applyCluster]
    split
    · rfl
    · next hne =>
      have hempty : owner.consumer.endpoint.str = "" := by
        by_contra hendpoint
        exact hnot ⟨hne, hendpoint⟩
      rw [ConnectionPool.lookup_applyCluster_none]
      intro c hc heq hpeer
      have hlookup := hentry c hc
      rw [heq, howner] at hlookup
      cases hlookup
      exact hpeer.2 hempty

section
variable [UuidCrate]

/-- **Routing reaches the recorded owner.** The cluster map is one that some messages lead to, and
the pool one that was last given this map, with no dial failed so far. For every key of the
resolver's domain, and every enumeration order of the map, the resolver answers as the grants
say. -/
theorem routes_to_owner {self : DomainResolver Channel C} {msgs : List pb.ClusterMessage}
    (hmap : ClusterMap.machine.run .empty msgs = some self.cluster) {selfId : InstanceId}
    {applies : List (ConnectionPool.Apply Channel)} {last : ConnectionPool.Apply Channel}
    (hlast : last.map = self.cluster)
    (hpool : (ConnectionPool.machine selfId).run (.new selfId) (applies ++ [last]) =
      some self.pool)
    (hok : self.pool.AllDialed) {grants : List GrantEntry}
    (hgrants : grants.Perm self.cluster.grants.values) {key : QualifiedDomainKey}
    (hkey : key.domain = self.domain) : self.Routes grants key := by
  have howned : self.cluster.Owned := ClusterMap.Owned.kept.run hmap
  have hfiled : self.cluster.Filed := ClusterMap.Filed.kept.run hmap
  obtain ⟨before, hbefore, hafter⟩ := (Machine.run_concat_eq_some _).1 hpool
  obtain ⟨hsourced, -⟩ := ConnectionPool.run_sourced hbefore
  simp only [ConnectionPool.machine] at hafter
  split at hafter
  · next hconsumers =>
    have hpool : before.applyCluster last.dial last.consumers = self.pool :=
      Option.some.inj hafter
    rw [hlast] at hconsumers
    have hresolve : ∀ g, self.owner grants key = some g →
        self.resolve grants key = (self.pool.resolve g.consumer).map self.remoteFn := by
      intro g hg
      simp only [resolve, if_neg (not_not.2 hkey), hg]
    constructor
    · intro hnone
      constructor
      · simp only [resolve, if_neg (not_not.2 hkey), hnone]
      · rw [location, hnone]
        rfl
    · intro g hg
      have hmem := (hgrants.mem_iff).1 (ClusterMap.lookup_eq_some hg).1
      obtain ⟨owner, howner⟩ := ClusterMap.lookup_owner howned hmem
      have hpooled := pool_resolve hfiled hconsumers hsourced (hpool ▸ hok) howner
      rw [hpool, ← before.selfId_applyCluster last.dial last.consumers, hpool] at hpooled
      refine ⟨owner, howner, ?_, fun hpeer => ?_, fun hnot => ?_⟩
      · simp only [location, hg, Option.bind_some, howner, Option.map_some]
      · obtain ⟨channel, hdialed, hchannel⟩ := hpooled.1 hpeer
        refine ⟨channel, hdialed, ?_⟩
        rw [hresolve g hg, hchannel]
        rfl
      · rw [hresolve g hg, hpooled.2 hnot]
        rfl
  · cases hafter

end

/-! ## A routed key -/

/-- A snapshot in which one consumer with an endpoint owns a domain. -/
def peerSnapshot : pb.ClusterMessage :=
  { msg := some (.snapshot
      { assignments := [{ consumer := some (ClusterMap.wireInstance ClusterMap.idB "b:1")
                          grants := [{ id := "g", shard := some (ClusterMap.wireShard 2)
                                       state := 1 }] }]
        origin := none, shards := [] })
    id := "", version := 1, timestamp := none }

/-- The map the snapshot leads to. -/
def peerMap : ClusterMap :=
  letI := UuidCrate.pair
  ClusterMap.empty.receive peerSnapshot

/-- The pool of another consumer is given the map, with a dial that names the endpoint. -/
def peerApply : ConnectionPool.Apply String :=
  { map := peerMap, consumers := peerMap.consumers.values, dial := fun _ e => .ok e.str }

/-- The resolver of the other consumer. -/
def peerResolver : DomainResolver String String :=
  .new ((ConnectionPool.new ⟨⟨10⟩⟩).applyCluster peerApply.dial peerApply.consumers) peerMap
    { service := { tenant := ⟨"t"⟩, service := ⟨"s"⟩ }, name := ⟨"d"⟩ } id

/-- A key of the domain. -/
def peerKey : QualifiedDomainKey :=
  { domain := peerResolver.domain, key := { region := ⟨""⟩, key := "k" } }

/-- The key resolves to the channel dialed for the owner. -/
theorem routes_to_peer :
    peerResolver.Routes peerMap.grants.values peerKey ∧
      peerResolver.resolve peerMap.grants.values peerKey = .ok "b:1" := by
  let := UuidCrate.pair
  have hmap : ClusterMap.machine.run .empty [peerSnapshot] = some peerResolver.cluster := rfl
  have hpool : (ConnectionPool.machine ⟨⟨10⟩⟩).run (.new ⟨⟨10⟩⟩) ([] ++ [peerApply]) =
      some peerResolver.pool := rfl
  have hok : ∀ d ∈ peerResolver.pool.dialed, d.2.isOk = true := by decide
  exact ⟨routes_to_owner hmap rfl hpool hok (List.Perm.refl _) rfl, rfl⟩

end DomainResolver

end Splitter
