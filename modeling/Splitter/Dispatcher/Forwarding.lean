import Splitter.Dispatcher.PoolSync
import Splitter.Driver.Versions
import Splitter.Routing.Advertised
import Splitter.Routing.Proxy
import Splitter.Routing.Resolver

/-!
# Forwarding while the cluster changes

`handle` with a `DomainResolver`, while the driver publishes cluster maps and the updater brings the
pool in step with them. The resolver looks a key up in the map published last, but the pool may be
behind it: a channel may be one that was dialed for an older map.

`forwarded`: at any time a request that leaves the node goes to a consumer that the current map
records as an owner of the key, never to the node itself, over a channel that was dialed for an
endpoint this consumer advertised in a published map. Once the updater has nothing left to do, and
no dial has failed, that is the endpoint the consumer advertises now.
-/

namespace Splitter

/-! ## The maps a driver publishes -/

/-- What a message keeps beside what it keeps. -/
theorem ClusterMap.Kept.and {P Q : ClusterMap → Prop} (hP : Kept P) (hQ : Kept Q) :
    Kept fun m => P m ∧ Q m where
  fresh id shards := ⟨hP.fresh id shards, hQ.fresh id shards⟩
  relabel m id shards h := ⟨hP.relabel m id shards h.1, hQ.relabel m id shards h.2⟩
  dropGrant m gid h := ⟨hP.dropGrant m gid h.1, hQ.dropGrant m gid h.2⟩
  updateGrant m g m' h hok := ⟨hP.updateGrant m g m' h.1 hok, hQ.updateGrant m g m' h.2 hok⟩
  enterConsumer m c h := ⟨hP.enterConsumer m c h.1, hQ.enterConsumer m c h.2⟩
  assignGrant m cid g m' h hk hok :=
    ⟨hP.assignGrant m cid g m' h.1 hk hok, hQ.assignGrant m cid g m' h.2 hk hok⟩
  removeConsumer m cid h := ⟨hP.removeConsumer m cid h.1, hQ.removeConsumer m cid h.2⟩

/-- Consumers are filed under their identifiers, and the owners of grants have entries. -/
theorem ClusterMap.kept_filed_owned : Kept fun m => m.Filed ∧ m.Owned :=
  Filed.kept.and Owned.kept

namespace Driver

/-- To emit effects that publish nothing. -/
theorem published_emit {effects : List Effect} (self : Driver)
    (h : Effect.published effects = []) :
    Effect.published (self.emit effects).pending = Effect.published self.pending := by
  show List.filterMap _ (self.pending ++ effects) = _
  rw [List.filterMap_append]
  exact (congrArg _ h).trans (List.append_nil _)

theorem published_removeGrant (self : Driver) (id : GrantId) :
    Effect.published (self.removeGrant id).pending = Effect.published self.pending := by
  unfold removeGrant
  split
  · rfl
  · exact published_emit { self with grants := self.grants.erase id } rfl

/-- The entries of a client message publish nothing. -/
theorem published_perform (self : Driver) (i : Instruction) :
    Effect.published (self.perform i).1.pending = Effect.published self.pending := by
  cases i with
  | assign g now =>
    simp only [perform, onAssign]
    split
    · rfl
    · split
      · rfl
      · exact (published_emit _ rfl).trans (published_removeGrant self ⟨g.id⟩)
  | promote g =>
    simp only [perform, onPromote]
    split
    · rfl
    · exact published_emit { self with grants := _ } rfl
  | revoke g =>
    simp only [perform, onRevoke]
    split
    · rfl
    · split
      · rfl
      · next newExpiration _ _ _ _ =>
        refine published_emit { self with grants := _ } ?_
        cases newExpiration <;> rfl
  | notify n =>
    simp only [perform, onNotify]
    split
    · split
      · rfl
      · next target update _ _ _ _ _ =>
        refine published_emit self ?_
        cases grantStateFromI32 update.state <;> rfl
    · rfl
  | extend lease =>
    simp only [perform, onExtend]
    split
    · rfl
    · rfl
    · refine published_emit self (List.filterMap_eq_nil_iff.2 fun eff heff => ?_)
      obtain ⟨r, -, rfl⟩ := List.mem_map.1 heff
      rfl

end Driver

namespace Loop

/-- What holds of the driver's map and of every map it has published or is about to publish. -/
structure MapsHave (P : ClusterMap → Prop) (s : Loop) : Prop where
  current : P s.driver.cluster
  published : ∀ map ∈ Effect.published s.done ++ Effect.published s.driver.pending, P map

variable {P : ClusterMap → Prop} {s t : Loop}

theorem MapsHave.initial (hP : ClusterMap.Kept P) : MapsHave P initial where
  current := hP.fresh _ _
  published map hmap := by cases hmap

/-- A step that publishes nothing new. -/
theorem MapsHave.congr (h : s.MapsHave P) (hcluster : t.driver.cluster = s.driver.cluster)
    (hdone : Effect.published t.done = Effect.published s.done)
    (hpending : Effect.published t.driver.pending = Effect.published s.driver.pending) :
    t.MapsHave P where
  current := hcluster ▸ h.current
  published := by
    rw [hdone, hpending]
    exact h.published

/-- A frame that the outbound channel accepts. -/
theorem published_enqueue (frame : pb.JoinMessage) :
    Effect.published (s.done ++ [.enqueue frame]) = Effect.published s.done := by
  show List.filterMap _ (s.done ++ _) = _
  rw [List.filterMap_append]
  exact List.append_nil _

section
variable [UuidCrate]

/-- A cluster message, which is applied to the map that is current. -/
theorem MapsHave.handleCluster (hP : ClusterMap.Kept P) (h : s.MapsHave P) (env : Env)
    (cm : pb.ClusterMessage) (pc : Pc) :
    MapsHave P { s with driver := (s.driver.handleCluster env cm).1, pc } := by
  unfold Driver.handleCluster
  split
  · next next hok =>
    have hnext : P next := hP.apply h.current hok
    split
    · refine ⟨hnext, fun map hmap => ?_⟩
      have hpublished : Effect.published (s.driver.publishCluster next).pending =
          Effect.published s.driver.pending ++ [next] := List.filterMap_append
      rw [hpublished, ← List.append_assoc] at hmap
      rcases List.mem_append.1 hmap with hmap | hmap
      · exact h.published map hmap
      · rw [List.mem_singleton.1 hmap]
        exact hnext
    · exact h.congr rfl rfl rfl
  · exact h.congr rfl rfl rfl
  · exact h.congr rfl rfl rfl

/-- **The step lemma.** -/
theorem MapsHave.step (hP : ClusterMap.Kept P) {e : Event} (h : s.MapsHave P)
    (hst : s.step e = some t) : t.MapsHave P := by
  cases step_cases hst with
  | @exec eff rest hpending =>
    refine ⟨h.current, fun map hmap => h.published map ?_⟩
    have hmoved : Effect.published (s.done ++ [eff]) ++ Effect.published rest =
        Effect.published s.done ++ Effect.published s.driver.pending := by
      simp only [hpending, Effect.published, ← List.filterMap_append, List.append_assoc,
        List.singleton_append]
    rw [← hmoved]
    exact hmap
  | takeInbound item env =>
    rcases item with _ | ⟨status | ⟨_ | msg | ⟨_ | client | cm⟩⟩⟩
    · exact h.congr rfl rfl rfl
    · exact h.congr rfl rfl rfl
    · exact h.congr rfl rfl rfl
    · exact h.congr rfl rfl rfl
    · exact h.congr rfl rfl rfl
    · have hfollow := Driver.follow_invariant (P := fun d => MapsHave P { s with driver := d })
        (fun d i hd => hd.congr (d.cluster_perform i) rfl (d.published_perform i)) h
        (s.driver.instructions env client)
      rw [← Driver.handleClientMessage_follow] at hfollow
      exact hfollow.congr rfl rfl rfl
    · exact h.handleCluster hP env cm _
  | @handled result now =>
    rcases result with (_ | _) | (_ | _) <;> exact h.congr rfl rfl rfl
  | deregisterSent ok | closedSent ok =>
    cases ok
    · exact h.congr rfl rfl rfl
    · exact h.congr rfl (published_enqueue _) rfl
  | heartbeatSent => exact h.congr rfl (published_enqueue _) rfl
  | collect ids =>
    exact List.foldl_invariant (P := fun d : Driver => MapsHave P { s with driver := d, pc := _ })
      (fun d id hd => hd.congr (Driver.cluster_removeGrant d id) rfl
        (Driver.published_removeGrant d id)) (h.congr rfl rfl rfl)
  | _ => exact h.congr rfl rfl rfl

end

end Loop

/-! ## The pool while it is behind -/

namespace PoolSync

variable {Channel C : Type}

/-- A published map advertises an endpoint of another consumer. -/
def Advertised (s : PoolSync Channel) (id : InstanceId) (endpoint : Endpoint) : Prop :=
  ∃ map ∈ s.published, s.pool.Advertises map id endpoint

/-- The map that is being applied. -/
def Pc.held : Pc → Option ClusterMap
  | .seeding map | .applying _ map => some map
  | _ => none

/-- What holds of a dispatcher's pool, however far it is behind. -/
structure Vouched (selfId : InstanceId) (s : PoolSync Channel) : Prop where
  maps : s.loop.MapsHave fun map => map.Filed ∧ map.Owned
  /-- Before the first one the channel holds the empty map. -/
  held : ∀ map, s.pc.held = some map → map ∈ ClusterMap.empty :: s.published
  self : s.pool.selfId = selfId
  sourced : s.pool.Sourced
  entries : ∀ id e, s.pool.entries.lookup id = some e → s.Advertised id e.endpoint
  /-- The pool is what the last call made of the one before. -/
  last : ∀ map, s.applied = some map → (map.Filed ∧ map.Owned) ∧
    ∃ (before : ConnectionPool Channel) (dial : Dial Channel) (consumers : List ConsumerEntry),
      before.selfId = selfId ∧ before.Sourced ∧ consumers.Perm map.consumers.values ∧
        s.pool = before.applyCluster dial consumers

variable {selfId : InstanceId} {s t : PoolSync Channel}

theorem Vouched.initial : Vouched selfId (initial (.new selfId : ConnectionPool Channel)) where
  maps := .initial ClusterMap.kept_filed_owned
  held map hmap := by cases hmap
  self := rfl
  sourced := .new selfId
  entries id e he := by cases he
  last map hmap := by cases hmap

/-- The channel's map and the maps sent since. -/
theorem Vouched.known (h : Vouched selfId s) {map : ClusterMap}
    (hmap : map ∈ ClusterMap.empty :: s.published) : map.Filed ∧ map.Owned := by
  rcases List.mem_cons.1 hmap with rfl | hmap
  · exact ClusterMap.kept_filed_owned.fresh _ _
  · exact h.maps.published map (List.mem_append_left _ hmap)

/-- A map that advertises somebody is not the empty one. -/
theorem published_of_advertises {map : ClusterMap} {id : InstanceId} {endpoint : Endpoint}
    (hmap : map ∈ ClusterMap.empty :: s.published) (h : s.pool.Advertises map id endpoint) :
    s.Advertised id endpoint := by
  rcases List.mem_cons.1 hmap with rfl | hmap
  · obtain ⟨-, -, c, hc, -⟩ := h
    cases hc
  · exact ⟨map, hmap, h⟩

/-- A step that leaves the pool and what was published, and takes hold of no map. -/
theorem Vouched.congr (h : Vouched selfId s) (hloop : t.loop = s.loop) (hpool : t.pool = s.pool)
    (happlied : t.applied = s.applied)
    (hheld : ∀ map, t.pc.held = some map → map ∈ ClusterMap.empty :: s.published) :
    Vouched selfId t := by
  obtain ⟨loop, pool, applied, cluster, pc⟩ := t
  cases hloop
  cases hpool
  cases happlied
  exact ⟨h.maps, hheld, h.self, h.sourced, h.entries, h.last⟩

/-- What an entry of the pool is after a call: one that was there before, or one dialed for what the
map advertises. -/
theorem lookup_applyCluster_cases {pool : ConnectionPool Channel} {map : ClusterMap}
    {dial : Dial Channel} {consumers : List ConsumerEntry} (hfiled : map.Filed)
    (hperm : consumers.Perm map.consumers.values) {id : InstanceId} {e : PoolEntry Channel}
    (he : (pool.applyCluster dial consumers).entries.lookup id = some e) :
    pool.entries.lookup id = some e ∨ pool.Advertises map id e.endpoint := by
  obtain ⟨endpoint, hadv⟩ := ConnectionPool.advertised_of_lookup hfiled hperm he
  by_cases hconn : pool.Connected id endpoint
  · rw [(ConnectionPool.lookup_applyCluster_kept hfiled hperm dial hadv hconn).1] at he
    exact .inl he
  · rw [ConnectionPool.lookup_applyCluster_dialed hfiled hperm dial hadv hconn,
      ConnectionPool.redialed] at he
    split at he
    · cases he
      exact .inr hadv
    · exact .inl he

/-- A call leaves the pool's own identifier, so it changes nothing about who is a peer. -/
theorem advertises_applyCluster {pool : ConnectionPool Channel} {map : ClusterMap}
    {dial : Dial Channel} {consumers : List ConsumerEntry} {id : InstanceId} {endpoint : Endpoint} :
    (pool.applyCluster dial consumers).Advertises map id endpoint ↔
      pool.Advertises map id endpoint := by
  unfold ConnectionPool.Advertises
  rw [ConnectionPool.selfId_applyCluster]

/-- A call of `apply_cluster`. -/
theorem Vouched.apply (h : Vouched selfId s) {map : ClusterMap} {dial : Dial Channel}
    {consumers : List ConsumerEntry} {pc : Pc} (hheld : s.pc.held = some map)
    (hst : s.applyMap map dial consumers pc = some t) (hpc : pc.held = none) :
    Vouched selfId t := by
  have hmap := h.held map hheld
  have hknown := h.known hmap
  unfold applyMap at hst
  split at hst
  · next hperm =>
    cases hst
    refine ⟨h.maps, fun map' hmap' => ?_, ?_, h.sourced.applyCluster dial consumers,
      fun id e he => ?_, fun map' hmap' => ?_⟩
    · rw [hpc] at hmap'
      cases hmap'
    · rw [ConnectionPool.selfId_applyCluster, h.self]
    · have hadv : s.Advertised id e.endpoint := by
        rcases lookup_applyCluster_cases hknown.1 hperm he with hold | hnew
        · exact h.entries id e hold
        · exact published_of_advertises hmap hnew
      obtain ⟨origin, horigin, hadv⟩ := hadv
      exact ⟨origin, horigin, advertises_applyCluster.2 hadv⟩
    · cases hmap'
      exact ⟨hknown, s.pool, dial, consumers, h.self, h.sourced, hperm, rfl⟩
  · cases hst

section
variable [UuidCrate]

/-- The driver goes on, and what was published stays published. -/
theorem Vouched.driver (h : Vouched selfId s) {e : Loop.Event} {loop : Loop}
    (hst : s.loop.step e = some loop) : Vouched selfId { s with loop } := by
  have hsub : s.published ⊆ published { s with loop } := by
    have hdone : Effect.published loop.done =
        s.published ++ Effect.published (s.loop.carried e) := by
      rw [Loop.done_step hst]
      exact List.filterMap_append
    intro map hmap
    show map ∈ Effect.published loop.done
    rw [hdone]
    exact List.mem_append_left _ hmap
  refine ⟨h.maps.step ClusterMap.kept_filed_owned hst, fun map hmap => ?_, h.self, h.sourced,
    fun id e he => ?_, h.last⟩
  · exact List.cons_subset_cons _ hsub (h.held map hmap)
  · obtain ⟨map, hmap, hadv⟩ := h.entries id e he
    exact ⟨map, hsub hmap, hadv⟩

/-- **The step lemma.** -/
theorem Vouched.step {e : Event Channel} (h : Vouched selfId s) (hst : s.step e = some t) :
    Vouched selfId t := by
  have hcurrent : s.currentMap ∈ ClusterMap.empty :: s.published := Watch.value_mem _ _
  cases e with
  | driver e =>
    obtain ⟨loop, hloop, rfl⟩ := Option.map_eq_some_iff.1 hst
    exact h.driver hloop
  | borrow =>
    simp only [PoolSync.step] at hst
    split at hst
    · cases hst
      refine h.congr rfl rfl rfl fun map hmap => ?_
      cases hmap
      exact hcurrent
    · cases hst
  | apply dial consumers =>
    simp only [PoolSync.step] at hst
    split at hst
    · next map hpc => exact h.apply (by rw [hpc]; rfl) hst rfl
    · next cluster map hpc => exact h.apply (by rw [hpc]; rfl) hst rfl
    · cases hst
  | spawn =>
    simp only [PoolSync.step] at hst
    split at hst
    · cases hst
      exact h.congr rfl rfl rfl fun map hmap => by cases hmap
    · cases hst
  | changed =>
    simp only [PoolSync.step] at hst
    split at hst
    · split at hst
      · cases hst
        exact h.congr rfl rfl rfl fun map hmap => by cases hmap
      · split at hst
        · cases hst
          exact h.congr rfl rfl rfl fun map hmap => by cases hmap
        · cases hst
    · cases hst
  | borrowAndUpdate =>
    simp only [PoolSync.step] at hst
    split at hst
    · cases hst
      refine h.congr rfl rfl rfl fun map hmap => ?_
      cases hmap
      exact hcurrent
    · cases hst
  | abort =>
    simp only [PoolSync.step] at hst
    split at hst
    · cases hst; exact h.congr rfl rfl rfl fun map hmap => by cases hmap
    · cases hst; exact h.congr rfl rfl rfl fun map hmap => by cases hmap
    · cases hst; exact h.congr rfl rfl rfl fun map hmap => by cases hmap
    · cases hst

end

/-! ## Requests -/

/-- Where a channel for a key leads: to another consumer, which the current map records with a grant
that covers the key. It was dialed for an endpoint that this consumer advertised. -/
structure Leads (s : PoolSync Channel) (key : QualifiedDomainKey) (channel : Channel)
    (g : GrantEntry) : Prop where
  covers : shardCovers g.shard key = true
  state : g.state ∈ [GrantState.active, .allocatedLoaded, .revoked]
  other : g.consumer ≠ s.pool.selfId
  entered : ∃ owner, s.currentMap.consumers.lookup g.consumer = some owner
  dialed : ∃ endpoint, s.Advertised g.consumer endpoint ∧ (endpoint, .ok channel) ∈ s.pool.dialed

/-- A resolver that borrows the current map. -/
def resolver (s : PoolSync Channel) (domain : QualifiedDomainName) (remoteFn : Channel → C) :
    DomainResolver Channel C :=
  .new s.pool s.currentMap domain remoteFn

/-- In its domain the resolver is the lookup and the pool. -/
theorem resolve_resolver (grants : List GrantEntry) {domain : QualifiedDomainName}
    {key : QualifiedDomainKey} (hkey : key.domain = domain) (remoteFn : Channel → C) :
    (s.resolver domain remoteFn).resolve grants key =
      match (s.resolver domain remoteFn).owner grants key with
      | none => .error .noResolution
      | some g => (s.pool.resolve g.consumer).map remoteFn :=
  if_neg (not_not.2 hkey)

/-- What a resolver hands out leads to an owner, and it fails for no other reason than that there is
nothing to hand out. -/
theorem Vouched.resolve (h : Vouched selfId s) {grants : List GrantEntry}
    (hgrants : grants.Perm s.currentMap.grants.values) {domain : QualifiedDomainName}
    {key : QualifiedDomainKey} (hkey : key.domain = domain) (remoteFn : Channel → C) :
    (∃ g ∈ grants, ∃ channel, s.Leads key channel g ∧
        (s.resolver domain remoteFn).resolve grants key = .ok (remoteFn channel)) ∨
      (s.resolver domain remoteFn).resolve grants key = .error .noResolution := by
  rw [resolve_resolver grants hkey]
  split
  · exact .inr rfl
  · next g hg =>
    obtain ⟨hmem, hstate, hcovers⟩ := ClusterMap.lookup_eq_some hg
    have howned : s.currentMap.Owned := (h.known (Watch.value_mem _ _)).2
    unfold ConnectionPool.resolve
    split
    · exact .inr rfl
    · next hother =>
      split
      · next e he =>
        refine .inl ⟨g, hmem, e.channel, ?_, rfl⟩
        exact
          { covers := hcovers
            state := hstate.resolve_right fun hempty => by cases hempty.1
            other := hother
            entered := ClusterMap.lookup_owner howned (hgrants.mem_iff.1 hmem)
            dialed := ⟨e.endpoint, h.entries _ e he, h.sourced _ e he⟩ }
      · exact .inr rfl

/-- A pool that was last given the map of the resolver answers as the grants say. -/
theorem Vouched.routes (h : Vouched selfId s) (hcurrent : s.applied = some s.currentMap)
    (hok : s.pool.AllDialed) {grants : List GrantEntry}
    (hgrants : grants.Perm s.currentMap.grants.values) {domain : QualifiedDomainName}
    {key : QualifiedDomainKey} (hkey : key.domain = domain) (remoteFn : Channel → C) :
    (s.resolver domain remoteFn).Routes grants key := by
  obtain ⟨⟨hfiled, howned⟩, before, dial, consumers, hbefore, hsourced, hperm, hpool⟩ :=
    h.last _ hcurrent
  have hresolve := resolve_resolver (s := s) grants hkey remoteFn
  constructor
  · intro hnone
    rw [hresolve, DomainResolver.location, hnone]
    exact ⟨rfl, rfl⟩
  · intro g hg
    have hmem := hgrants.mem_iff.1 (ClusterMap.lookup_eq_some hg).1
    obtain ⟨owner, howner⟩ := ClusterMap.lookup_owner howned hmem
    have hpooled := DomainResolver.pool_resolve hfiled hperm hsourced (hpool ▸ hok) howner
    rw [← hpool, hbefore, ← h.self] at hpooled
    refine ⟨owner, howner, ?_, fun hpeer => ?_, fun hnot => ?_⟩
    · show (((s.resolver domain remoteFn).owner grants key).bind fun g => _).map _ = _
      rw [hg]
      exact congrArg (Option.map _) howner
    · obtain ⟨channel, hdialed, hchannel⟩ := hpooled.1 hpeer
      refine ⟨channel, hdialed, ?_⟩
      rw [hresolve, hg]
      exact congrArg (Except.map remoteFn) hchannel
    · rw [hresolve, hg]
      exact congrArg (Except.map remoteFn) (hpooled.2 hnot)

section
variable {Value Req Resp : Type}

/-- A proxy that finds the remote owner with a resolver. -/
def proxy (s : PoolSync Channel) (grants : List GrantEntry) (domain : QualifiedDomainName)
    (remoteFn : Channel → C) (lookup : QualifiedDomainKey → List GrantState → Option Value) :
    Proxy QualifiedDomainKey C Value :=
  { resolve := (s.resolver domain remoteFn).resolve grants, lookup }

/-- What becomes of a request for a key. -/
inductive Answered (s : PoolSync Channel) (grants : List GrantEntry) (key : QualifiedDomainKey)
    (remoteFn : Channel → C) (lookup : QualifiedDomainKey → List GrantState → Option Value)
    (req : Req) (remote : C → Req → Except Status Resp)
    («local» : Value → Req → Except ClientError Resp) : Except ClientError Resp → Prop
  /-- The node serves it itself. -/
  | served (v : Value) (h : lookup key [.active] = some v ∨
      lookup key [.active] = none ∧ lookup key [] = some v) :
      Answered s grants key remoteFn lookup req remote «local» («local» v req)
  /-- It is forwarded to an owner. -/
  | forwarded (g : GrantEntry) (channel : Channel) (hg : g ∈ grants) (hlead : s.Leads key channel g)
      (hactive : lookup key [.active] = none) :
      Answered s grants key remoteFn lookup req remote «local»
        ((remote (remoteFn channel) req).mapError ClientError.fromGrpc)
  /-- Nobody is known to own the key. -/
  | notOwned (hactive : lookup key [.active] = none) (hnone : lookup key [] = none) :
      Answered s grants key remoteFn lookup req remote «local» (.error .notOwned)

/-- `handle` with such a proxy. -/
theorem Vouched.handle (h : Vouched selfId s) {grants : List GrantEntry}
    (hgrants : grants.Perm s.currentMap.grants.values) {domain : QualifiedDomainName}
    {key : QualifiedDomainKey} (hkey : key.domain = domain) (remoteFn : Channel → C)
    (lookup : QualifiedDomainKey → List GrantState → Option Value) (req : Req)
    (remote : C → Req → Except Status Resp) («local» : Value → Req → Except ClientError Resp) :
    s.Answered grants key remoteFn lookup req remote «local»
      (Splitter.handle (s.proxy grants domain remoteFn lookup) key req remote «local») := by
  unfold Splitter.handle
  split
  · next v hv => exact .served v (.inl hv)
  · next hactive =>
    have hactive : lookup key [.active] = none := hactive
    rcases h.resolve hgrants hkey remoteFn with ⟨g, hg, channel, hlead, hok⟩ | hnone
    · rw [show (s.proxy grants domain remoteFn lookup).resolve key = _ from hok]
      exact .forwarded g channel hg hlead hactive
    · rw [show (s.proxy grants domain remoteFn lookup).resolve key = _ from hnone]
      dsimp only
      split
      · next v hv => exact .served v (.inr ⟨hactive, hv⟩)
      · next hlookup => exact .notOwned hactive hlookup

/-- **Where a request goes while the cluster changes.** In every state of every run of the driver,
`build` and the updater, `handle` with a resolver that borrows the map published last serves a
request from the node itself, or forwards it to another consumer that this map records with a grant
for the key, over a channel dialed for an endpoint this consumer advertised in a published map, or
answers that nobody owns the key. Once the updater waits with nothing unseen, and no dial has
failed, the resolver answers exactly as the map says. -/
theorem forwarded [UuidCrate] {es : List (Event Channel)}
    (hrun : machine.run (initial (.new selfId)) es = some s) {grants : List GrantEntry}
    (hgrants : grants.Perm s.currentMap.grants.values) {domain : QualifiedDomainName}
    {key : QualifiedDomainKey} (hkey : key.domain = domain) (remoteFn : Channel → C)
    (lookup : QualifiedDomainKey → List GrantState → Option Value) (req : Req)
    (remote : C → Req → Except Status Resp) («local» : Value → Req → Except ClientError Resp) :
    s.Answered grants key remoteFn lookup req remote «local»
        (Splitter.handle (s.proxy grants domain remoteFn lookup) key req remote «local») ∧
      ∀ cluster, s.pc = .waiting cluster → cluster.UpToDate s.published → s.pool.AllDialed →
        (s.resolver domain remoteFn).Routes grants key := by
  obtain ⟨hvouched, hsynced⟩ := Machine.run_invariant
    (I := fun s : PoolSync Channel => Vouched selfId s ∧ Synced s)
    (fun _ _ _ h hst => ⟨h.1.step hst, h.2.step hst⟩) ⟨.initial, .initial _⟩ hrun
  refine ⟨hvouched.handle hgrants hkey remoteFn lookup req remote «local», ?_⟩
  intro cluster hpc hup hok
  exact hvouched.routes (hsynced.poolCurrent cluster hpc hup) hok hgrants hkey remoteFn

end

/-! ## A request for a peer -/

open DomainResolver (peerSnapshot peerApply peerResolver peerKey)

/-- The driver publishes a snapshot, `build` seeds the pool with it and spawns the updater, which
applies it again. -/
def syncedRun : List (Event String) :=
  (.start :: Loop.takeCluster peerSnapshot 1).map .driver ++
    [.borrow, .apply peerApply.dial peerApply.consumers, .spawn, .changed, .borrowAndUpdate,
      .apply peerApply.dial peerApply.consumers]

/-- A request for a key of the peer is forwarded to it. -/
theorem forwarded_toPeer :
    let := UuidCrate.pair
    ∃ s, machine.run (initial (.new ⟨⟨10⟩⟩)) syncedRun = some s ∧
      s.Answered s.currentMap.grants.values peerKey id (fun _ _ => (none : Option Unit)) "get"
          (fun client req => .ok (client, req)) (fun _ _ => .error .notOwned)
          (.ok ("b:1", "get")) ∧
        (s.resolver peerResolver.domain id).Routes s.currentMap.grants.values peerKey := by
  let := UuidCrate.pair
  have hrun : machine.run (initial (.new ⟨⟨10⟩⟩)) syncedRun = some _ := rfl
  have hkey : peerKey.domain = peerResolver.domain := rfl
  obtain ⟨hanswered, hroutes⟩ := forwarded hrun (List.Perm.refl _) hkey id
    (fun _ _ => (none : Option Unit)) "get" (fun client req => .ok (client, req))
    (fun _ _ => .error .notOwned)
  refine ⟨_, hrun, hanswered, hroutes { seen := 1 } rfl rfl fun d hd => ?_⟩
  obtain rfl := List.mem_singleton.1 hd
  rfl

end PoolSync

end Splitter
