import Splitter.Cluster.Basic

/-!
# The two indexes of the cluster map

What each edit does to the two indexes, read through `grantsOf` (the ids on a consumer's list) and
`ownerOf` (the consumer a grant names), and from it the agreement of the two (`Consistent`).
`dropGrant`, `updateGrant` and `removeConsumer` keep the agreement on every map. `assignGrant`
keeps it only for a grant id that is not in the map: it pushes the id on the new consumer's list
without taking it off the list that holds it, so a grant assigned again is listed twice, and a
grant assigned to another consumer is listed by both (`assign_moved_inconsistent`).
`consistent_of_fresh` is the agreement over all runs whose messages assign fresh ids only.
-/

namespace Splitter

namespace ClusterMap

/-- The grant ids listed by a consumer, none for a consumer that is not in the map. -/
def grantsOf (m : ClusterMap) (c : ConsumerId) : List GrantId :=
  ((m.consumers.lookup c).map (·.grants)).getD []

/-- The consumer a grant names, if the grant is in the map. -/
def ownerOf (m : ClusterMap) (g : GrantId) : Option ConsumerId :=
  (m.grants.lookup g).map (·.consumer)

/-- A consumer has an entry. -/
def Known (m : ClusterMap) (c : ConsumerId) : Prop := (m.consumers.lookup c).isSome

/-! ## What the edits do to the indexes -/

section edits
variable (m : ClusterMap)

theorem lookup_dropGrant (gid g : GrantId) :
    (m.dropGrant gid).grants.lookup g = if g = gid then none else m.grants.lookup g := by
  unfold dropGrant
  cases h : m.grants.lookup gid with
  | none =>
    by_cases hg : g = gid
    · rw [if_pos hg, hg]; exact h
    · rw [if_neg hg]
  | some entry => exact AList.lookup_erase_ite _ _ _

theorem ownerOf_dropGrant (gid g : GrantId) :
    (m.dropGrant gid).ownerOf g = if g = gid then none else m.ownerOf g := by
  simp only [ownerOf, lookup_dropGrant]
  split <;> rfl

/-- Dropping a grant takes its id off the list of its owner and off no other. -/
theorem grantsOf_dropGrant (gid : GrantId) (c : ConsumerId) :
    (m.dropGrant gid).grantsOf c =
      if m.ownerOf gid = some c then (m.grantsOf c).filter (· ≠ gid) else m.grantsOf c := by
  unfold dropGrant ownerOf
  cases h : m.grants.lookup gid with
  | none => simp [grantsOf]
  | some entry =>
    simp only [grantsOf, AList.lookup_modify, Option.map_some, Option.some.injEq]
    by_cases hc : c = entry.consumer
    · subst hc
      rw [if_pos rfl, if_pos rfl]
      cases m.consumers.lookup entry.consumer <;> rfl
    · rw [if_neg hc, if_neg (fun he => hc he.symm)]

theorem known_dropGrant (gid : GrantId) (c : ConsumerId) :
    (m.dropGrant gid).Known c ↔ m.Known c := by
  unfold dropGrant
  cases h : m.grants.lookup gid with
  | none => exact Iff.rfl
  | some entry =>
    simp only [Known, AList.lookup_modify]
    split
    · next hc => rw [hc, Option.isSome_map]
    · exact Iff.rfl

theorem grantsOf_removeConsumer (cid c : ConsumerId) :
    (m.removeConsumer cid).grantsOf c = if c = cid then [] else m.grantsOf c := by
  unfold removeConsumer grantsOf
  cases h : m.consumers.lookup cid with
  | none =>
    by_cases hc : c = cid
    · rw [if_pos hc, hc, h]; rfl
    · rw [if_neg hc]
  | some entry =>
    simp only [AList.lookup_erase_ite]
    split <;> rfl

/-- Removing a consumer deletes exactly the grants on its list. -/
theorem lookup_removeConsumer (cid : ConsumerId) (g : GrantId) :
    (m.removeConsumer cid).grants.lookup g =
      if g ∈ m.grantsOf cid then none else m.grants.lookup g := by
  unfold removeConsumer grantsOf
  cases h : m.consumers.lookup cid with
  | none => simp
  | some entry => exact AList.lookup_eraseAll _ _ _

theorem ownerOf_removeConsumer (cid : ConsumerId) (g : GrantId) :
    (m.removeConsumer cid).ownerOf g = if g ∈ m.grantsOf cid then none else m.ownerOf g := by
  simp only [ownerOf, lookup_removeConsumer]
  split <;> rfl

theorem known_removeConsumer (cid c : ConsumerId) :
    (m.removeConsumer cid).Known c ↔ c ≠ cid ∧ m.Known c := by
  unfold removeConsumer Known
  cases h : m.consumers.lookup cid with
  | none =>
    refine ⟨fun hc => ⟨?_, hc⟩, And.right⟩
    rintro rfl
    simp [h] at hc
  | some entry =>
    rw [AList.lookup_erase_ite]
    by_cases hc : c = cid
    · simp [hc]
    · simp [hc]

theorem grantsOf_enterConsumer (consumer : Instance) (c : ConsumerId) :
    (m.enterConsumer consumer).grantsOf c = m.grantsOf c := by
  simp only [enterConsumer, grantsOf, AList.lookup_orInsert]
  split
  · next hc =>
    rw [hc]
    cases m.consumers.lookup consumer.id <;> rfl
  · rfl

theorem known_enterConsumer (consumer : Instance) (c : ConsumerId) :
    (m.enterConsumer consumer).Known c ↔ c = consumer.id ∨ m.Known c := by
  simp only [enterConsumer, Known, AList.lookup_orInsert]
  by_cases hc : c = consumer.id
  · simp [hc]
  · simp [hc]

variable {m}

/-- A grant that is assigned had a valid shard; nothing else of it is checked. -/
theorem assignGrant_ok {cid : ConsumerId} {g : pb.GrantInfo} {m' : ClusterMap}
    (h : m.assignGrant cid g = .ok m') :
    ∃ shard, m' =
      { m with
        consumers := m.consumers.modify cid fun entry =>
          { entry with grants := entry.grants ++ [⟨g.id⟩] }
        grants := m.grants.insert ⟨g.id⟩
          { id := ⟨g.id⟩, shard, state := grantStateFromI32 g.state, consumer := cid } } := by
  unfold assignGrant at h
  obtain ⟨raw, -, h⟩ := Except.bind_eq_ok.1 h
  obtain ⟨shard, -, h⟩ := Except.bind_eq_ok.1 h
  cases h
  exact ⟨shard, rfl⟩

theorem ownerOf_assignGrant {cid : ConsumerId} {g : pb.GrantInfo} {m' : ClusterMap}
    (h : m.assignGrant cid g = .ok m') (k : GrantId) :
    m'.ownerOf k = if k = ⟨g.id⟩ then some cid else m.ownerOf k := by
  obtain ⟨shard, rfl⟩ := assignGrant_ok h
  simp only [ownerOf, AList.lookup_insert_ite]
  split <;> rfl

/-- Assigning a grant appends its id to the list of the consumer and changes no other list. -/
theorem grantsOf_assignGrant {cid : ConsumerId} {g : pb.GrantInfo} {m' : ClusterMap}
    (h : m.assignGrant cid g = .ok m') (hk : m.Known cid) (c : ConsumerId) :
    m'.grantsOf c = if c = cid then m.grantsOf c ++ [⟨g.id⟩] else m.grantsOf c := by
  obtain ⟨shard, rfl⟩ := assignGrant_ok h
  obtain ⟨entry, he⟩ := Option.isSome_iff_exists.1 hk
  simp only [grantsOf, AList.lookup_modify]
  split
  · next hc => subst hc; rw [he]; rfl
  · rfl

theorem known_assignGrant {cid : ConsumerId} {g : pb.GrantInfo} {m' : ClusterMap}
    (h : m.assignGrant cid g = .ok m') (c : ConsumerId) : m'.Known c ↔ m.Known c := by
  obtain ⟨shard, rfl⟩ := assignGrant_ok h
  simp only [Known, AList.lookup_modify]
  split
  · next hc => rw [hc, Option.isSome_map]
  · exact Iff.rfl

/-- An update changes the shard and the state of a grant that is there, and neither index. -/
theorem updateGrant_ok {g : pb.GrantInfo} {m' : ClusterMap} (h : m.updateGrant g = .ok m') :
    (m.grants.lookup ⟨g.id⟩ = none ∧ m' = m) ∨
    ∃ entry shard, m.grants.lookup ⟨g.id⟩ = some entry ∧ m' =
      { m with
        grants := m.grants.insert ⟨g.id⟩
          { entry with shard, state := grantStateFromI32 g.state } } := by
  cases he : m.grants.lookup ⟨g.id⟩ with
  | none =>
    simp only [updateGrant, he] at h
    cases h
    exact .inl ⟨rfl, rfl⟩
  | some entry =>
    simp only [updateGrant, he] at h
    obtain ⟨shard, -, h⟩ := Except.bind_eq_ok.1 h
    cases h
    exact .inr ⟨entry, shard, rfl, rfl⟩

theorem updateGrant_index {g : pb.GrantInfo} {m' : ClusterMap} (h : m.updateGrant g = .ok m') :
    m'.consumers = m.consumers ∧ ∀ k, m'.ownerOf k = m.ownerOf k := by
  rcases updateGrant_ok h with ⟨-, rfl⟩ | ⟨entry, shard, he, rfl⟩
  · exact ⟨rfl, fun _ => rfl⟩
  · refine ⟨rfl, fun k => ?_⟩
    simp only [ownerOf, AList.lookup_insert_ite]
    split
    · next hk => rw [hk, he]; rfl
    · rfl

end edits

/-! ## The indexes agree -/

/-- The two indexes agree: a consumer lists a grant exactly if the grant names that consumer, and
lists it once. -/
structure Consistent (m : ClusterMap) : Prop where
  agree : ∀ c g, g ∈ m.grantsOf c ↔ m.ownerOf g = some c
  nodup : ∀ c, (m.grantsOf c).Nodup

theorem Consistent.empty : Consistent empty where
  agree _ _ := ⟨nofun, nofun⟩
  nodup _ := .nil

/-- The indexes of two maps that agree on `grantsOf` and `ownerOf` are equally consistent. -/
theorem Consistent.congr {m m' : ClusterMap} (h : Consistent m)
    (hg : ∀ c, m'.grantsOf c = m.grantsOf c) (ho : ∀ g, m'.ownerOf g = m.ownerOf g) :
    Consistent m' where
  agree c g := by rw [hg, ho]; exact h.agree c g
  nodup c := by rw [hg]; exact h.nodup c

theorem Consistent.dropGrant {m : ClusterMap} (h : Consistent m) (gid : GrantId) :
    Consistent (m.dropGrant gid) where
  agree c g := by
    rw [grantsOf_dropGrant, ownerOf_dropGrant]
    by_cases hg : g = gid
    · subst hg
      rw [if_pos rfl]
      refine iff_of_false (fun hmem => ?_) nofun
      split at hmem
      · simp at hmem
      · next ho => exact ho ((h.agree c g).1 hmem)
    · rw [if_neg hg, ← h.agree c g]
      split
      · simp [hg]
      · exact Iff.rfl
  nodup c := by
    rw [grantsOf_dropGrant]
    split
    · exact (h.nodup c).filter _
    · exact h.nodup c

theorem Consistent.updateGrant {m m' : ClusterMap} (h : Consistent m) {g : pb.GrantInfo}
    (hok : m.updateGrant g = .ok m') : Consistent m' := by
  obtain ⟨hc, ho⟩ := updateGrant_index hok
  exact h.congr (fun c => by rw [grantsOf, hc, ← grantsOf]) ho

/-- On a consistent map the list of a consumer is exactly the set of its grants, so deleting
through the list deletes nothing of another consumer. -/
theorem Consistent.removeConsumer {m : ClusterMap} (h : Consistent m) (cid : ConsumerId) :
    Consistent (m.removeConsumer cid) where
  agree c g := by
    rw [grantsOf_removeConsumer, ownerOf_removeConsumer]
    by_cases hc : c = cid
    · subst hc
      rw [if_pos rfl]
      refine iff_of_false nofun fun ho => ?_
      split at ho
      · cases ho
      · next hmem => exact hmem ((h.agree c g).2 ho)
    · rw [if_neg hc]
      constructor
      · intro hmem
        have ho := (h.agree c g).1 hmem
        rw [if_neg, ho]
        intro hcid
        rw [(h.agree cid g).1 hcid] at ho
        exact hc (Option.some.inj ho).symm
      · intro ho
        split at ho
        · cases ho
        · exact (h.agree c g).2 ho
  nodup c := by
    rw [grantsOf_removeConsumer]
    split
    · exact .nil
    · exact h.nodup c

theorem Consistent.enterConsumer {m : ClusterMap} (h : Consistent m) (consumer : Instance) :
    Consistent (m.enterConsumer consumer) :=
  h.congr (grantsOf_enterConsumer m consumer) (fun _ => rfl)

/-- Assigning a grant that is not in the map keeps the indexes in agreement. -/
theorem Consistent.assignGrant {m m' : ClusterMap} (h : Consistent m) {cid : ConsumerId}
    {g : pb.GrantInfo} (hk : m.Known cid) (hok : m.assignGrant cid g = .ok m')
    (hfresh : m.ownerOf ⟨g.id⟩ = none) : Consistent m' where
  agree c k := by
    rw [grantsOf_assignGrant hok hk, ownerOf_assignGrant hok]
    have hnot : ∀ c, ⟨g.id⟩ ∉ m.grantsOf c := fun c hmem => by
      rw [(h.agree c _).1 hmem] at hfresh
      cases hfresh
    by_cases hc : c = cid <;> by_cases hkg : k = ⟨g.id⟩
    · simp [hc, hkg]
    · simp [hc, hkg, h.agree]
    · subst hkg
      rw [if_neg hc, if_pos rfl]
      exact iff_of_false (hnot c) (fun he => hc (Option.some.inj he).symm)
    · simp [hc, hkg, h.agree]
  nodup c := by
    rw [grantsOf_assignGrant hok hk]
    split
    · refine List.Nodup.append (h.nodup c) (List.nodup_singleton _) ?_
      intro k hk hmem
      rw [List.mem_singleton] at hmem
      subst hmem
      rw [(h.agree c _).1 hk] at hfresh
      cases hfresh
    · exact h.nodup c

/-- One assignment keeps the indexes in agreement exactly if the grant is not in the map: on the
list of its previous owner, or on its own list a second time, the id stays. -/
theorem Consistent.assignGrant_iff {m m' : ClusterMap} (h : Consistent m) {cid : ConsumerId}
    {g : pb.GrantInfo} (hk : m.Known cid) (hok : m.assignGrant cid g = .ok m') :
    Consistent m' ↔ m.ownerOf ⟨g.id⟩ = none := by
  refine ⟨fun h' => ?_, h.assignGrant hk hok⟩
  cases ho : m.ownerOf ⟨g.id⟩ with
  | none => rfl
  | some c =>
    exfalso
    have hmem : ⟨g.id⟩ ∈ m.grantsOf c := (h.agree c _).2 ho
    by_cases hc : c = cid
    · have hnd := h'.nodup cid
      rw [grantsOf_assignGrant hok hk, if_pos rfl, ← hc] at hnd
      exact List.disjoint_of_nodup_append hnd hmem (List.mem_singleton.2 rfl)
    · have hmem' : ⟨g.id⟩ ∈ m'.grantsOf c := by
        rw [grantsOf_assignGrant hok hk, if_neg hc]
        exact hmem
      have ho' := (h'.agree c _).1 hmem'
      rw [ownerOf_assignGrant hok, if_pos rfl] at ho'
      exact hc (Option.some.inj ho').symm

/-! ## Messages that assign fresh ids -/

/-- The grant ids a list of assignments names, in order. -/
def assignedIds (assignments : List pb.Assignment) : List GrantId :=
  assignments.flatMap fun a => a.grants.map fun g => ⟨g.id⟩

/-- A grant is in the map, and stays there when a change replaces the shard list. -/
def survives (m : ClusterMap) (change : pb.Change) (gid : GrantId) : Bool :=
  match m.grants.lookup gid, change.shards.map decodeShards with
  | none, _ => false
  | some entry, some (.ok shards) => decide (entry.shard ∈ shards)
  | some _, _ => true

/-- No grant id is assigned twice by the message, nor while it is in the map. -/
def AssignsFresh (m : ClusterMap) (msg : pb.ClusterMessage) : Prop :=
  match msg.msg with
  | some (.snapshot snap) => (assignedIds snap.assignments).Nodup
  | some (.change change) =>
    (assignedIds (change.assign.getD [])).Nodup ∧
      ∀ gid ∈ assignedIds (change.assign.getD []), m.survives change gid = false
  | none => True

instance (m : ClusterMap) (msg : pb.ClusterMessage) : Decidable (m.AssignsFresh msg) := by
  unfold AssignsFresh
  split <;> infer_instance

/-- The ids of a list are distinct and none of them is in the map. -/
def FreshIn (ids : List GrantId) (m : ClusterMap) : Prop :=
  ids.Nodup ∧ ∀ k ∈ ids, m.ownerOf k = none

/-- Assigning a fresh id leaves the other fresh ids fresh. -/
theorem FreshIn.assignGrant {m m' : ClusterMap} {cid : ConsumerId} {g : pb.GrantInfo}
    {ids : List GrantId} (h : FreshIn (⟨g.id⟩ :: ids) m) (hok : m.assignGrant cid g = .ok m') :
    FreshIn ids m' := by
  obtain ⟨hnd, hfresh⟩ := h
  obtain ⟨hnot, hnd⟩ := List.nodup_cons.1 hnd
  refine ⟨hnd, fun k hk => ?_⟩
  rw [ownerOf_assignGrant hok, if_neg, hfresh k (List.mem_cons_of_mem _ hk)]
  rintro rfl
  exact hnot hk

/-- Dropping a list of grants empties exactly the places of these ids. -/
theorem lookup_dropGrants (m : ClusterMap) (ids : List GrantId) (g : GrantId) :
    (ids.foldl dropGrant m).grants.lookup g =
      if g ∈ ids then none else m.grants.lookup g := by
  induction ids generalizing m with
  | nil => rfl
  | cons gid ids ih =>
    rw [List.foldl_cons, ih, lookup_dropGrant]
    by_cases hg : g ∈ ids
    · simp [hg]
    · simp [hg, List.mem_cons]

theorem ownerOf_dropGrants (m : ClusterMap) (ids : List GrantId) (g : GrantId) :
    (ids.foldl dropGrant m).ownerOf g = if g ∈ ids then none else m.ownerOf g := by
  simp only [ownerOf, lookup_dropGrants]
  split <;> rfl

/-- After the shard block, the grants in the map are the ones that survive it. -/
theorem ownerOf_changeShards {m m' : ClusterMap} {change : pb.Change} {raw : List pb.Shard}
    (hraw : change.shards = some raw) (hok : m.changeShards raw = .ok m') {gid : GrantId}
    (hs : m.survives change gid = false) : m'.ownerOf gid = none := by
  unfold changeShards at hok
  obtain ⟨shards, hdec, hok⟩ := Except.bind_eq_ok.1 hok
  cases hok
  rw [ownerOf_dropGrants]
  split
  · rfl
  · next hmem =>
    unfold survives at hs
    rw [hraw, Option.map_some, hdec] at hs
    unfold ownerOf
    cases hl : m.grants.lookup gid with
    | none => rfl
    | some entry =>
      rw [hl] at hs
      exact absurd (AList.mem_keysWhere.2 ⟨entry, hl, by simpa using hs⟩) hmem

/-- An optional block that ran left the map as it was or did its work. -/
theorem ifPart_ok {α : Type} {part : Option α} {m m' : ClusterMap}
    {block : ClusterMap → α → Result ClusterMap} (h : ifPart part m block = .ok m') :
    (part = none ∧ m' = m) ∨ ∃ p, part = some p ∧ block m p = .ok m' := by
  cases part with
  | none => cases h; exact .inl ⟨rfl, rfl⟩
  | some p => exact .inr ⟨p, rfl, h⟩

theorem Consistent.changeShards {m m' : ClusterMap} (h : Consistent m) {raw : List pb.Shard}
    (hok : m.changeShards raw = .ok m') : Consistent m' := by
  unfold ClusterMap.changeShards at hok
  obtain ⟨shards, -, hok⟩ := Except.bind_eq_ok.1 hok
  cases hok
  exact List.foldl_invariant (fun s gid hs => hs.dropGrant gid)
    (show Consistent { m with shards } from h.congr (fun _ => rfl) (fun _ => rfl))

section
variable [UuidCrate]

/-- One assignment of fresh ids, with more fresh ids to come. -/
theorem Consistent.applyAssignment {m m' : ClusterMap} (h : Consistent m) {a : pb.Assignment}
    {later : List GrantId} (hfresh : FreshIn (assignedIds [a] ++ later) m)
    (hok : m.applyAssignment a = .ok m') : Consistent m' ∧ FreshIn later m' := by
  unfold ClusterMap.applyAssignment at hok
  obtain ⟨raw, -, hok⟩ := Except.bind_eq_ok.1 hok
  obtain ⟨consumer, -, hok⟩ := Except.bind_eq_ok.1 hok
  have hmap : assignedIds [a] = a.grants.map fun g => ⟨g.id⟩ := by simp [assignedIds]
  rw [hmap] at hfresh
  have hinv := List.foldlM_invariant_rest
    (I := fun gs s => (Consistent s ∧ s.Known consumer.id) ∧
      FreshIn ((gs.map fun g => ⟨g.id⟩) ++ later) s)
    (fun g gs s t hs hst => ?_) hok
    ⟨⟨h.enterConsumer consumer, (known_enterConsumer m consumer _).2 (.inl rfl)⟩, hfresh⟩
  · exact ⟨hinv.1.1, hinv.2⟩
  · obtain ⟨⟨hcons, hknown⟩, hf⟩ := hs
    exact ⟨⟨hcons.assignGrant hknown hst (hf.2 _ (List.mem_cons_self ..)),
      (known_assignGrant hst _).2 hknown⟩, hf.assignGrant hst⟩

theorem Consistent.changeAssign {m m' : ClusterMap} (h : Consistent m)
    {assignments : List pb.Assignment} (hfresh : FreshIn (assignedIds assignments) m)
    (hok : m.changeAssign assignments = .ok m') : Consistent m' := by
  refine (List.foldlM_invariant_rest
    (I := fun as s => Consistent s ∧ FreshIn (assignedIds as) s)
    (fun a as s t hs hst => ?_) hok ⟨h, hfresh⟩).1
  refine hs.1.applyAssignment ?_ hst
  simpa [assignedIds] using hs.2

/-- **A change.** Each of its blocks keeps the indexes in agreement, the `assign` block because
its ids are fresh after the `shards` block. -/
theorem Consistent.applyChange {m m' : ClusterMap} (h : Consistent m) {change : pb.Change}
    {version : Int64} {timestamp : SystemTime}
    (hnd : (assignedIds (change.assign.getD [])).Nodup)
    (hfresh : ∀ gid ∈ assignedIds (change.assign.getD []), m.survives change gid = false)
    (hok : m.applyChange change version timestamp = .ok m') : Consistent m' := by
  obtain ⟨m₄, hparts, h₅⟩ := Except.bind_eq_ok.1 hok
  obtain ⟨m₁, h₁, hparts⟩ := Except.bind_eq_ok.1 hparts
  obtain ⟨m₂, h₂, hparts⟩ := Except.bind_eq_ok.1 hparts
  obtain ⟨m₃, h₃, h₄⟩ := Except.bind_eq_ok.1 hparts
  set m₀ : ClusterMap := { m with id := { version, origin := m.id.origin, timestamp } } with hm₀
  have hc₀ : Consistent m₀ := h.congr (fun _ => rfl) (fun _ => rfl)
  have hc₁ : Consistent m₁ ∧ FreshIn (assignedIds (change.assign.getD [])) m₁ := by
    rcases ifPart_ok h₁ with ⟨hnone, rfl⟩ | ⟨raw, hraw, hrun⟩
    · refine ⟨hc₀, hnd, fun k hk => ?_⟩
      have hs := hfresh k hk
      unfold survives at hs
      rw [hnone] at hs
      show (m.grants.lookup k).map _ = none
      cases hl : m.grants.lookup k with
      | none => rfl
      | some entry => rw [hl] at hs; cases hs
    · exact ⟨hc₀.changeShards hrun, hnd, fun k hk =>
        ownerOf_changeShards (m := m₀) hraw hrun (hfresh k hk)⟩
  have hc₂ : Consistent m₂ := by
    rcases ifPart_ok h₂ with ⟨-, rfl⟩ | ⟨as, has, hrun⟩
    · exact hc₁.1
    · have hf := hc₁.2
      rw [has] at hf
      exact hc₁.1.changeAssign hf hrun
  have hc₃ : Consistent m₃ := by
    rcases ifPart_ok h₃ with ⟨-, rfl⟩ | ⟨gs, -, hrun⟩
    · exact hc₂
    · exact List.foldlM_invariant (fun s g t hs hst => hs.updateGrant hst) hrun hc₂
  have hc₄ : Consistent m₄ := by
    rcases ifPart_ok h₄ with ⟨-, rfl⟩ | ⟨gs, -, hrun⟩
    · exact hc₃
    · cases hrun
      exact List.foldl_invariant (fun s gid hs => hs.dropGrant _) hc₃
  rcases ifPart_ok h₅ with ⟨-, rfl⟩ | ⟨cs, -, hrun⟩
  · exact hc₄
  · cases hrun
    exact List.foldl_invariant (fun s cid hs => hs.removeConsumer cid) hc₄

/-- **One message.** A message that assigns fresh ids only keeps the indexes in agreement. -/
theorem Consistent.apply {m m' : ClusterMap} (h : Consistent m) {msg : pb.ClusterMessage}
    (hfresh : m.AssignsFresh msg) (hok : m.apply msg = .ok m') : Consistent m' := by
  unfold ClusterMap.apply at hok
  obtain ⟨timestamp, -, hok⟩ := Except.bind_eq_ok.1 hok
  unfold AssignsFresh at hfresh
  split at hok
  · next snap hmsg =>
    rw [hmsg] at hfresh
    unfold applySnapshot at hok
    obtain ⟨shards, -, hok⟩ := Except.bind_eq_ok.1 hok
    obtain ⟨origin, -, hok⟩ := Except.bind_eq_ok.1 hok
    refine Consistent.changeAssign ?_ ⟨hfresh, fun _ _ => rfl⟩ hok
    exact Consistent.empty.congr (fun _ => rfl) (fun _ => rfl)
  · next change hmsg =>
    rw [hmsg] at hfresh
    exact h.applyChange hfresh.1 hfresh.2 hok
  · cases hok

/-- **The indexes agree in every run of fresh assignments.** From the empty map, in every state of
a run whose accepted messages assign fresh grant ids only, the two indexes agree. -/
theorem consistent_of_fresh (msgs : List pb.ClusterMessage)
    (hfresh : machine.Guarded
      (fun m msg => (∃ next, m.apply msg = .ok next) → m.AssignsFresh msg) empty msgs) :
    machine.Always Consistent empty msgs := by
  refine Machine.always_of_guarded (fun m msg m' hm hstep hc => ?_) Consistent.empty hfresh
  cases hstep
  unfold receive
  cases hok : m.apply msg with
  | error e => exact hm
  | ok next => exact hm.apply (hc ⟨next, hok⟩) hok

end

/-! ## A grant assigned again -/

/-- A consumer instance of the wire, by its identifier. -/
def wireInstance (id endpoint : String) : pb.Instance :=
  { «instance» := some { id, location := none, created := some ⟨0, 0⟩, name := "" }, endpoint }

/-- The whole key space of one domain. -/
def wireShard (kind : Int32) : pb.Shard :=
  { domain := some { service := some { tenant := "t", service := "s" }, name := "d" }
    type := kind, region := "", «from» := "", «to» := "" }

/-- A change that assigns one active grant of the whole domain to one consumer. -/
def assignOne (version : Int64) (consumer gid : String) : pb.ClusterMessage :=
  { msg := some (.change
      { assign := some [{ consumer := some (wireInstance consumer ""),
                          grants := [{ id := gid, shard := some (wireShard 2), state := 1 }] }]
        update := none, unassign := none, remove := none, shards := none })
    id := "", version, timestamp := none }

/-- A change that removes one consumer. -/
def removeOne (version : Int64) (consumer : String) : pb.ClusterMessage :=
  { msg := some (.change
      { assign := none, update := none, unassign := none, remove := some [consumer],
        shards := none })
    id := "", version, timestamp := none }

/-- The two identifiers of `UuidCrate.pair`. -/
def idA : String := "00000000-0000-0000-0000-00000000000a"

@[inherit_doc idA] def idB : String := "00000000-0000-0000-0000-00000000000b"

/-- The agreement along a run that assigns two grants to two consumers and removes one of them. -/
theorem consistent_of_fresh_two :
    (@machine UuidCrate.pair).Always Consistent empty
      [assignOne 1 idA "g", assignOne 2 idB "h", removeOne 3 idA] := by
  let := UuidCrate.pair
  refine consistent_of_fresh _ ?_
  refine Machine.guarded_cons.2 fun m₁ h₁ => ⟨fun _ => by decide, ?_⟩
  cases h₁
  refine Machine.guarded_cons.2 fun m₂ h₂ => ⟨fun _ => by decide, ?_⟩
  cases h₂
  exact Machine.guarded_cons.2 fun m₃ _ => ⟨fun _ => by decide, Machine.guarded_nil⟩

/-- The map after a grant was assigned to one consumer and then to another. -/
def movedMap : ClusterMap :=
  letI := UuidCrate.pair
  (empty.receive (assignOne 1 idA "g")).receive (assignOne 2 idB "g")

/-- **The indexes can part.** A grant that is assigned to one consumer and then to another stays
on the list of the first, though it names the second. -/
theorem assign_moved_inconsistent :
    (@machine UuidCrate.pair).Reachable movedMap ∧ ¬ Consistent movedMap := by
  let := UuidCrate.pair
  refine ⟨.step (.step (.init rfl) rfl) rfl, fun h => ?_⟩
  have hlisted : ⟨"g"⟩ ∈ movedMap.grantsOf ⟨⟨10⟩⟩ := by decide
  have howner : movedMap.ownerOf ⟨"g"⟩ = some ⟨⟨11⟩⟩ := by decide
  rw [h.agree, howner] at hlisted
  revert hlisted
  decide

end ClusterMap

end Splitter
