import Mathlib.Data.Set.Insert
import Splitter.Cluster.Edits

/-!
# The cluster map against its meaning

`ClusterView` is what a cluster map says: a set of consumers, a shard, a state and one owner for
each grant, and the shard list. Its operations are the protocol's reading of a `ClusterMessage`;
deleting a consumer deletes exactly the grants it owns. `view` forgets the per-consumer lists of a
`ClusterMap`.

Every edit but one commutes with `view`. `removeConsumer` deletes through the consumer's list,
which by `Owned` holds every grant the consumer owns but may hold a grant that was since assigned
to another consumer; `view_removeConsumers_iff` says exactly when that goes wrong, and
`view_refines_iff` that nothing else does, over all runs from the empty map.
-/

namespace Splitter

/-- What a cluster says about one grant. -/
@[ext] structure GrantView where
  shard : Shard
  state : GrantState
  owner : ConsumerId

/-- What a cluster map says, without its per-consumer lists. -/
@[ext] structure ClusterView where
  consumers : Set ConsumerId
  grants : GrantId → Option GrantView
  shards : List Shard

/-! ## The protocol's reading of a message -/

/-- A grant of an assignment, decoded. -/
structure DecodedGrant where
  id : GrantId
  shard : Shard
  state : GrantState

def decodeGrantInfo (g : pb.GrantInfo) : Result DecodedGrant := do
  let shard ← okOrInvalid g.shard "GrantInfo without shard"
  let shard ← Shard.tryFrom shard
  pure { id := ⟨g.id⟩, shard, state := grantStateFromI32 g.state }

/-- An assignment, decoded: its consumer and its grants. -/
def decodeAssignment [UuidCrate] (a : pb.Assignment) :
    Result (ConsumerId × List DecodedGrant) := do
  let consumer ← okOrInvalid a.consumer "Assignment without consumer"
  let consumer ← Instance.tryFrom consumer
  let grants ← a.grants.mapM decodeGrantInfo
  pure (consumer.id, grants)

namespace ClusterView

/-- No consumer, no grant, no shard. -/
def empty : ClusterView := { consumers := ∅, grants := fun _ => none, shards := [] }

/-- Insert or overwrite a grant with its new owner. -/
def insertGrant (c : ConsumerId) (v : ClusterView) (g : DecodedGrant) : ClusterView :=
  { v with grants := Function.update v.grants g.id (some ⟨g.shard, g.state, c⟩) }

/-- Insert a consumer and every grant assigned to it. -/
def assign (v : ClusterView) (a : ConsumerId × List DecodedGrant) : ClusterView :=
  a.2.foldl (insertGrant a.1) { v with consumers := insert a.1 v.consumers }

/-- Replace the shard list and delete exactly the grants whose shard is not in it. -/
def restrictTo (v : ClusterView) (shards : List Shard) : ClusterView :=
  { v with grants := fun g => (v.grants g).filter fun e => decide (e.shard ∈ shards), shards }

/-- Set the state, and the shard when given, of a grant that exists. -/
def updateGrant (v : ClusterView) (g : pb.GrantInfo) : Result ClusterView :=
  match v.grants ⟨g.id⟩ with
  | none => pure v
  | some e => do
    let shard ← (g.shard.map Shard.tryFrom).getD (pure e.shard)
    let e' : GrantView := { e with shard, state := grantStateFromI32 g.state }
    pure { v with grants := Function.update v.grants ⟨g.id⟩ (some e') }

/-- Delete a grant. -/
def deleteGrant (v : ClusterView) (gid : GrantId) : ClusterView :=
  { v with grants := Function.update v.grants gid none }

/-- Delete a consumer together with exactly the grants it owns. -/
def removeConsumer (v : ClusterView) (c : ConsumerId) : ClusterView :=
  { v with
    consumers := v.consumers \ {c}
    grants := fun g => (v.grants g).filter fun e => decide (e.owner ≠ c) }

section
variable [UuidCrate]

/-- An optional part of a change. -/
def ifPart {α : Type} (part : Option α) (v : ClusterView)
    (block : ClusterView → α → Result ClusterView) : Result ClusterView :=
  match part with
  | some part => block v part
  | none => pure v

/-- The parts of a change before its removals. -/
def changeParts (v : ClusterView) (change : pb.Change) : Result ClusterView := do
  let v ← ifPart change.shards v fun v raw => (ClusterMap.decodeShards raw).map v.restrictTo
  let v ← ifPart change.assign v fun v as => (as.mapM decodeAssignment).map fun as =>
    as.foldl assign v
  let v ← ifPart change.update v fun v gs => gs.foldlM updateGrant v
  ifPart change.unassign v fun v gs => pure (gs.foldl (fun v gid => v.deleteGrant ⟨gid⟩) v)

/-- The meaning of a cluster message. -/
def apply (v : ClusterView) (msg : pb.ClusterMessage) : Result ClusterView := do
  let _ ← ClusterMap.messageTimestamp msg
  match msg.msg with
  | some (.snapshot snap) => do
    let shards ← ClusterMap.decodeShards snap.shards
    let _ ← snap.origin.mapM Instance.tryFromLocation
    let as ← snap.assignments.mapM decodeAssignment
    pure (as.foldl assign { empty with shards })
  | some (.change change) => do
    let v ← v.changeParts change
    ifPart change.remove v fun v cs =>
      pure ((ClusterMap.removedIds cs).foldl removeConsumer v)
  | none => .error (.error (.invalidMessage "ClusterMessage without a variant"))

/-- A message that fails to decode changes nothing. -/
def receive (v : ClusterView) (msg : pb.ClusterMessage) : ClusterView :=
  match v.apply msg with
  | .ok next => next
  | .error _ => v

end

end ClusterView

namespace ClusterMap

/-- What a cluster map says. -/
def view (m : ClusterMap) : ClusterView where
  consumers := {c | m.Known c}
  grants g := (m.grants.lookup g).map fun e => ⟨e.shard, e.state, e.consumer⟩
  shards := m.shards

theorem view_empty : view empty = .empty := by
  ext c
  · simp [view, Known, empty, ClusterView.empty]
  · rfl
  · rfl

/-! ## The edits that commute with the view -/

theorem view_dropGrant (m : ClusterMap) (gid : GrantId) :
    (m.dropGrant gid).view = m.view.deleteGrant gid := by
  apply ClusterView.ext
  · ext c
    exact known_dropGrant m gid c
  · funext g
    simp only [view, ClusterView.deleteGrant, lookup_dropGrant, Function.update_apply]
    split <;> rfl
  · unfold dropGrant
    cases m.grants.lookup gid <;> rfl

theorem view_updateGrant (m : ClusterMap) (g : pb.GrantInfo) :
    (m.updateGrant g).map view = m.view.updateGrant g := by
  unfold updateGrant ClusterView.updateGrant
  simp only [view]
  cases m.grants.lookup ⟨g.id⟩ with
  | none => rfl
  | some entry =>
    simp only [Option.map_some]
    cases hs : (g.shard.map Shard.tryFrom).getD (pure entry.shard) with
    | error e => rfl
    | ok shard =>
      refine congrArg Except.ok (ClusterView.ext rfl ?_ rfl)
      funext k
      simp only [view, AList.lookup_insert_ite, Function.update_apply]
      split <;> rfl

theorem view_assignGrant (c : ConsumerId) (m : ClusterMap) (g : pb.GrantInfo) :
    (m.assignGrant c g).map view = (decodeGrantInfo g).map (ClusterView.insertGrant c m.view) := by
  unfold assignGrant decodeGrantInfo
  cases hr : okOrInvalid g.shard "GrantInfo without shard" with
  | error e => rfl
  | ok raw =>
    cases hs : Shard.tryFrom raw with
    | error e => simp [bind, Except.bind, hs, Except.map]
    | ok shard =>
      simp only [bind, Except.bind, hs, Except.map]
      refine congrArg Except.ok (ClusterView.ext ?_ ?_ rfl)
      · ext k
        simp only [view, Known, AList.lookup_modify, ClusterView.insertGrant, Set.mem_ofPred_eq]
        split
        · next hk => rw [hk, Option.isSome_map]
        · exact Iff.rfl
      · funext k
        simp only [view, AList.lookup_insert_ite, ClusterView.insertGrant, Function.update_apply]
        split <;> rfl

theorem view_enterConsumer (m : ClusterMap) (consumer : Instance) :
    (m.enterConsumer consumer).view =
      { m.view with consumers := insert consumer.id m.view.consumers } := by
  refine ClusterView.ext ?_ rfl rfl
  ext c
  exact known_enterConsumer m consumer c

section
variable [UuidCrate]

theorem view_applyAssignment (m : ClusterMap) (a : pb.Assignment) :
    (m.applyAssignment a).map view = (decodeAssignment a).map m.view.assign := by
  unfold applyAssignment decodeAssignment
  cases hr : okOrInvalid a.consumer "Assignment without consumer" with
  | error e => rfl
  | ok raw =>
    simp only [bind, Except.bind]
    cases hc : Instance.tryFrom raw with
    | error e => rfl
    | ok consumer =>
      simp only
      rw [List.foldlM_simulation (p := view) (I := fun _ => True)
        (g := fun v g => (decodeGrantInfo g).map (ClusterView.insertGrant consumer.id v))
        (fun _ _ _ _ _ => trivial) (fun s g _ => view_assignGrant _ s g) trivial,
        List.foldlM_eq_mapM_foldl (fun _ _ => rfl), view_enterConsumer]
      cases a.grants.mapM decodeGrantInfo <;> rfl

theorem view_changeAssign (m : ClusterMap) (as : List pb.Assignment) :
    (m.changeAssign as).map view =
      (as.mapM decodeAssignment).map fun as => as.foldl ClusterView.assign m.view := by
  unfold changeAssign
  rw [List.foldlM_simulation (p := view) (I := fun _ => True)
    (g := fun v a => (decodeAssignment a).map v.assign)
    (fun _ _ _ _ _ => trivial) (fun s a _ => view_applyAssignment s a) trivial,
    List.foldlM_eq_mapM_foldl (fun _ _ => rfl)]

end

theorem known_dropGrants (m : ClusterMap) (ids : List GrantId) (c : ConsumerId) :
    (ids.foldl dropGrant m).Known c ↔ m.Known c := by
  induction ids generalizing m with
  | nil => exact Iff.rfl
  | cons gid ids ih => rw [List.foldl_cons, ih, known_dropGrant]

theorem shards_dropGrants (m : ClusterMap) (ids : List GrantId) :
    (ids.foldl dropGrant m).shards = m.shards := by
  refine List.foldl_invariant (P := fun s : ClusterMap => s.shards = m.shards) (fun s gid hs => ?_) rfl
  rw [← hs]
  unfold dropGrant
  cases s.grants.lookup gid <;> rfl

/-- The shard block drops exactly the grants off the new list. -/
theorem view_changeShards (m : ClusterMap) (raw : List pb.Shard) :
    (m.changeShards raw).map view = (decodeShards raw).map m.view.restrictTo := by
  unfold changeShards
  cases hd : decodeShards raw with
  | error e => rfl
  | ok shards =>
    refine congrArg Except.ok (ClusterView.ext ?_ ?_ ?_)
    · ext c
      exact known_dropGrants _ _ c
    · funext g
      simp only [view, ClusterView.restrictTo, lookup_dropGrants, AList.mem_keysWhere]
      cases hl : m.grants.lookup g with
      | none => simp
      | some entry =>
        by_cases hmem : entry.shard ∈ shards
        · simp [Option.filter_some, hmem]
        · simp [Option.filter_some, hmem]
    · exact shards_dropGrants _ _

theorem view_ifPart {α : Type} {part : Option α} {m : ClusterMap}
    {block : ClusterMap → α → Result ClusterMap} {block' : ClusterView → α → Result ClusterView}
    (h : ∀ m p, (block m p).map view = block' m.view p) :
    (ifPart part m block).map view = ClusterView.ifPart part m.view block' := by
  cases part with
  | none => rfl
  | some p => exact h m p

/-- A bind of computations that correspond under the view. -/
theorem view_bind {x : Result ClusterMap} {y : Result ClusterView}
    {f : ClusterMap → Result ClusterMap} {f' : ClusterView → Result ClusterView}
    (hx : x.map view = y) (hf : ∀ m, (f m).map view = f' m.view) :
    (x >>= f).map view = y >>= f' := by
  subst hx
  cases x with
  | error e => rfl
  | ok m => exact hf m

/-- **Everything before the removals commutes with the view**, failures included. -/
theorem view_changeParts [UuidCrate] (m : ClusterMap) (change : pb.Change) (version : Int64)
    (timestamp : SystemTime) :
    (m.changeParts change version timestamp).map view = m.view.changeParts change := by
  unfold changeParts ClusterView.changeParts
  refine view_bind (view_ifPart view_changeShards) fun m₁ => ?_
  refine view_bind (view_ifPart view_changeAssign) fun m₂ => ?_
  refine view_bind (view_ifPart fun m gs => ?_) fun m₃ => view_ifPart fun m gs => ?_
  · exact List.foldlM_simulation (I := fun _ => True) (fun _ _ _ _ _ => trivial)
      (fun s g _ => view_updateGrant s g) trivial
  · exact congrArg Except.ok (List.foldl_simulation (I := fun _ => True) (fun _ _ _ => trivial)
      (fun s gid _ => view_dropGrant s ⟨gid⟩) trivial)

/-- A snapshot says what its message means. -/
theorem view_applySnapshot [UuidCrate] (snap : pb.Snapshot) (version : Int64)
    (timestamp : SystemTime) :
    (applySnapshot snap version timestamp).map view = (do
      let shards ← decodeShards snap.shards
      let _ ← snap.origin.mapM Instance.tryFromLocation
      let as ← snap.assignments.mapM decodeAssignment
      pure (as.foldl ClusterView.assign { ClusterView.empty with shards })) := by
  unfold applySnapshot
  cases hd : decodeShards snap.shards with
  | error e => rfl
  | ok shards =>
    simp only [bind, Except.bind]
    cases ho : snap.origin.mapM Instance.tryFromLocation with
    | error e => rfl
    | ok origin =>
      simp only
      rw [view_changeAssign]
      have hv : view { id := { version, origin, timestamp }, consumers := ∅, grants := ∅, shards }
          = { ClusterView.empty with shards } :=
        ClusterView.ext (congrArg (·.consumers) view_empty :) rfl rfl
      rw [hv]
      cases snap.assignments.mapM decodeAssignment <;> rfl

/-! ## Owners are listed -/

/-- Every grant is on the list of the consumer it names. -/
def Owned (m : ClusterMap) : Prop := ∀ g c, m.ownerOf g = some c → g ∈ m.grantsOf c

theorem Owned.known {m : ClusterMap} (h : Owned m) {g : GrantId} {c : ConsumerId}
    (ho : m.ownerOf g = some c) : m.Known c := by
  have hmem := h g c ho
  unfold grantsOf at hmem
  unfold Known
  cases hl : m.consumers.lookup c with
  | none => rw [hl] at hmem; cases hmem
  | some entry => rfl

theorem Owned.empty : Owned empty := by
  intro g c ho
  cases ho

theorem Owned.congr {m m' : ClusterMap} (h : Owned m)
    (hg : ∀ c, m'.grantsOf c = m.grantsOf c) (ho : ∀ g, m'.ownerOf g = m.ownerOf g) :
    Owned m' := by
  intro g c hgc
  rw [ho] at hgc
  rw [hg]
  exact h g c hgc

theorem Owned.dropGrant {m : ClusterMap} (h : Owned m) (gid : GrantId) :
    Owned (m.dropGrant gid) := by
  intro g c ho
  rw [ownerOf_dropGrant] at ho
  split at ho
  · cases ho
  · next hg =>
    rw [grantsOf_dropGrant]
    split
    · exact List.mem_filter.2 ⟨h g c ho, by simpa using hg⟩
    · exact h g c ho

theorem Owned.updateGrant {m m' : ClusterMap} (h : Owned m) {g : pb.GrantInfo}
    (hok : m.updateGrant g = .ok m') : Owned m' := by
  obtain ⟨hc, ho⟩ := updateGrant_index hok
  exact h.congr (fun c => by rw [grantsOf, hc, ← grantsOf]) ho

theorem Owned.enterConsumer {m : ClusterMap} (h : Owned m) (consumer : Instance) :
    Owned (m.enterConsumer consumer) :=
  h.congr (grantsOf_enterConsumer m consumer) (fun _ => rfl)

/-- Assigning a grant lists it under its new owner, whoever listed it before. -/
theorem Owned.assignGrant {m m' : ClusterMap} (h : Owned m) {cid : ConsumerId}
    {g : pb.GrantInfo} (hk : m.Known cid) (hok : m.assignGrant cid g = .ok m') : Owned m' := by
  intro k c ho
  rw [ownerOf_assignGrant hok] at ho
  rw [grantsOf_assignGrant hok hk]
  split at ho
  · next hkg =>
    rw [if_pos (Option.some.inj ho).symm, hkg]
    exact List.mem_append_right _ (List.mem_singleton.2 rfl)
  · split
    · exact List.mem_append_left _ (h k c ho)
    · exact h k c ho

/-- A grant that survives the removal of a consumer was not on its list, so it has another owner. -/
theorem Owned.removeConsumer {m : ClusterMap} (h : Owned m) (cid : ConsumerId) :
    Owned (m.removeConsumer cid) := by
  intro g c ho
  rw [ownerOf_removeConsumer] at ho
  split at ho
  · cases ho
  · next hnot =>
    rw [grantsOf_removeConsumer, if_neg]
    · exact h g c ho
    · rintro rfl
      exact hnot (h g c ho)

/-- Every message keeps the owners listed. -/
theorem Owned.kept : Kept Owned where
  fresh _ _ := Owned.empty.congr (fun _ => rfl) (fun _ => rfl)
  relabel _ _ _ h := h.congr (fun _ => rfl) (fun _ => rfl)
  dropGrant _ gid h := h.dropGrant gid
  updateGrant _ _ _ h hok := h.updateGrant hok
  enterConsumer _ consumer h := h.enterConsumer consumer
  assignGrant _ _ _ _ h hk hok := h.assignGrant hk hok
  removeConsumer _ cid h := h.removeConsumer cid

/-! ## The removals -/

theorem known_removeConsumers (m : ClusterMap) (cs : List ConsumerId) (c : ConsumerId) :
    (cs.foldl removeConsumer m).Known c ↔ c ∉ cs ∧ m.Known c := by
  induction cs generalizing m with
  | nil => simp
  | cons cid cs ih =>
    rw [List.foldl_cons, ih, known_removeConsumer, List.mem_cons, not_or]
    tauto

/-- The removals delete every grant on a list of a removed consumer. -/
theorem lookup_removeConsumers (m : ClusterMap) (cs : List ConsumerId) (g : GrantId) :
    (cs.foldl removeConsumer m).grants.lookup g =
      if ∃ c ∈ cs, g ∈ m.grantsOf c then none else m.grants.lookup g := by
  induction cs generalizing m with
  | nil => simp
  | cons cid cs ih =>
    rw [List.foldl_cons, ih, lookup_removeConsumer]
    by_cases hcid : g ∈ m.grantsOf cid
    · simp [hcid]
    · have hiff : (∃ c ∈ cs, g ∈ (m.removeConsumer cid).grantsOf c) ↔
          ∃ c ∈ cid :: cs, g ∈ m.grantsOf c := by
        constructor
        · rintro ⟨c, hc, hg⟩
          rw [grantsOf_removeConsumer] at hg
          split at hg
          · cases hg
          · exact ⟨c, List.mem_cons_of_mem _ hc, hg⟩
        · rintro ⟨c, hc, hg⟩
          rcases List.mem_cons.1 hc with rfl | hc
          · exact absurd hg hcid
          · refine ⟨c, hc, ?_⟩
            rw [grantsOf_removeConsumer, if_neg]
            · exact hg
            · rintro rfl
              exact hcid hg
      rw [if_neg hcid]
      exact if_congr hiff rfl rfl

theorem shards_removeConsumers (m : ClusterMap) (cs : List ConsumerId) :
    (cs.foldl removeConsumer m).shards = m.shards := by
  refine List.foldl_invariant (P := fun s : ClusterMap => s.shards = m.shards)
    (fun s cid hs => ?_) rfl
  rw [← hs]
  unfold removeConsumer
  cases s.consumers.lookup cid <;> rfl

end ClusterMap

/-- In the meaning, the removals delete the consumers and the grants they own. -/
theorem ClusterView.removeConsumers (v : ClusterView) (cs : List ConsumerId) :
    cs.foldl removeConsumer v =
      { v with
        consumers := {c | c ∈ v.consumers ∧ c ∉ cs}
        grants := fun g => (v.grants g).filter fun e => decide (e.owner ∉ cs) } := by
  induction cs generalizing v with
  | nil =>
    refine ClusterView.ext ?_ ?_ rfl
    · ext c; simp
    · funext g
      cases hv : v.grants g <;> simp [hv, Option.filter_some]
  | cons cid cs ih =>
    rw [List.foldl_cons, ih]
    refine ClusterView.ext ?_ ?_ rfl
    · ext c
      simp only [removeConsumer, Set.mem_sdiff, Set.mem_singleton_iff, Set.mem_ofPred_eq,
        List.mem_cons, not_or]
      tauto
    · funext g
      simp only [removeConsumer]
      cases hv : v.grants g with
      | none => rfl
      | some e =>
        by_cases he : e.owner = cid
        · simp [Option.filter_some, he]
        · by_cases he' : e.owner ∈ cs <;> simp [Option.filter_some, he, he']

namespace ClusterMap

/-- No grant of a consumer that stays is on the list of a consumer that is removed. -/
def RemovesOwnedOnly (m : ClusterMap) (cs : List ConsumerId) : Prop :=
  ∀ c ∈ cs, ∀ g ∈ m.grantsOf c, ∀ o, m.ownerOf g = some o → o ∈ cs

/-- **When deleting through the lists is right.** On a map that lists owners, the removals do what
they mean exactly if they take no grant of a consumer that stays. -/
theorem view_removeConsumers_iff {m : ClusterMap} (h : Owned m) (cs : List ConsumerId) :
    (cs.foldl removeConsumer m).view = cs.foldl ClusterView.removeConsumer m.view ↔
      m.RemovesOwnedOnly cs := by
  rw [ClusterView.removeConsumers]
  constructor
  · intro heq c hc g hg o ho
    by_contra hnot
    have hgr := congrFun (congrArg ClusterView.grants heq) g
    unfold ownerOf at ho
    obtain ⟨entry, hl, rfl⟩ := Option.map_eq_some_iff.1 ho
    have hex : ∃ c ∈ cs, g ∈ m.grantsOf c := ⟨c, hc, hg⟩
    simp [view, lookup_removeConsumers, hex, hl, Option.filter_some, hnot] at hgr
  · intro hrem
    refine ClusterView.ext ?_ ?_ ?_
    · ext c
      show (cs.foldl removeConsumer m).Known c ↔ m.Known c ∧ c ∉ cs
      rw [known_removeConsumers]
      exact And.comm
    · funext g
      simp only [view, lookup_removeConsumers]
      cases hl : m.grants.lookup g with
      | none => simp
      | some entry =>
        have ho : m.ownerOf g = some entry.consumer := by rw [ownerOf, hl]; rfl
        by_cases hex : ∃ c ∈ cs, g ∈ m.grantsOf c
        · obtain ⟨c, hc, hg⟩ := hex
          have hown : entry.consumer ∈ cs := hrem c hc g hg _ ho
          simp [Option.filter_some, hown, show ∃ c ∈ cs, g ∈ m.grantsOf c from ⟨c, hc, hg⟩]
        · have hown : entry.consumer ∉ cs := fun hmem => hex ⟨_, hmem, h g _ ho⟩
          simp [Option.filter_some, hown, hex]
    · exact shards_removeConsumers m cs

/-! ## The lists a change deletes through -/

/-- Dropping grants takes each off the list of its owner, and off no other list. -/
theorem mem_grantsOf_dropGrants (m : ClusterMap) (ids : List GrantId) (g : GrantId)
    (c : ConsumerId) :
    g ∈ (ids.foldl dropGrant m).grantsOf c ↔
      g ∈ m.grantsOf c ∧ ¬ (g ∈ ids ∧ m.ownerOf g = some c) := by
  induction ids generalizing m with
  | nil => simp
  | cons gid ids ih =>
    rw [List.foldl_cons, ih, grantsOf_dropGrant, ownerOf_dropGrant]
    by_cases hg : g = gid
    · subst hg
      by_cases ho : m.ownerOf g = some c <;> simp [ho]
    · by_cases ho : m.ownerOf gid = some c <;> simp [ho, hg]

/-- After the shard block a list has what it had, less the consumer's own grants that do not
survive. -/
theorem mem_grantsOf_changeShards {m m' : ClusterMap} {change : pb.Change} {raw : List pb.Shard}
    (hraw : change.shards = some raw) (hok : m.changeShards raw = .ok m') (g : GrantId)
    (c : ConsumerId) :
    g ∈ m'.grantsOf c ↔
      g ∈ m.grantsOf c ∧ (m.ownerOf g = some c → m.survives change g = true) := by
  unfold changeShards at hok
  obtain ⟨shards, hdec, hok⟩ := Except.bind_eq_ok.1 hok
  cases hok
  have howner : ∀ o, m.ownerOf g = some o →
      (g ∈ m.grants.keysWhere (fun e => decide (e.shard ∉ shards)) ↔
        m.survives change g = false) := by
    intro o ho
    obtain ⟨entry, hl, -⟩ := Option.map_eq_some_iff.1 ho
    simp [AList.mem_keysWhere, survives, hl, hraw, hdec]
  rw [mem_grantsOf_dropGrants]
  refine and_congr Iff.rfl ?_
  constructor
  · intro hnot ho
    by_contra hsurvives
    exact hnot ⟨(howner c ho).2 (by simpa using hsurvives), ho⟩
  · rintro hsurvives ⟨hdrop, ho⟩
    have ho : m.ownerOf g = some c := ho
    rw [(howner c ho).1 hdrop] at hsurvives
    exact absurd (hsurvives ho) (by simp)

/-- Assigning grants to a consumer puts their ids on its list. -/
theorem mem_grantsOf_assignGrants {m m' : ClusterMap} {cid : ConsumerId}
    {gs : List pb.GrantInfo} (hk : m.Known cid) (hok : gs.foldlM (assignGrant cid) m = .ok m')
    (g : GrantId) (c : ConsumerId) :
    g ∈ m'.grantsOf c ↔ g ∈ m.grantsOf c ∨ cid = c ∧ g ∈ gs.map fun g => ⟨g.id⟩ := by
  induction gs generalizing m with
  | nil => cases hok; simp
  | cons head gs ih =>
    obtain ⟨next, hhead, hok⟩ := Except.bind_eq_ok.1 hok
    rw [ih ((known_assignGrant hhead _).2 hk) hok, grantsOf_assignGrant hhead hk]
    by_cases hc : c = cid
    · subst hc
      simp [or_assoc]
    · simp [hc, show ¬ cid = c from fun h => hc h.symm]

section
variable [UuidCrate]

/-- An assignment is to a consumer. -/
def AssignedTo (a : pb.Assignment) (c : ConsumerId) : Prop :=
  ∃ raw consumer, a.consumer = some raw ∧ Instance.tryFrom raw = .ok consumer ∧ consumer.id = c

/-- A grant is on the list of a consumer when a change gets to its removals: it was listed before
and the shard block does not take it off, or the change assigns it to the consumer. -/
def StillListed (m : ClusterMap) (change : pb.Change) (c : ConsumerId) (g : GrantId) : Prop :=
  g ∈ m.grantsOf c ∧ (m.ownerOf g = some c → m.survives change g = true) ∨
    ∃ a ∈ change.assign.getD [], AssignedTo a c ∧ g ∈ assignedIds [a]

/-- What a message must meet for its removals to do what they mean: a grant that exists when the
removals are due, and that a consumer to be removed still lists, is owned by one to be removed. -/
def RemovesOwned (m : ClusterMap) (msg : pb.ClusterMessage) : Prop :=
  ∀ change timestamp v, msg.msg = some (.change change) →
    messageTimestamp msg = .ok timestamp → m.view.changeParts change = .ok v →
    ∀ c ∈ removedIds (change.remove.getD []), ∀ g e, v.grants g = some e →
      m.StillListed change c g → e.owner ∈ removedIds (change.remove.getD [])

theorem mem_grantsOf_applyAssignment {m m' : ClusterMap} {a : pb.Assignment}
    (hok : m.applyAssignment a = .ok m') (g : GrantId) (c : ConsumerId) :
    g ∈ m'.grantsOf c ↔ g ∈ m.grantsOf c ∨ AssignedTo a c ∧ g ∈ assignedIds [a] := by
  obtain ⟨raw, hraw, hok⟩ := Except.bind_eq_ok.1 hok
  obtain ⟨consumer, hconsumer, hok⟩ := Except.bind_eq_ok.1 hok
  have hraw : a.consumer = some raw := by
    cases hc : a.consumer with
    | none => rw [hc] at hraw; cases hraw
    | some raw' => rw [hc] at hraw; cases hraw; rfl
  have hto : AssignedTo a c ↔ consumer.id = c := by
    constructor
    · rintro ⟨raw', consumer', hraw', hconsumer', hid⟩
      rw [hraw] at hraw'
      cases hraw'
      rw [hconsumer] at hconsumer'
      cases hconsumer'
      exact hid
    · exact fun hid => ⟨raw, consumer, hraw, hconsumer, hid⟩
  have hknown := (known_enterConsumer m consumer consumer.id).2 (.inl rfl)
  rw [mem_grantsOf_assignGrants hknown hok, grantsOf_enterConsumer, hto]
  simp [assignedIds]

theorem mem_grantsOf_changeAssign {m m' : ClusterMap} {as : List pb.Assignment}
    (hok : m.changeAssign as = .ok m') (g : GrantId) (c : ConsumerId) :
    g ∈ m'.grantsOf c ↔ g ∈ m.grantsOf c ∨ ∃ a ∈ as, AssignedTo a c ∧ g ∈ assignedIds [a] := by
  unfold changeAssign at hok
  induction as generalizing m with
  | nil => cases hok; simp
  | cons a as ih =>
    obtain ⟨next, ha, hok⟩ := Except.bind_eq_ok.1 hok
    rw [ih hok, mem_grantsOf_applyAssignment ha]
    simp [or_assoc]

/-- **What is listed when the removals are due**, of the grants that are then in the map. -/
theorem mem_grantsOf_changeParts {m m' : ClusterMap} {change : pb.Change} {version : Int64}
    {timestamp : SystemTime} (hok : m.changeParts change version timestamp = .ok m')
    {g : GrantId} {o : ConsumerId} (ho : m'.ownerOf g = some o) (c : ConsumerId) :
    g ∈ m'.grantsOf c ↔ m.StillListed change c g := by
  obtain ⟨m₁, h₁, hok⟩ := Except.bind_eq_ok.1 hok
  obtain ⟨m₂, h₂, hok⟩ := Except.bind_eq_ok.1 hok
  obtain ⟨m₃, h₃, h₄⟩ := Except.bind_eq_ok.1 hok
  have hc₁ : g ∈ m₁.grantsOf c ↔
      g ∈ m.grantsOf c ∧ (m.ownerOf g = some c → m.survives change g = true) := by
    rcases ifPart_ok h₁ with ⟨hnone, rfl⟩ | ⟨raw, hraw, hrun⟩
    · refine ⟨fun hg => ⟨hg, fun howner => ?_⟩, fun hg => hg.1⟩
      obtain ⟨entry, hl, -⟩ := Option.map_eq_some_iff.1 howner
      simp [survives, hl, hnone]
    · exact mem_grantsOf_changeShards (m := { m with id := _ }) hraw hrun g c
  have hc₂ : g ∈ m₂.grantsOf c ↔
      g ∈ m₁.grantsOf c ∨ ∃ a ∈ change.assign.getD [], AssignedTo a c ∧ g ∈ assignedIds [a] := by
    rcases ifPart_ok h₂ with ⟨hnone, rfl⟩ | ⟨as, has, hrun⟩
    · simp [hnone]
    · rw [has]
      exact mem_grantsOf_changeAssign hrun g c
  have hc₃ : m₃.grantsOf c = m₂.grantsOf c := by
    rcases ifPart_ok h₃ with ⟨-, rfl⟩ | ⟨gs, -, hrun⟩
    · rfl
    · refine List.foldlM_invariant (P := fun s => s.grantsOf c = m₂.grantsOf c)
        (fun s _ t hs hst => ?_) hrun rfl
      rw [← hs, grantsOf, (updateGrant_index hst).1, ← grantsOf]
  have hc₄ : g ∈ m'.grantsOf c ↔ g ∈ m₃.grantsOf c := by
    rcases ifPart_ok h₄ with ⟨-, rfl⟩ | ⟨gs, -, hrun⟩
    · exact Iff.rfl
    · cases hrun
      rw [← List.foldl_map] at ho ⊢
      rw [ownerOf_dropGrants] at ho
      rw [mem_grantsOf_dropGrants]
      split at ho
      · cases ho
      · next hnot => exact and_iff_left fun hdrop => hnot hdrop.1
  rw [hc₄, hc₃, hc₂, hc₁, StillListed]

/-- What the removals of a change must meet, read off the message and the map before it. -/
theorem removesOwnedOnly_iff {m m' : ClusterMap} {change : pb.Change} {version : Int64}
    {timestamp : SystemTime} (hok : m.changeParts change version timestamp = .ok m')
    (cs : List ConsumerId) :
    m'.RemovesOwnedOnly cs ↔ ∀ c ∈ cs, ∀ g e, m'.view.grants g = some e →
      m.StillListed change c g → e.owner ∈ cs := by
  have howner : ∀ g o, m'.ownerOf g = some o ↔ ∃ e, m'.view.grants g = some e ∧ e.owner = o := by
    intro g o
    cases hl : m'.grants.lookup g <;> simp [ownerOf, view, hl]
  constructor
  · intro h c hc g e he hlisted
    have ho := (howner g e.owner).2 ⟨e, he, rfl⟩
    exact h c hc g ((mem_grantsOf_changeParts hok ho c).2 hlisted) _ ho
  · intro h c hc g hg o ho
    obtain ⟨e, he, rfl⟩ := (howner g o).1 ho
    exact h c hc g e he ((mem_grantsOf_changeParts hok ho c).1 hg)

/-- The removals of a change, whether the block is there or not. -/
theorem ifPart_changeRemove (m : ClusterMap) (part : Option (List String)) :
    ifPart part m changeRemove = .ok ((removedIds (part.getD [])).foldl removeConsumer m) := by
  cases part <;> rfl

@[inherit_doc ifPart_changeRemove]
theorem ifPart_viewRemove (v : ClusterView) (part : Option (List String)) :
    (ClusterView.ifPart part v fun v cs =>
        pure ((removedIds cs).foldl ClusterView.removeConsumer v)) =
      .ok ((removedIds (part.getD [])).foldl ClusterView.removeConsumer v) := by
  cases part <;> rfl

/-- **One message.** It is rejected on both sides, or accepted on both; accepted, it is applied as
it is meant exactly if its removals are. -/
theorem view_apply_cases {m : ClusterMap} (h : Owned m) (msg : pb.ClusterMessage) :
    (∃ e, m.apply msg = .error e ∧ m.view.apply msg = .error e ∧ m.RemovesOwned msg) ∨
    ∃ next v, m.apply msg = .ok next ∧ m.view.apply msg = .ok v ∧
      (next.view = v ↔ m.RemovesOwned msg) := by
  unfold ClusterMap.apply ClusterView.apply RemovesOwned
  cases ht : messageTimestamp msg with
  | error e => exact .inl ⟨e, rfl, rfl, fun _ _ _ _ h => by cases h⟩
  | ok timestamp =>
    simp only [bind, Except.bind]
    cases hm : msg.msg with
    | none => exact .inl ⟨_, rfl, rfl, fun _ _ _ h => by cases h⟩
    | some body =>
      cases body with
      | snapshot snap =>
        have hsnap := view_applySnapshot snap msg.version timestamp
        simp only
        cases hs : applySnapshot snap msg.version timestamp with
        | error e =>
          rw [hs] at hsnap
          exact .inl ⟨e, rfl, hsnap.symm, fun _ _ _ h => by cases h⟩
        | ok next =>
          rw [hs] at hsnap
          exact .inr ⟨next, _, rfl, hsnap.symm, iff_of_true rfl fun _ _ _ h => by cases h⟩
      | change change =>
        simp only [applyChange, bind, Except.bind]
        have hparts := view_changeParts m change msg.version timestamp
        cases hp : m.changeParts change msg.version timestamp with
        | error e =>
          rw [hp] at hparts
          refine .inl ⟨e, rfl, by rw [← hparts]; rfl, ?_⟩
          rintro _ _ _ ⟨⟩ ⟨⟩ hp'
          cases hparts.trans hp'
        | ok next =>
          rw [hp] at hparts
          refine .inr ⟨(removedIds (change.remove.getD [])).foldl removeConsumer next,
            (removedIds (change.remove.getD [])).foldl ClusterView.removeConsumer next.view,
            ifPart_changeRemove next _, ?_, ?_⟩
          · rw [← hparts]
            exact ifPart_viewRemove next.view _
          · rw [view_removeConsumers_iff (Owned.kept.changeParts h hp), removesOwnedOnly_iff hp]
            refine ⟨?_, fun hrem => hrem change timestamp next.view rfl rfl hparts.symm⟩
            rintro hrem _ _ _ ⟨⟩ ⟨⟩ hp'
            cases hparts.trans hp'
            exact hrem

/-- A rejected message is the same on both sides, so a message leads to what it means exactly if
its removals do. -/
theorem view_receive_iff {m : ClusterMap} (h : Owned m) (msg : pb.ClusterMessage) :
    (m.receive msg).view = m.view.receive msg ↔ m.RemovesOwned msg := by
  unfold receive ClusterView.receive
  rcases view_apply_cases h msg with ⟨e, hm, hv, hrem⟩ | ⟨next, v, hm, hv, hiff⟩
  · rw [hm, hv]
    exact iff_of_true rfl hrem
  · rw [hm, hv]
    exact hiff

/-! ## Runs -/

/-- The cluster map and the reference interpretation, fed the same messages. -/
def mirror : Machine (ClusterMap × ClusterView) pb.ClusterMessage where
  init s := s = (empty, .empty)
  step s msg := some (s.1.receive msg, s.2.receive msg)

/-- **The exact refinement.** Over every sequence of messages from the empty map, the map says
what the messages mean after each of them exactly if each of their removals deletes through lists
without a grant of a consumer that stays. -/
theorem view_refines_iff (msgs : List pb.ClusterMessage) :
    mirror.Always (fun s => s.1.view = s.2) (empty, .empty) msgs ↔
      mirror.Guarded (fun s msg => s.1.RemovesOwned msg) (empty, .empty) msgs := by
  refine Machine.always_iff_guarded (I := fun s => Owned s.1) ?_ ?_ Owned.empty view_empty
  · rintro ⟨m, v⟩ msg t hI hst
    cases hst
    exact Owned.kept.receive hI msg
  · rintro ⟨m, v⟩ msg t hI hv hst
    cases hst
    have hv : m.view = v := hv
    subst hv
    exact view_receive_iff hI msg

end

/-- **A moved grant is lost.** A grant assigned to one consumer and then to another is gone when
the first is removed, though its owner stays. -/
theorem moved_grant_lost :
    let := UuidCrate.pair
    let msgs := [assignOne 1 idA "g", assignOne 2 idB "g", removeOne 3 idA]
    ∃ s, mirror.run (empty, .empty) msgs = some s ∧ s.1.view ≠ s.2 := by
  let := UuidCrate.pair
  refine ⟨_, rfl, fun h => ?_⟩
  have hg := congrArg (fun v : ClusterView => (v.grants ⟨"g"⟩).isSome) h
  revert hg
  decide

end ClusterMap

end Splitter
