import Splitter.Cluster.Edits

/-!
# The instances of the consumers

Which instance a map holds for a consumer, and which one the coordinator named last. Grants come and
go without touching it; an assignment enters an instance only where there is none
(`instanceOf_changeAssign`), and a removal takes it out. So after an accepted message a consumer has
the instance it had, or else the first one the message names it with (`instanceOf_apply`), and what
is held is what was named last exactly if no message names a consumer with another
(`fresh_iff`).
-/

namespace Splitter

/-! ## What a message names -/

/-- The instance an assignment carries, if it is valid. -/
def pb.Assignment.carried [UuidCrate] (a : pb.Assignment) : Option Splitter.Instance :=
  a.consumer.bind fun p => (Splitter.Instance.tryFrom p).toOption

namespace pb.ClusterMessage

/-- The assignments of a message, of a snapshot or of a change. -/
def assignments (msg : pb.ClusterMessage) : List pb.Assignment :=
  match msg.msg with
  | some (.snapshot snap) => snap.assignments
  | some (.change change) => change.assign.getD []
  | none => []

/-- The instances a message carries, in order. -/
def carried [UuidCrate] (msg : pb.ClusterMessage) : List Splitter.Instance :=
  msg.assignments.filterMap pb.Assignment.carried

/-- The consumers a message removes. -/
def removals [UuidCrate] (msg : pb.ClusterMessage) : List ConsumerId :=
  match msg.msg with
  | some (.change change) => ClusterMap.removedIds (change.remove.getD [])
  | _ => []

end pb.ClusterMessage

/-- The instances of a list that name a consumer. -/
def Instance.naming (c : ConsumerId) (is : List Instance) : List Instance :=
  is.filter fun i => decide (i.id = c)

/-- What is named last by two lists: what the second names, or else the first. -/
theorem Instance.naming_append (c : ConsumerId) (log new : List Instance) :
    (naming c (log ++ new)).getLast? = (naming c new).getLast?.or (naming c log).getLast? := by
  rw [naming, List.filter_append, List.getLast?_append]
  rfl

namespace ClusterMap

/-- The instance the map holds for a consumer. -/
def instanceOf (m : ClusterMap) (c : ConsumerId) : Option Instance :=
  (m.consumers.lookup c).map (·.consumer)

/-! ## The edits -/

section
variable (m : ClusterMap)

/-- Changing the list of a consumer leaves the instances. -/
theorem instanceOf_modify (cid : ConsumerId) (f : List GrantId → List GrantId) (c : ConsumerId) :
    (((m.consumers.modify cid fun e => { e with grants := f e.grants }).lookup c).map
      (·.consumer)) = m.instanceOf c := by
  rw [AList.lookup_modify, instanceOf]
  split
  · next hc => rw [hc, Option.map_map]; rfl
  · rfl

theorem instanceOf_dropGrant (gid : GrantId) (c : ConsumerId) :
    (m.dropGrant gid).instanceOf c = m.instanceOf c := by
  unfold dropGrant
  split
  · rfl
  · next entry _ => exact m.instanceOf_modify _ (fun grants => grants.filter (· ≠ gid)) c

theorem instanceOf_dropGrants (ids : List GrantId) (c : ConsumerId) :
    (ids.foldl dropGrant m).instanceOf c = m.instanceOf c :=
  List.foldl_invariant (P := fun s : ClusterMap => s.instanceOf c = m.instanceOf c)
    (fun s gid hs => (s.instanceOf_dropGrant gid c).trans hs) rfl

theorem instanceOf_removeConsumer (cid c : ConsumerId) :
    (m.removeConsumer cid).instanceOf c = if c = cid then none else m.instanceOf c := by
  unfold removeConsumer instanceOf
  cases h : m.consumers.lookup cid with
  | none =>
    by_cases hc : c = cid
    · rw [if_pos hc, hc, h]; rfl
    · rw [if_neg hc]
  | some entry =>
    simp only [AList.lookup_erase_ite]
    split <;> rfl

theorem instanceOf_removeConsumers (cs : List ConsumerId) (c : ConsumerId) :
    (cs.foldl removeConsumer m).instanceOf c = if c ∈ cs then none else m.instanceOf c := by
  induction cs generalizing m with
  | nil => simp
  | cons cid cs ih =>
    rw [List.foldl_cons, ih, instanceOf_removeConsumer]
    by_cases hc : c ∈ cs
    · simp [hc]
    · simp [hc, List.mem_cons]

/-- **An instance is entered only where there is none.** -/
theorem instanceOf_enterConsumer (consumer : Instance) (c : ConsumerId) :
    (m.enterConsumer consumer).instanceOf c =
      (m.instanceOf c).or (Instance.naming c [consumer]).head? := by
  simp only [enterConsumer, instanceOf, AList.lookup_orInsert, Instance.naming]
  by_cases hc : c = consumer.id
  · subst hc
    cases m.consumers.lookup consumer.id <;> simp
  · have hne : consumer.id ≠ c := fun heq => hc heq.symm
    simp [hc, hne]

end

section
variable [UuidCrate] {m m' : ClusterMap}

/-- One assignment. -/
theorem instanceOf_applyAssignment {a : pb.Assignment} (hok : m.applyAssignment a = .ok m') :
    ∃ consumer, a.carried = some consumer ∧ ∀ c, m'.instanceOf c =
      (m.instanceOf c).or (Instance.naming c [consumer]).head? := by
  obtain ⟨raw, hraw, hok⟩ := Except.bind_eq_ok.1 hok
  obtain ⟨consumer, hconsumer, hok⟩ := Except.bind_eq_ok.1 hok
  refine ⟨consumer, ?_, fun c => ?_⟩
  · have hpresent : a.consumer = some raw := by
      unfold okOrInvalid at hraw
      split at hraw
      · cases hraw
        assumption
      · cases hraw
    rw [pb.Assignment.carried, hpresent, Option.bind_some, hconsumer]
    rfl
  · rw [← instanceOf_enterConsumer]
    refine List.foldlM_invariant
      (P := fun s : ClusterMap => s.instanceOf c = (m.enterConsumer consumer).instanceOf c)
      (fun s g t hs hst => ?_) hok rfl
    obtain ⟨shard, rfl⟩ := assignGrant_ok hst
    exact (s.instanceOf_modify _ (fun grants => grants ++ [⟨g.id⟩]) c).trans hs

/-- **A list of assignments**: a consumer keeps the instance it has, or else the first one. -/
theorem instanceOf_changeAssign {as : List pb.Assignment} (hok : m.changeAssign as = .ok m')
    (c : ConsumerId) : m'.instanceOf c = (m.instanceOf c).or
      (Instance.naming c (as.filterMap pb.Assignment.carried)).head? := by
  induction as generalizing m with
  | nil =>
    cases hok
    exact (Option.or_none ..).symm
  | cons a as ih =>
    obtain ⟨m₁, h₁, hok⟩ := Except.bind_eq_ok.1 hok
    obtain ⟨consumer, hcarried, hentered⟩ := instanceOf_applyAssignment h₁
    rw [ih hok, hentered, List.filterMap_cons_some hcarried, Option.or_assoc]
    congr 1
    simp only [Instance.naming]
    by_cases hc : consumer.id = c <;> simp [hc]

/-- The blocks of a change before its `remove` block. -/
theorem instanceOf_changeParts {change : pb.Change} {version : Int64} {timestamp : SystemTime}
    (hok : m.changeParts change version timestamp = .ok m') (c : ConsumerId) :
    m'.instanceOf c = (m.instanceOf c).or (Instance.naming c
      ((change.assign.getD []).filterMap pb.Assignment.carried)).head? := by
  obtain ⟨m₁, h₁, hok⟩ := Except.bind_eq_ok.1 hok
  obtain ⟨m₂, h₂, hok⟩ := Except.bind_eq_ok.1 hok
  obtain ⟨m₃, h₃, h₄⟩ := Except.bind_eq_ok.1 hok
  have hc₁ : m₁.instanceOf c = m.instanceOf c := by
    rcases ifPart_ok h₁ with ⟨-, rfl⟩ | ⟨raw, -, hrun⟩
    · rfl
    · obtain ⟨shards, -, hrun⟩ := Except.bind_eq_ok.1 hrun
      cases hrun
      exact instanceOf_dropGrants _ _ c
  have hc₂ : m₂.instanceOf c = (m₁.instanceOf c).or (Instance.naming c
      ((change.assign.getD []).filterMap pb.Assignment.carried)).head? := by
    rcases ifPart_ok h₂ with ⟨hnone, rfl⟩ | ⟨as, has, hrun⟩
    · rw [hnone]
      exact (Option.or_none ..).symm
    · rw [has]
      exact instanceOf_changeAssign hrun c
  have hc₃ : m₃.instanceOf c = m₂.instanceOf c := by
    rcases ifPart_ok h₃ with ⟨-, rfl⟩ | ⟨gs, -, hrun⟩
    · rfl
    · refine List.foldlM_invariant
        (P := fun s : ClusterMap => s.instanceOf c = m₂.instanceOf c)
        (fun s g t hs hst => ?_) hrun rfl
      rw [← hs, instanceOf, instanceOf, (updateGrant_index hst).1]
  have hc₄ : m'.instanceOf c = m₃.instanceOf c := by
    rcases ifPart_ok h₄ with ⟨-, rfl⟩ | ⟨gs, -, hrun⟩
    · rfl
    · cases hrun
      exact List.foldl_invariant
        (P := fun s : ClusterMap => s.instanceOf c = m₃.instanceOf c)
        (fun s gid hs => (s.instanceOf_dropGrant _ c).trans hs) rfl
  rw [hc₄, hc₃, hc₂, hc₁]

/-! ## Messages -/

/-- The instance a message finds for a consumer: a snapshot starts from an empty map. -/
def base (m : ClusterMap) (msg : pb.ClusterMessage) (c : ConsumerId) : Option Instance :=
  match msg.msg with
  | some (.change _) => m.instanceOf c
  | _ => none

/-- **An accepted message**: a consumer that it does not remove keeps the instance it finds, or else
has the first one it is named with. -/
theorem instanceOf_apply {msg : pb.ClusterMessage} (hok : m.apply msg = .ok m')
    (c : ConsumerId) : m'.instanceOf c = if c ∈ msg.removals then none else
      (m.base msg c).or (Instance.naming c msg.carried).head? := by
  obtain ⟨timestamp, -, hok⟩ := Except.bind_eq_ok.1 hok
  simp only [pb.ClusterMessage.removals, pb.ClusterMessage.carried,
    pb.ClusterMessage.assignments, base]
  split at hok
  · next snap hmsg =>
    obtain ⟨shards, -, hok⟩ := Except.bind_eq_ok.1 hok
    obtain ⟨origin, -, hok⟩ := Except.bind_eq_ok.1 hok
    simp only [hmsg, List.not_mem_nil, if_false]
    exact instanceOf_changeAssign hok c
  · next change hmsg =>
    obtain ⟨m₄, hparts, h₅⟩ := Except.bind_eq_ok.1 hok
    have hc₄ := instanceOf_changeParts hparts c
    simp only [hmsg]
    rcases ifPart_ok h₅ with ⟨hnone, rfl⟩ | ⟨cs, hcs, hrun⟩
    · simp only [hnone]
      exact hc₄
    · cases hrun
      simp only [hcs]
      refine (m₄.instanceOf_removeConsumers _ c).trans ?_
      rw [hc₄]
      rfl
  · cases hok

/-- The instances of a message that is accepted. -/
def accepted (m : ClusterMap) (msg : pb.ClusterMessage) : List Instance :=
  if (m.apply msg).isOk then msg.carried else []

/-- Every consumer of the map has the instance it was named with last. -/
def Fresh (m : ClusterMap) (log : List Instance) : Prop :=
  ∀ c i, m.instanceOf c = some i → (Instance.naming c log).getLast? = some i

/-- An accepted message names the consumers it does not remove, in the end, with the instance the
map holds for them, or, where it holds none, with the one it names them with first. -/
def NamesHeld (m : ClusterMap) (msg : pb.ClusterMessage) : Prop :=
  (m.apply msg).isOk = true → ∀ c ∉ msg.removals, ∀ last,
    (Instance.naming c msg.carried).getLast? = some last →
      (m.base msg c).or (Instance.naming c msg.carried).head? = some last

/-- **The step lemma.** A message leaves fresh instances fresh exactly if it names them as they are
held. -/
theorem fresh_receive_iff {log : List Instance} (h : m.Fresh log) (msg : pb.ClusterMessage) :
    (m.receive msg).Fresh (log ++ m.accepted msg) ↔ m.NamesHeld msg := by
  unfold receive accepted NamesHeld
  cases hok : m.apply msg with
  | error e =>
    simp only [Except.isOk, Except.toBool, Bool.false_eq_true, if_false, List.append_nil]
    exact iff_of_true h nofun
  | ok next =>
    simp only [Except.isOk, Except.toBool, if_true, forall_const]
    constructor
    · intro hfresh c hc last hlast
      have hheld := instanceOf_apply hok c
      rw [if_neg hc] at hheld
      cases hnext : (m.base msg c).or (Instance.naming c msg.carried).head? with
      | none =>
        rw [Option.or_eq_none_iff, List.head?_eq_none_iff] at hnext
        rw [hnext.2] at hlast
        cases hlast
      | some i =>
        have hlatest := hfresh c i (hheld.trans hnext)
        rw [Instance.naming_append, hlast, Option.some_or] at hlatest
        exact hlatest.symm
    · intro hnames c i hi
      have hheld := instanceOf_apply hok c
      rw [hi] at hheld
      split at hheld
      · cases hheld
      · next hc =>
        rw [Instance.naming_append]
        cases hlast : (Instance.naming c msg.carried).getLast? with
        | some last => rw [Option.some_or, hheld, hnames c hc last hlast]
        | none =>
          -- the message does not name the consumer, so it was in the map before
          rw [List.getLast?_eq_none_iff.1 hlast, List.head?_nil, Option.or_none] at hheld
          rw [Option.none_or]
          refine h c i ?_
          unfold base at hheld
          split at hheld
          · exact hheld.symm
          · cases hheld

/-! ## Runs -/

/-- The cluster map, with the instances of all assignments accepted so far. -/
def logged : Machine (ClusterMap × List Instance) pb.ClusterMessage where
  init s := s = (empty, [])
  step s msg := some (s.1.receive msg, s.2 ++ s.1.accepted msg)

/-- **Endpoint freshness.** Over every sequence of messages from the empty map, every consumer of
the map has the instance of the last accepted assignment that named it, after each message, exactly
if every message names consumers as they are held. -/
theorem fresh_iff (msgs : List pb.ClusterMessage) :
    logged.Always (fun s => s.1.Fresh s.2) (empty, []) msgs ↔
      logged.Guarded (fun s msg => s.1.NamesHeld msg) (empty, []) msgs := by
  refine Machine.always_iff_guarded_of_step ?_ ?_
  · rintro ⟨m, log⟩ msg t hfresh hst
    cases hst
    exact fresh_receive_iff hfresh msg
  · intro c i hi
    cases hi

end

/-! ## A consumer that moves -/

/-- A change that names one consumer, with its endpoint and no grants. -/
def nameOne (version : Int64) (consumer endpoint : String) : pb.ClusterMessage :=
  { msg := some (.change
      { assign := some [{ consumer := some (wireInstance consumer endpoint), grants := [] }]
        update := none, unassign := none, remove := none, shards := none })
    id := "", version, timestamp := none }

/-- **A moved consumer is not followed.** A consumer that is named again with another endpoint keeps
the first. -/
theorem renamed_not_fresh :
    let := UuidCrate.pair
    ∃ s, logged.run (empty, []) [nameOne 1 idA "a:1", nameOne 2 idA "a:2"] = some s ∧
      ¬ s.1.Fresh s.2 := by
  let := UuidCrate.pair
  refine ⟨_, rfl, fun h => ?_⟩
  have hlast := h ⟨⟨10⟩⟩ _ rfl
  revert hlast
  decide

end ClusterMap

end Splitter
