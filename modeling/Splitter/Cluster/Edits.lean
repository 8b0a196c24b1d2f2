import Splitter.Cluster.Index

/-!
# What every message keeps

A `ClusterMessage` changes the map by the four edits, by entering consumers, and by relabelling the
map and its shard list. `Kept.apply`: a property that each of these keeps is kept by every message,
and `Kept.receive` the same for a message that may be rejected.
-/

namespace Splitter

namespace ClusterMap

/-- The property holds of a fresh map and is kept by everything a message is made of. -/
structure Kept (P : ClusterMap → Prop) : Prop where
  fresh : ∀ id shards, P { id, consumers := ∅, grants := ∅, shards }
  relabel : ∀ (m : ClusterMap) id shards, P m → P { m with id, shards }
  dropGrant : ∀ m gid, P m → P (m.dropGrant gid)
  updateGrant : ∀ m g m', P m → m.updateGrant g = .ok m' → P m'
  enterConsumer : ∀ m consumer, P m → P (m.enterConsumer consumer)
  assignGrant : ∀ m cid g m', P m → m.Known cid → m.assignGrant cid g = .ok m' → P m'
  removeConsumer : ∀ m cid, P m → P (m.removeConsumer cid)

section
variable [UuidCrate] {P : ClusterMap → Prop} {m m' : ClusterMap}

theorem Kept.applyAssignment (hP : Kept P) (h : P m) {a : pb.Assignment}
    (hok : m.applyAssignment a = .ok m') : P m' := by
  obtain ⟨raw, -, hok⟩ := Except.bind_eq_ok.1 hok
  obtain ⟨consumer, -, hok⟩ := Except.bind_eq_ok.1 hok
  refine (List.foldlM_invariant (P := fun s => P s ∧ s.Known consumer.id)
    (fun s g t hs hst => ?_) hok
    ⟨hP.enterConsumer m consumer h, (known_enterConsumer m consumer _).2 (.inl rfl)⟩).1
  exact ⟨hP.assignGrant s _ g t hs.1 hs.2 hst, (known_assignGrant hst _).2 hs.2⟩

theorem Kept.changeAssign (hP : Kept P) (h : P m) {as : List pb.Assignment}
    (hok : m.changeAssign as = .ok m') : P m' :=
  List.foldlM_invariant (fun _ _ _ hs hst => hP.applyAssignment hs hst) hok h

/-- Each of the first four blocks of a change keeps the property. -/
theorem Kept.changeParts (hP : Kept P) (h : P m) {change : pb.Change} {version : Int64}
    {timestamp : SystemTime} (hok : m.changeParts change version timestamp = .ok m') : P m' := by
  obtain ⟨m₁, h₁, hok⟩ := Except.bind_eq_ok.1 hok
  obtain ⟨m₂, h₂, hok⟩ := Except.bind_eq_ok.1 hok
  obtain ⟨m₃, h₃, h₄⟩ := Except.bind_eq_ok.1 hok
  have hc₁ : P m₁ := by
    rcases ifPart_ok h₁ with ⟨-, rfl⟩ | ⟨raw, -, hrun⟩
    · exact hP.relabel m _ _ h
    · obtain ⟨shards, -, hrun⟩ := Except.bind_eq_ok.1 hrun
      cases hrun
      exact List.foldl_invariant (fun s gid hs => hP.dropGrant s gid hs) (hP.relabel m _ _ h)
  have hc₂ : P m₂ := by
    rcases ifPart_ok h₂ with ⟨-, rfl⟩ | ⟨as, -, hrun⟩
    · exact hc₁
    · exact hP.changeAssign hc₁ hrun
  have hc₃ : P m₃ := by
    rcases ifPart_ok h₃ with ⟨-, rfl⟩ | ⟨gs, -, hrun⟩
    · exact hc₂
    · exact List.foldlM_invariant (fun s g t hs hst => hP.updateGrant s g t hs hst) hrun hc₂
  rcases ifPart_ok h₄ with ⟨-, rfl⟩ | ⟨gs, -, hrun⟩
  · exact hc₃
  · cases hrun
    exact List.foldl_invariant (fun s gid hs => hP.dropGrant s _ hs) hc₃

/-- **What the edits keep, a message keeps.** -/
theorem Kept.apply (hP : Kept P) (h : P m) {msg : pb.ClusterMessage}
    (hok : m.apply msg = .ok m') : P m' := by
  obtain ⟨timestamp, -, hok⟩ := Except.bind_eq_ok.1 hok
  split at hok
  · obtain ⟨shards, -, hok⟩ := Except.bind_eq_ok.1 hok
    obtain ⟨origin, -, hok⟩ := Except.bind_eq_ok.1 hok
    exact hP.changeAssign (hP.fresh _ _) hok
  · obtain ⟨m₄, hparts, h₅⟩ := Except.bind_eq_ok.1 hok
    have hc₄ := hP.changeParts h hparts
    rcases ifPart_ok h₅ with ⟨-, rfl⟩ | ⟨cs, -, hrun⟩
    · exact hc₄
    · cases hrun
      exact List.foldl_invariant (fun s cid hs => hP.removeConsumer s cid hs) hc₄
  · cases hok

/-- A rejected message keeps everything. -/
theorem Kept.receive (hP : Kept P) (h : P m) (msg : pb.ClusterMessage) : P (m.receive msg) := by
  unfold ClusterMap.receive
  cases hok : m.apply msg with
  | error e => exact h
  | ok next => exact hP.apply h hok

/-- What the edits keep holds of every map a consumer goes through. -/
theorem Kept.run (hP : Kept P) {msgs : List pb.ClusterMessage}
    (hrun : machine.run empty msgs = some m) : P m := by
  refine Machine.run_invariant (I := P) (fun s msg t hs hst => ?_) (hP.fresh _ _) hrun
  cases hst
  exact hP.receive hs msg

end

end ClusterMap

end Splitter
