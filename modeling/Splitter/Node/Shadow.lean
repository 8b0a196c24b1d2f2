import Splitter.Driver.Lease
import Splitter.Node.Basic

/-!
# What the driver makes of the shared memory

The ownerships of a node are the driver's, with what the timers, the tasks and the user did to them
on top. None of these touches the latches the driver closes or the lease, and what the driver has
expired stays expired: `Shadow`, in every state of a node. So what the driver's own effects say of
an ownership holds in the node, and the account of its table (`Loop.Tracks`) with it.
-/

namespace Splitter

namespace Ownership

/-- The second ownership is the first with more done to it by others than the driver. -/
structure UpTo (o o' : Ownership) : Prop where
  active : o'.active = o.active
  revoked : o'.revoked = o.revoked
  unloaded : o'.loader.unloaded = o.loader.unloaded
  loaded : o'.unloader.loaded = o.unloader.loaded
  expiration : o'.expiration = o.expiration
  expired : o.expired.isClosed = true → o'.expired.isClosed = true

theorem UpTo.refl (o : Ownership) : o.UpTo o := ⟨rfl, rfl, rfl, rfl, rfl, id⟩

end Ownership

/-- A memory that others than the driver have done more to. -/
structure Memory.UpTo (mem mem' : Memory) : Prop where
  absent : ∀ r, mem r = none → mem' r = none
  present : ∀ r o, mem r = some o → ∃ o', mem' r = some o' ∧ o.UpTo o'

namespace Memory.UpTo

variable {mem mem' : Memory}

/-- The driver's own changes are made on both sides. -/
theorem modify (h : mem.UpTo mem') (r : OwnershipRef) {f : Ownership → Ownership}
    (hf : ∀ o o' : Ownership, o.UpTo o' → (f o).UpTo (f o')) :
    (mem.modify r f).UpTo (mem'.modify r f) := by
  refine ⟨fun k hk => ?_, fun k o hk => ?_⟩
  · rw [Memory.modify_apply] at hk ⊢
    split
    · next hkr =>
      rw [if_pos hkr, Option.map_eq_none_iff] at hk
      rw [h.absent k hk]
      rfl
    · next hkr =>
      rw [if_neg hkr] at hk
      exact h.absent k hk
  · rw [Memory.modify_apply] at hk ⊢
    split
    · next hkr =>
      rw [if_pos hkr] at hk
      obtain ⟨o₀, ho₀, rfl⟩ := Option.map_eq_some_iff.1 hk
      obtain ⟨o', ho', hup⟩ := h.present k o₀ ho₀
      exact ⟨f o', by rw [ho']; rfl, hf o₀ o' hup⟩
    · next hkr =>
      rw [if_neg hkr] at hk
      exact h.present k o hk

/-- Others change an ownership. -/
theorem update (h : mem.UpTo mem') {r : OwnershipRef} {o o' : Ownership} (ho : mem' r = some o)
    (hup : ∀ o₀ : Ownership, o₀.UpTo o → o₀.UpTo o') :
    mem.UpTo (Function.update mem' r (some o')) := by
  refine ⟨fun k hk => ?_, fun k o₀ hk => ?_⟩
  · have hne : k ≠ r := by
      rintro rfl
      rw [h.absent k hk] at ho
      cases ho
    rw [Function.update_of_ne hne]
    exact h.absent k hk
  · obtain ⟨o₁, ho₁, hup₁⟩ := h.present k o₀ hk
    by_cases hkr : k = r
    · subst hkr
      rw [ho] at ho₁
      cases ho₁
      exact ⟨o', Function.update_self .., hup o₀ hup₁⟩
    · rw [Function.update_of_ne hkr]
      exact ⟨o₁, ho₁, hup₁⟩

/-- Others change the ownership at an address, if there is one. -/
theorem others (h : mem.UpTo mem') (r : OwnershipRef) {f : Ownership → Ownership}
    (hf : ∀ o o' : Ownership, o.UpTo o' → o.UpTo (f o')) : mem.UpTo (mem'.modify r f) := by
  cases ho : mem' r with
  | none =>
    have hsame : mem'.modify r f = mem' := by
      funext k
      rw [Memory.modify_apply]
      split
      · next hk => rw [hk, ho]; rfl
      · rfl
    rw [hsame]
    exact h
  | some o =>
    rw [Memory.modify, ho]
    exact h.update ho fun o₀ hup => hf o₀ o hup

/-- **An effect is carried out on both sides.** -/
theorem exec (h : mem.UpTo mem') (e : Effect) : (e.exec mem).UpTo (e.exec mem') := by
  cases e with
  | new r o =>
    refine ⟨fun k hk => ?_, fun k o' hk => ?_⟩
    · by_cases hkr : k = r
      · subst hkr
        rw [Effect.exec, Function.update_self] at hk
        cases hk
      · rw [Effect.exec, Function.update_of_ne hkr] at hk ⊢
        exact h.absent k hk
    · by_cases hkr : k = r
      · subst hkr
        rw [Effect.exec, Function.update_self] at hk ⊢
        cases hk
        exact ⟨o, rfl, .refl o⟩
      · rw [Effect.exec, Function.update_of_ne hkr] at hk ⊢
        exact h.present k o' hk
  | activate r => exact h.modify r fun o o' hup => { hup with active := rfl }
  | revoke r => exact h.modify r fun o o' hup => { hup with revoked := rfl }
  | expire r => exact h.modify r fun o o' hup => { hup with expired := fun _ => rfl }
  | counterpartLoaded r => exact h.modify r fun o o' hup => { hup with loaded := rfl }
  | counterpartUnloaded r => exact h.modify r fun o o' hup => { hup with unloaded := rfl }
  | setExpiration r deadline => exact h.modify r fun o o' hup => { hup with expiration := rfl }
  | spawnHelpers | abortHelpers | event | publish | enqueue => exact h

theorem exec_all (h : mem.UpTo mem') (effects : List Effect) :
    (effects.foldl Effect.exec mem).UpTo (effects.foldl Effect.exec mem') := by
  induction effects generalizing mem mem' with
  | nil => exact h
  | cons e effects ih => exact ih (h.exec e)

end Memory.UpTo

namespace Node

/-- The memory is what the driver's effects make of it, with more done to it by others. -/
def Shadow (s : Node) : Prop := (Effect.memoryAfter s.loop.done).UpTo s.memory

theorem Shadow.initial : Shadow initial := ⟨fun _ _ => rfl, fun _ _ h => by cases h⟩

/-- A grant's task closes its own two latches only. -/
theorem upTo_run {o : Ownership} {task next : GrantTask} {b : Ownership.Branch} {now : SystemTime}
    (h : o.UpTo task.ownership) (hrun : task.run b now = some next) : o.UpTo next.ownership := by
  cases GrantTask.run_cases hrun with
  | load | unload => exact { h with }
  | _ => exact h

/-- The entries the driver takes in a step of the node. -/
def heard (s : Node) : Event → List Instruction
  | .driver e => s.loop.heard e
  | _ => []

section
variable [UuidCrate]

/-- **The step lemma.** -/
theorem Shadow.step {s t : Node} {e : Event} (h : s.Shadow) (hstep : s.step e = some t) :
    t.Shadow := by
  cases step_cases hstep with
  | @driver e loop hloop =>
    obtain ⟨helpers, heq⟩ := foldl_carryOut { s with loop } (s.loop.carried e)
    rw [heq]
    show (Effect.memoryAfter loop.done).UpTo _
    rw [Loop.done_step hloop, Effect.memoryAfter_append]
    exact Memory.UpTo.exec_all h _
  | @run id shard r b now next task hmem htask hrun =>
    exact Memory.UpTo.update h hmem fun o₀ hup => upTo_run hup hrun
  | @decline id shard r => exact Memory.UpTo.others h r fun o o' hup => { hup with }
  | @requestRevoke r => exact Memory.UpTo.others h r fun o o' hup => { hup with }
  | @timer r =>
    exact Memory.UpTo.others h r fun o o' hup => { hup with expired := fun _ => rfl }
  | _ => exact h

/-- The driver of a node tracks the instructions it has taken. -/
theorem tracks_step {s t : Node} {e : Event} {taken : List Instruction}
    (h : s.loop.Tracks taken) (hstep : s.step e = some t) :
    t.loop.Tracks (taken ++ s.heard e) := by
  cases step_cases hstep with
  | @driver e loop hloop =>
    obtain ⟨helpers, heq⟩ := foldl_carryOut { s with loop } (s.loop.carried e)
    rw [heq]
    exact h.step hloop
  | _ =>
    show Loop.Tracks _ (taken ++ [])
    rw [List.append_nil]
    exact h

/-- The instructions that concern a grant, of all those the driver of a node has taken. -/
def told (es : List Event) (id : GrantId) : List Instruction :=
  (machine.outputs heard initial es).filter (·.concerns id)

/-- What holds at the end of every run of a node. -/
theorem shadow_run {es : List Event} {s : Node} (hrun : machine.run initial es = some s) :
    s.Shadow :=
  Machine.run_invariant (I := Shadow) (fun _ _ _ h hst => h.step hst) Shadow.initial hrun

theorem tracks_run {es : List Event} {s : Node} (hrun : machine.run initial es = some s) :
    s.loop.Tracks (machine.outputs heard initial es) := by
  have htracks : s.loop.Tracks ([] ++ machine.outputs heard initial es) :=
    Machine.run_outputs (I := fun s taken => s.loop.Tracks taken)
      (fun _ _ _ _ h hst => tracks_step h hst) Loop.Tracks.initial hrun
  exact htracks

end

end Node

end Splitter
