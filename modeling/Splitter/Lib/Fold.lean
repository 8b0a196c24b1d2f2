import Mathlib.Data.List.Basic

/-!
# Folds that can fail

Rules for a computation in `Except` and for loops in it: a property every successful iteration
preserves (`foldlM_invariant`), and two loops over one list that run in step
(`foldlM_simulation`). The plain fold has the same two rules, without the failure.
-/

universe u v w

variable {ε : Type u} {σ τ α β : Type v}

/-- A bind goes on from a success. -/
theorem Except.ok_bind (a : α) (f : α → Except ε β) : (.ok a : Except ε α) >>= f = f a := rfl

/-- A bind that succeeds ran both halves. -/
theorem Except.bind_eq_ok {x : Except ε α} {f : α → Except ε β} {b : β} :
    x >>= f = .ok b ↔ ∃ a, x = .ok a ∧ f a = .ok b := by
  cases x with
  | error e => exact ⟨nofun, fun ⟨_, h, _⟩ => nomatch h⟩
  | ok a => exact ⟨fun h => ⟨a, rfl, h⟩, fun ⟨_, h, hf⟩ => by cases h; exact hf⟩

namespace List

/-- A relation between what is left of the list and the state, preserved by every successful
iteration, holds after a successful loop with nothing left. -/
theorem foldlM_invariant_rest {f : σ → α → Except ε σ} {I : List α → σ → Prop}
    (hstep : ∀ a l s t, I (a :: l) s → f s a = .ok t → I l t) {l : List α} {s t : σ}
    (h : l.foldlM f s = .ok t) (hs : I l s) : I [] t := by
  induction l generalizing s with
  | nil => cases h; exact hs
  | cons a l ih =>
    rw [List.foldlM_cons, Except.bind_eq_ok] at h
    obtain ⟨u, hu, h⟩ := h
    exact ih h (hstep a l s u hs hu)

/-- A property that every successful iteration preserves holds after a successful loop. -/
theorem foldlM_invariant {f : σ → α → Except ε σ} {P : σ → Prop}
    (hstep : ∀ s a t, P s → f s a = .ok t → P t) {l : List α} {s t : σ}
    (h : l.foldlM f s = .ok t) (hs : P s) : P t :=
  foldlM_invariant_rest (I := fun _ => P) (fun a _ s t => hstep s a t) h hs

/-- A property that every iteration preserves holds after the loop. -/
theorem foldl_invariant {f : σ → α → σ} {P : σ → Prop} (hstep : ∀ s a, P s → P (f s a))
    {l : List α} {s : σ} (hs : P s) : P (l.foldl f s) := by
  induction l generalizing s with
  | nil => exact hs
  | cons a l ih => exact ih (hstep s a hs)

/-- A loop none of whose iterations changes the state leaves it. -/
theorem foldl_eq_self {f : σ → α → σ} {l : List α} {s : σ} (h : ∀ a ∈ l, f s a = s) :
    l.foldl f s = s := by
  induction l with
  | nil => rfl
  | cons a l ih =>
    rw [List.foldl_cons, h a (List.mem_cons_self ..)]
    exact ih fun b hb => h b (List.mem_cons_of_mem _ hb)

/-- Two loops over one list whose iterations correspond under `p`, on states that satisfy the
invariant `I`, correspond as a whole, failures included. -/
theorem foldlM_simulation {f : σ → α → Except ε σ} {g : τ → α → Except ε τ} {p : σ → τ}
    {I : σ → Prop} (hI : ∀ s a t, I s → f s a = .ok t → I t)
    (hstep : ∀ s a, I s → (f s a).map p = g (p s) a) {l : List α} {s : σ} (hs : I s) :
    (l.foldlM f s).map p = l.foldlM g (p s) := by
  induction l generalizing s with
  | nil => rfl
  | cons a l ih =>
    rw [List.foldlM_cons, List.foldlM_cons, ← hstep s a hs]
    cases h : f s a with
    | error e => rfl
    | ok t => exact ih (hI s a t hs h)

/-- Two plain loops over one list whose iterations correspond under `p`. -/
theorem foldl_simulation {f : σ → α → σ} {g : τ → α → τ} {p : σ → τ} {I : σ → Prop}
    (hI : ∀ s a, I s → I (f s a)) (hstep : ∀ s a, I s → p (f s a) = g (p s) a) {l : List α}
    {s : σ} (hs : I s) : p (l.foldl f s) = l.foldl g (p s) := by
  induction l generalizing s with
  | nil => rfl
  | cons a l ih => rw [List.foldl_cons, List.foldl_cons, ih (hI s a hs), hstep s a hs]

/-- A loop that decodes an element and then applies it, element by element, decodes the whole list
first and applies it then. -/
theorem foldlM_eq_mapM_foldl {f : σ → α → Except ε σ} {d : α → Except ε β} {u : σ → β → σ}
    (hf : ∀ s a, f s a = (d a).map (u s)) {l : List α} {s : σ} :
    l.foldlM f s = (l.mapM d).map fun bs => bs.foldl u s := by
  induction l generalizing s with
  | nil => rfl
  | cons a l ih =>
    rw [List.foldlM_cons, List.mapM_cons, hf]
    cases h : d a with
    | error e => rfl
    | ok b =>
      show l.foldlM f (u s b) = _
      rw [ih]
      cases h' : l.mapM d <;> rfl

end List
