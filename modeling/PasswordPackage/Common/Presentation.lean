import Mathlib.Data.List.Infix

/-!
# Presentation chains

A base controller presents at most one controller, that one presents at most one more, and so on. A
chain lists what is presented, from the controller the base presents to the one on top.

The base refuses to present a second controller. `dismiss` sent to a controller that presents
something removes everything above it; sent to one that presents nothing, it is forwarded to the
presenter and removes the receiver; sent to a controller outside the chain, it does nothing.
-/

namespace Presentation

variable {α β : Type*}

/-- The base, or a child of the base, presents `a`. -/
def presentFromBase (a : α) : List α → List α
  | [] => [a]
  | b :: rest => b :: rest

/-- `dismiss` sent to the first controller that satisfies `p`. -/
def dismiss (p : α → Bool) : List α → List α
  | [] => []
  | [a] => if p a then [] else [a]
  | a :: b :: rest => if p a then [a] else a :: dismiss p (b :: rest)

/-- While the base presents something, a new presentation is refused. -/
theorem presentFromBase_of_mem (a : α) {b : α} {chain : List α} (h : b ∈ chain) :
    presentFromBase a chain = chain := by
  cases chain with
  | nil => exact absurd h List.not_mem_nil
  | cons c rest => rfl

theorem mem_presentFromBase {a b : α} {chain : List α} (h : b ∈ presentFromBase a chain) :
    b = a ∨ b ∈ chain := by
  cases chain with
  | nil => exact Or.inl (List.mem_singleton.mp h)
  | cons c rest => exact Or.inr h

@[simp] theorem dismiss_singleton (p : α → Bool) (a : α) :
    dismiss p [a] = if p a then [] else [a] := rfl

theorem dismiss_prefix (p : α → Bool) (chain : List α) : dismiss p chain <+: chain := by
  fun_induction dismiss p chain with
  | case1 => exact List.nil_prefix
  | case2 a hp => exact List.nil_prefix
  | case3 a hp => exact List.prefix_rfl
  | case4 a b rest hp => exact List.prefix_append [a] (b :: rest)
  | case5 a b rest hp ih => exact List.cons_prefix_cons.mpr ⟨rfl, ih⟩

/-- A controller satisfying `q` presents nothing and is presented by the base. -/
def Alone (q : α → Prop) (chain : List α) : Prop :=
  ∀ a ∈ chain, q a → chain = [a]

variable {q : α → Prop} {chain : List α}

theorem alone_nil : Alone q [] := fun _ h => absurd h List.not_mem_nil

theorem alone_singleton (a : α) : Alone q [a] := by
  intro b hb _
  rw [List.mem_singleton.mp hb]

theorem Alone.presentFromBase (h : Alone q chain) (a : α) :
    Alone q (presentFromBase a chain) := by
  cases chain with
  | nil => exact alone_singleton a
  | cons b rest => exact h

theorem Alone.dismiss (h : Alone q chain) (p : α → Bool) : Alone q (dismiss p chain) := by
  intro a ha hq
  have hpre := dismiss_prefix p chain
  have hchain := h a (hpre.subset ha) hq
  subst hchain
  rw [dismiss_singleton] at ha ⊢
  split_ifs at ha ⊢ with hp
  · exact absurd ha List.not_mem_nil
  · rfl

/-- The controller on top may present another one while no controller satisfies `q`. -/
theorem Alone.concat (h : ∀ b ∈ chain, ¬ q b) {a : α} (ha : ¬ q a) : Alone q (chain ++ [a]) := by
  intro b hb hq
  rcases List.mem_append.mp hb with hb | hb
  · exact absurd hq (h b hb)
  · rw [List.mem_singleton.mp hb] at hq
    exact absurd hq ha

/-- A controller may change in place, as long as `q` does not come to hold of it. -/
theorem Alone.map {q' : β → Prop} (h : Alone q chain) (f : α → β) (hf : ∀ a, q' (f a) → q a) :
    Alone q' (chain.map f) := by
  intro b hb hq
  obtain ⟨a, ha, rfl⟩ := List.mem_map.mp hb
  rw [h a ha (hf a hq), List.map_singleton]

end Presentation
