import HotReload.Sweep.Walk

/-! # What a walk keeps

A walk goes from object to object. Whatever lies between two objects, a relation between walks that
each visit of an object keeps is kept by the walk as a whole.
-/

namespace HotReload.Walk

variable {ι : Type}

/-- A relation that carries over from one part of a walk to the next. -/
structure Carried (R : Walk ι → Walk ι → Prop) : Prop where
  refl : ∀ s, R s s
  trans : ∀ {s t u}, R s t → R t u → R s u

namespace Carried

variable {R : Walk ι → Walk ι → Prop} {enter : Node → Walk ι → Walk ι} {v : ObjectView ι}
  {rules : SweepRules}

theorem each (h : Carried R) (hv : ∀ n s, R s (enter n s)) (nodes : List Node) (s : Walk ι) :
    R s (Walk.each enter nodes s) := by
  induction nodes generalizing s with
  | nil => exact h.refl s
  | cons n nodes ih => exact h.trans (hv n s) (ih (enter n s))

theorem readSealed (h : Carried R) (hv : ∀ n s, R s (enter n s)) (name : Option String)
    (children : List Node) (readers : List SealedReader) (s : Walk ι) :
    R s (Walk.readSealed enter name children readers s) := by
  induction readers generalizing s with
  | nil => exact h.refl s
  | cons r readers ih =>
    have hc := h.each hv children s
    simp only [Walk.readSealed]
    split
    · split
      · exact hc
      · exact h.trans hc (ih _)
    · exact ih s

theorem throughReferences (h : Carried R) (hv : ∀ n s, R s (enter n s)) (o : Subject)
    (s : Walk ι) : R s (Walk.throughReferences v rules enter o s) := by
  unfold Walk.throughReferences
  generalize (o.chain v s.world).takeWhile _ = classes
  induction classes generalizing s with
  | nil => exact h.refl s
  | cons c classes ih => exact h.trans (h.each hv _ s) (ih _)

theorem inside (h : Carried R) (hv : ∀ n s, R s (enter n s)) (o : Subject) (s : Walk ι) :
    R s (if o.introspects v s.world then throughFields v enter o s
      else Walk.throughReferences v rules enter o s) := by
  split
  · exact h.each hv _ s
  · exact h.throughReferences hv o s

theorem visit (h : Carried R)
    (hobject : ∀ enter, (∀ n s, R s (enter n s)) → ∀ o s, R s (visitObject v rules enter o s))
    (depth : Nat) (n : Node) (s : Walk ι) : R s (Walk.visit v rules depth n s) := by
  induction depth generalizing n s with
  | zero => exact h.refl s
  | succ depth ih =>
    unfold Walk.visit
    split
    · split
      · exact hobject _ ih _ s
      · exact h.refl s
    · exact h.readSealed ih _ _ _ s
    · exact h.each ih _ s

end Carried

end HotReload.Walk
