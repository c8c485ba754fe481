import HotReload.Interposition
import HotReload.Proofs.Tables

/-! # Redirecting call sites

A sequence of rebindings redirects the call sites of one module; of several rebindings of a name
the last one counts. No other module and no table of a class changes.
-/

namespace HotReload

/-- Where a call site for a name leads after a sequence of rebindings. -/
def Rebinding.target (rs : List Rebinding) (name : String) (a : Address) : Address :=
  rs.foldl (fun a r => if r.name = name then r.address else a) a

namespace Rebinding

theorem map_target_singleton (r : Rebinding) (name : String) (o : Option Address) :
    o.map (target [r] name) = if r.name = name then o.map fun _ => r.address else o := by
  by_cases h : r.name = name <;> cases o <;> simp [target, h]

theorem target_append (rs ss : List Rebinding) (name : String) (a : Address) :
    target (rs ++ ss) name a = target ss name (target rs name a) := List.foldl_append

/-- The last rebinding of the name decides, wherever the call site led before. -/
theorem target_eq_or (rs : List Rebinding) (name : String) :
    (∀ a, target rs name a = a) ∨ ∃ b, ∀ a, target rs name a = b := by
  induction rs with
  | nil => exact .inl fun _ => rfl
  | cons r rs ih =>
    by_cases h : r.name = name
    · refine .inr ⟨target rs name r.address, fun a => ?_⟩
      simp [target, h]
    · have hr (a : Address) : target (r :: rs) name a = target rs name a := by simp [target, h]
      simpa only [hr] using ih

theorem target_target (rs : List Rebinding) (name : String) (a : Address) :
    target rs name (target rs name a) = target rs name a := by
  obtain h | ⟨b, h⟩ := target_eq_or rs name
  · rw [h]
  · rw [h, h]

end Rebinding

theorem lookup_redirect (sites : List (String × Address)) (name other : String) (a : Address) :
    (sites.map fun e => if e.1 = name then (e.1, a) else e).lookup other =
      if name = other then (sites.lookup other).map fun _ => a else sites.lookup other := by
  induction sites with
  | nil => simp
  | cons e sites ih =>
    obtain ⟨n, b⟩ := e
    by_cases hn : n = name <;> by_cases ho : other = n <;>
      simp_all [List.lookup_cons] <;> grind

def LinkedModule.unbound (m : LinkedModule) : LinkedModule := { m with callSites := [] }

namespace ManagedImage

theorem module?_unbound {image after : ManagedImage}
    (h : after.modules.map (·.unbound) = image.modules.map (·.unbound)) (m : ModuleId) :
    (after.module? m).map (·.unbound) = (image.module? m).map (·.unbound) := by
  unfold module?
  cases m.number with
  | zero => rfl
  | succ n => simp only [← List.getElem?_map, h]

theorem classesIn_of_unbound {image after : ManagedImage}
    (h : after.modules.map (·.unbound) = image.modules.map (·.unbound)) (m : ModuleId) :
    CodeImage.classesIn after m = CodeImage.classesIn image m := by
  have hm := congrArg (Option.map LinkedModule.classes) (module?_unbound h m)
  rw [Option.map_map, Option.map_map] at hm
  exact congrArg (·.getD []) hm

/-- The second image differs from the first only in where call sites lead. -/
structure Rebound (image after : ManagedImage) : Prop where
  rest : { after with modules := image.modules } = image
  unbound : after.modules.map (·.unbound) = image.modules.map (·.unbound)

namespace Rebound

variable {image after last : ManagedImage}

theorem refl (image : ManagedImage) : Rebound image image := ⟨rfl, rfl⟩

theorem trans (h : Rebound image after) (h' : Rebound after last) : Rebound image last where
  rest := by
    rw [← h.rest]
    exact congrArg (fun i => { i with modules := image.modules }) h'.rest
  unbound := h'.unbound.trans h.unbound

theorem classes (h : Rebound image after) : after.classes = image.classes := by
  have hc := congrArg ManagedImage.classes h.rest
  exact hc

theorem nextAddress (h : Rebound image after) : after.nextAddress = image.nextAddress := by
  have hn := congrArg ManagedImage.nextAddress h.rest
  exact hn

theorem length (h : Rebound image after) : after.modules.length = image.modules.length := by
  simpa using congrArg List.length h.unbound

theorem module?_unbound (h : Rebound image after) (m : ModuleId) :
    (after.module? m).map (·.unbound) = (image.module? m).map (·.unbound) :=
  ManagedImage.module?_unbound h.unbound m

theorem module?_isSome (h : Rebound image after) {m : ModuleId} {k : LinkedModule}
    (hk : image.module? m = some k) : ∃ l, after.module? m = some l := by
  have hm := h.module?_unbound m
  rw [hk] at hm
  obtain ⟨l, hl, _⟩ := Option.map_eq_some_iff.1 hm
  exact ⟨l, hl⟩

/-- What does not depend on call sites is the same in both images. -/
theorem module?_map {α : Type} (h : Rebound image after) (f : LinkedModule → α)
    (hf : ∀ k, f k.unbound = f k) (m : ModuleId) :
    (after.module? m).map f = (image.module? m).map f := by
  have hm := congrArg (Option.map f) (h.module?_unbound m)
  simpa only [Option.map_map, Function.comp_def, hf] using hm

theorem exports (h : Rebound image after) (m : ModuleId) :
    CodeImage.exports after m = CodeImage.exports image m :=
  congrArg (·.getD []) (h.module?_map LinkedModule.exports (fun _ => rfl) m)

theorem classesIn (h : Rebound image after) (m : ModuleId) :
    CodeImage.classesIn after m = CodeImage.classesIn image m :=
  classesIn_of_unbound h.unbound m

end Rebound

theorem module?_modifyModule (image : ManagedImage) (m other : ModuleId)
    (f : LinkedModule → LinkedModule) :
    (image.modifyModule m f).module? other =
      if other = m then (image.module? other).map f else image.module? other := by
  obtain ⟨n⟩ := m
  obtain ⟨k⟩ := other
  cases n <;> cases k <;> simp [module?, modifyModule, List.getElem?_modify]
  rename_i n k
  by_cases h : n = k
  · simp [h]
  · simp [h, Ne.symm h]

theorem modifyModule_rebound (image : ManagedImage) (m : ModuleId)
    (f : LinkedModule → LinkedModule) (hf : ∀ k, (f k).unbound = k.unbound) :
    Rebound image (image.modifyModule m f) := by
  unfold modifyModule
  split
  · exact Rebound.refl image
  · rename_i n _
    refine ⟨rfl, List.ext_getElem? fun i => ?_⟩
    simp only [List.getElem?_map, List.getElem?_modify]
    by_cases h : n = i
    · cases image.modules[i]? <;> simp [h, hf]
    · simp [h]

theorem rebindOne_rebound (m : ModuleId) (acc : List String × ManagedImage) (r : Rebinding) :
    Rebound acc.2 (rebindOne m acc r).2 := by
  unfold rebindOne
  split
  · exact Rebound.refl _
  · split
    · exact Rebound.refl _
    · exact modifyModule_rebound _ _ _ fun _ => rfl

theorem callSite?_rebindOne_of_ne {m other : ModuleId} (hm : other ≠ m)
    (acc : List String × ManagedImage) (r : Rebinding) (name : String) :
    CodeImage.callSite? (rebindOne m acc r).2 other name =
      CodeImage.callSite? acc.2 other name := by
  simp only [rebindOne]
  split
  · rfl
  · split
    · rfl
    · simp only [CodeImage.callSite?, module?_modifyModule, if_neg hm]

theorem callSite?_rebindOne_self (m : ModuleId) (acc : List String × ManagedImage)
    (r : Rebinding) (name : String) :
    CodeImage.callSite? (rebindOne m acc r).2 m name =
      (CodeImage.callSite? acc.2 m name).map (Rebinding.target [r] name) := by
  cases hk : acc.2.module? m with
  | none => simp [rebindOne, CodeImage.callSite?, hk]
  | some k =>
    have hsite : CodeImage.callSite? acc.2 m name = k.target? name := by
      simp [CodeImage.callSite?, hk]
    by_cases hs : ∀ a, k.target? r.name = some a → a = r.address
    · have hsame : (rebindOne m acc r).2 = acc.2 := by
        cases ht : k.target? r.name with
        | none => simp [rebindOne, hk, ht]
        | some current => simp [rebindOne, hk, ht, hs current ht]
      rw [hsame, hsite, Rebinding.map_target_singleton]
      split
      · rename_i hn
        subst hn
        cases ht : k.target? r.name with
        | none => rfl
        | some current => rw [hs current ht, Option.map_some]
      · rfl
    · obtain ⟨current, hcurrent⟩ := Classical.not_forall.1 hs
      obtain ⟨ht, hne⟩ := Classical.not_imp.1 hcurrent
      have hset : (rebindOne m acc r).2 = acc.2.modifyModule m fun k =>
          { k with callSites := k.callSites.map fun e =>
              if e.1 = r.name then (e.1, r.address) else e } := by
        simp [rebindOne, hk, ht, hne]
      simp only [hset, CodeImage.callSite?, module?_modifyModule, if_true, hk, Option.map_some,
        Option.bind_some, LinkedModule.target?, lookup_redirect, Rebinding.map_target_singleton]

theorem callSite?_rebindOne (m other : ModuleId) (acc : List String × ManagedImage)
    (r : Rebinding) (name : String) :
    CodeImage.callSite? (rebindOne m acc r).2 other name =
      if other = m then (CodeImage.callSite? acc.2 other name).map (Rebinding.target [r] name)
      else CodeImage.callSite? acc.2 other name := by
  by_cases hm : other = m
  · subst hm
    rw [if_pos rfl, callSite?_rebindOne_self]
  · rw [if_neg hm, callSite?_rebindOne_of_ne hm]

theorem rebind_rebound (image : ManagedImage) (m : ModuleId) (rs : List Rebinding) :
    Rebound image (CodeImage.rebind image m rs).2 := by
  change Rebound image (rs.foldl (rebindOne m) ([], image)).2
  generalize hacc : (([], image) : List String × ManagedImage) = acc
  have hi : image = acc.2 := by rw [← hacc]
  rw [hi]
  clear hacc hi
  induction rs generalizing acc with
  | nil => exact Rebound.refl _
  | cons r rs ih => exact (rebindOne_rebound m acc r).trans (ih _)

/-- Rebinding a module sets each of its call sites to what the rebindings say last. -/
theorem callSite?_rebind (image : ManagedImage) (m other : ModuleId) (rs : List Rebinding)
    (name : String) :
    CodeImage.callSite? (CodeImage.rebind image m rs).2 other name =
      if other = m then (CodeImage.callSite? image other name).map (Rebinding.target rs name)
      else CodeImage.callSite? image other name := by
  change CodeImage.callSite? (rs.foldl (rebindOne m) ([], image)).2 other name = _
  generalize hacc : (([], image) : List String × ManagedImage) = acc
  have hi : image = acc.2 := by rw [← hacc]
  rw [hi]
  clear hacc hi
  induction rs generalizing acc with
  | nil =>
    have hid : Rebinding.target [] name = id := rfl
    simp [hid]
  | cons r rs ih =>
    rw [List.foldl_cons, ih, callSite?_rebindOne]
    split
    · rw [Option.map_map]
      rfl
    · rfl

end ManagedImage

end HotReload
