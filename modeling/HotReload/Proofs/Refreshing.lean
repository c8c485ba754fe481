import HotReload.Proofs.Sharing
import HotReload.Proofs.Tallying

/-! # Refreshing slots twice

A table and a cache that are used on one process only stay right about it, except that the cache may
deny symbols that were loaded since. What a slot is refreshed to has the name of what it held, so
refreshing it once more finds nothing to write.
-/

namespace HotReload

open Managed (Process)

/-- A table and a cache that a host uses on one process only, whatever else it does to the process.
The table is filled by taking modules in. -/
inductive Dedicated : Interposition → SymbolCache → Process → Prop where
  | start {w} : Managed.Started w → Dedicated {} {} w
  | step {t cache w w'} : Dedicated t cache w → Managed.Step w w' → Dedicated t cache w'
  | resolve {t cache w} (a : Address) (scope : Option ModuleId) :
    Dedicated t cache w → Dedicated t (cache.resolve w.image a scope).2 w
  | moduleLoaded {t cache w} : Dedicated t cache w → Dedicated t cache.moduleLoaded w
  | absorb {t cache w} (preserve : Bool) (m : ModuleId) (done) :
    Dedicated t cache w → t.absorb preserve w.image m = .ok done →
      Dedicated done.table cache { w with image := done.image }
  | load {w} (r : Reloader) (loop : MainLoop) (path : Path) : Dedicated r.table r.cache w →
    Dedicated (r.load loop w path).reloader.table (r.load loop w path).reloader.cache
      (r.load loop w path).world

namespace SymbolCache

variable {cache : SymbolCache} {image : ManagedImage}

/-- A question adds no wrong symbol. -/
theorem Sound.moduleLoaded_resolve (h : cache.moduleLoaded.Sound image) (hl : image.Linked)
    (a : Address) (scope : Option ModuleId) :
    (cache.resolve image a scope).2.moduleLoaded.Sound image := by
  cases ha : a.isNull with
  | true => rwa [resolve_null _ _ ha]
  | false =>
    obtain ⟨_, hanswers⟩ | ⟨_, hplain, hanswers⟩ := cache.resolve_cases image ha scope
    · simpa only [SymbolCache.moduleLoaded, Sound, hanswers] using h
    · intro e he
      simp only [SymbolCache.moduleLoaded, hanswers, List.mem_filter, List.mem_cons] at he
      obtain ⟨rfl | he, hsome⟩ := he
      · rw [hplain, plain_eq hl]
      · exact h e (List.mem_filter.2 ⟨he, hsome⟩)

/-- A symbol that is found is the one at the address. -/
theorem Sound.symbol?_of_resolve (h : cache.moduleLoaded.Sound image) (hl : image.Linked)
    {a : Address} {scope : Option ModuleId} {s : Symbol}
    (hs : (cache.resolve image a scope).1 = some s) : image.symbol? a = some s := by
  cases ha : a.isNull with
  | true =>
    rw [resolve_null _ _ ha] at hs
    cases hs
  | false =>
    obtain ⟨hlookup, _⟩ | ⟨_, hplain, _⟩ := cache.resolve_cases image ha scope
    · rw [hs] at hlookup
      exact (h (a, some s) (List.mem_filter.2 ⟨mem_of_lookup hlookup, rfl⟩)).symm
    · rw [← plain_eq hl a scope, ← hplain, hs]

end SymbolCache

namespace Dedicated

variable {t : Interposition} {cache : SymbolCache} {w : Process}

theorem reliable (h : Dedicated t cache w) (r : Reloader) (ht : r.table = t)
    (hc : r.cache = cache) : Reliable r w := by
  induction h generalizing r with
  | start hw =>
    refine ⟨hw.valid, fun name b hb => ?_, ?_⟩
    · rw [ht] at hb
      cases hb
    · rw [hc]
      exact SymbolCache.sound_empty _
  | step _ hs ih =>
    have hr := ih r ht hc
    exact hr.extend (hs.valid hr.valid) (hs.keeps Managed.extends_held Managed.extends_rebound)
  | @resolve t cache w a scope _ ih =>
    have hr := ih { r with cache } ht rfl
    refine ⟨hr.valid, hr.names, ?_⟩
    rw [hc]
    exact hr.sound.moduleLoaded_resolve hr.valid.linked a scope
  | @moduleLoaded t cache w _ ih =>
    have hr := ih { r with cache } ht rfl
    refine ⟨hr.valid, hr.names, ?_⟩
    rw [hc, SymbolCache.moduleLoaded_moduleLoaded]
    exact hr.sound
  | @absorb t cache w preserve m done _ hdone ih =>
    have hr := ih { r with table := t } rfl hc
    have hrebound := Interposition.absorb_rebound hdone
    have hafter := hr.extend (hr.valid.rebound hrebound) (Managed.extends_rebound w _ hrebound)
    refine ⟨hafter.valid, fun name b hb => ?_, hafter.sound⟩
    rw [ht] at hb
    rcases Interposition.address?_absorb hdone hb with hb | ⟨s, hs, hname, rfl⟩
    · exact hafter.names name b hb
    · rw [← hrebound.exports] at hs
      exact ⟨s, hafter.valid.linked.symbol?_of_mem (ManagedImage.mem_symbols_of_exports hs), hname⟩
  | load r' loop path _ ih =>
    have hr := (ih r' rfl rfl).load loop path
    refine ⟨hr.valid, fun name b hb => hr.names name b ?_, ?_⟩
    · rwa [ht] at hb
    · rw [hc]
      exact hr.sound

/-- Patching slots is such a use. -/
theorem slots (t : Interposition) (w : Process) (c : ClassId) :
    SlotPass.Invariant c fun image cache => Dedicated t cache { w with image } where
  resolve a scope h := h.resolve a scope
  write {image _ index a after} h hw := by
    have hperform : (Managed.Command.writeSlot c index a).perform { w with image } =
        { w with image := after } := by
      have hwrite : image.writeSlot c index a = .ok after := hw
      simp [Managed.Command.perform, hwrite, Except.map, Managed.Command.orElse]
    exact hperform ▸ h.step (.act _ _)

end Dedicated

namespace SlotPolicy

variable {policy : SlotPolicy} {image : ManagedImage} {cache : SymbolCache} {m : ModuleId}
  {c : ClassId} {pass : SlotPass ManagedImage}

/-- Patching a descriptor in place once more writes nothing. -/
theorem patchInPlace_again_of_names (hlinked : image.Linked) (htable : policy.Names image)
    (hsound : cache.moduleLoaded.Sound image)
    (h : policy.patchInPlace cache image c m = .ok pass) :
    ∃ again, policy.patchInPlace pass.cache pass.image c m = .ok again ∧
      again.outcome.written = 0 ∧ again.image = pass.image := by
  have hanswers := hlinked.answersAs cache
  generalize hf : (fun a => (cache.resolve image a none).1) = f at hanswers
  have hbase : Answering image f image cache := ⟨hanswers, rfl⟩
  have hslot := slotAt?_patchInPlace_of_answering hbase h
  have hserved := (Answering.invariant image f c).patchInPlace h hbase
  obtain ⟨k, hk, _⟩ := patchInPlace_cases h
  obtain ⟨k', hk', _⟩ := (patchInPlace_confined h).exists_blank hk
  obtain ⟨again, hagain⟩ := policy.patchInPlace_isOk pass.cache m hk'
  refine ⟨again, hagain, ?_⟩
  obtain ⟨l, hl, rfl⟩ := patchInPlace_cases hagain
  have hright : ∀ a s, f a = some s → image.symbol? a = some s := by
    intro a s hs
    rw [← hf] at hs
    exact hsound.symbol?_of_resolve hlinked hs
  have hsettled : ∀ slot ∈ (l.slots.map (·.address)).zipIdx.drop 1, ∀ b,
      policy.refreshedBy image m f slot.1 = some b → b = slot.1 := by
    rintro ⟨current, i⟩ hmem b hb
    obtain ⟨hi, hc⟩ := (mem_slots hl).1 hmem
    rw [hslot, if_neg hi] at hc
    obtain ⟨a, _, ha⟩ := Option.map_eq_some_iff.1 hc
    cases htarget : policy.refreshedBy image m f a with
    | none =>
      rw [htarget, Option.getD_none] at ha
      rw [← ha, htarget] at hb
      cases hb
    | some d =>
      rw [htarget, Option.getD_some] at ha
      subst ha
      exact eq_of_refreshedBy hlinked htable hright htarget hb
  have hcurrent : ∀ slot ∈ (l.slots.map (·.address)).zipIdx.drop 1,
      pass.image.slotAt? c slot.2 = some slot.1 := fun slot hslot => ((mem_slots hl).1 hslot).2
  exact (settles_refreshSlot policy image m f c).of_settled (p := ⟨pass.image, pass.cache, {}⟩)
    (drop_zipIdx_pairwise _) hserved hcurrent hsettled

/-- With a table and a cache that are used on one process only, patching a descriptor in place is
done the first time. -/
theorem patchInPlace_twice {t : Interposition} {w : Process} (h : Dedicated t cache w)
    (preserve : Bool) (m : ModuleId) {k : LinkedClass} (hk : w.image.class? c = some k) :
    ∃ pass again, patchInPlace ⟨t, preserve⟩ cache w.image c m = .ok pass ∧
      Dedicated t pass.cache { w with image := pass.image } ∧
      patchInPlace ⟨t, preserve⟩ pass.cache pass.image c m = .ok again ∧
      again.outcome.written = 0 ∧ again.image = pass.image := by
  obtain ⟨pass, hpass⟩ := patchInPlace_isOk ⟨t, preserve⟩ cache m hk
  have hr := h.reliable ⟨{ preserveStatics := preserve }, cache, t, ⟨.disabled, ⟨0⟩⟩, []⟩ rfl rfl
  obtain ⟨again, hagain, hnothing⟩ :=
    patchInPlace_again_of_names hr.valid.linked hr.names hr.sound hpass
  exact ⟨pass, again, hpass, (Dedicated.slots t w c).patchInPlace hpass h, hagain, hnothing⟩

/-- A cache that was asked for the later method too early, and was not told of the load. -/
def askedEarly : SymbolCache :=
  (SymbolCache.resolve {} (loadedShape SymbolCache.unloaded 1).image ⟨0x1020⟩ none).2

def takenShapes : Interposition.Absorbed ManagedImage :=
  match Interposition.absorb {} true twoShapes.image ⟨2⟩ with
  | .ok done => done
  | .error _ => ⟨{}, twoShapes.image, []⟩

/-- The first call writes the later method, which the cache denies, and the second nothing. -/
theorem patchInPlace_twice_takenShapes : ∃ pass again,
    patchInPlace ⟨takenShapes.table, true⟩ askedEarly takenShapes.image ⟨0⟩ ⟨2⟩ = .ok pass ∧
      pass.image.slotAt? ⟨0⟩ 1 = some ⟨0x1020⟩ ∧
      (pass.cache.resolve pass.image ⟨0x1020⟩ none).1 = none ∧
      patchInPlace ⟨takenShapes.table, true⟩ pass.cache pass.image ⟨0⟩ ⟨2⟩ = .ok again ∧
      again.outcome.written = 0 ∧ again.image = pass.image := by
  have hstart : Dedicated {} {} SymbolCache.unloaded := .start SymbolCache.started_unloaded
  have hasked := (hstart.step (step_loadedShape _ 1)).resolve ⟨0x1020⟩ none
  have htaken : Dedicated takenShapes.table askedEarly
      { twoShapes with image := takenShapes.image } :=
    (hasked.step (step_loadedShape _ 2)).absorb true ⟨2⟩ takenShapes rfl
  obtain ⟨pass, again, hpass, _, hagain⟩ := patchInPlace_twice htaken true ⟨2⟩
    (Option.some_get (by decide : (takenShapes.image.class? ⟨0⟩).isSome = true)).symm
  have hfirst : (patchInPlace ⟨takenShapes.table, true⟩ askedEarly takenShapes.image ⟨0⟩ ⟨2⟩).map
      (fun pass => (pass.image.slotAt? ⟨0⟩ 1,
        (pass.cache.resolve pass.image ⟨0x1020⟩ none).1)) = .ok (some ⟨0x1020⟩, none) := rfl
  rw [hpass] at hfirst
  obtain ⟨hslot, hdenied⟩ := Prod.mk.inj (Except.ok.inj hfirst)
  exact ⟨pass, again, hpass, hslot, hdenied, hagain⟩

end SlotPolicy

end HotReload
