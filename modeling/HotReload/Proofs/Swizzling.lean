import HotReload.Proofs.Sharing

/-! # Where selectors lead

A load changes an entry of a selector table only by copying what a class of the module was linked to
under the same selector. Where the module defines the symbol, that is the newest implementation.
Where it does not, it is the oldest one, and the entry may go back.
-/

namespace HotReload

open Managed (Process)

def ManagedImage.entryAt? (image : ManagedImage) (d : ClassId) (t : SelectorTable) (j : Nat) :
    Option (String × Address) :=
  (image.class? d).bind fun k => (k.table t)[j]?

/-- Every entry keeps its selector. Its address stays or becomes one that is offered for the
selector. -/
def Redirected (Offered : SelectorTable → String × Address → Prop) (image after : ManagedImage) :
    Prop :=
  ∀ d t j selector a, image.entryAt? d t j = some (selector, a) →
    ∃ b, after.entryAt? d t j = some (selector, b) ∧ (b = a ∨ Offered t (selector, b))

/-- What a module offers to older descriptors: the entries of its own classes. -/
def OffersEntry (base : ManagedImage) (m : ModuleId) (t : SelectorTable) (e : String × Address) :
    Prop :=
  ∃ c ∈ CodeImage.classesIn base m, ∃ k, base.class? c = some k ∧ e ∈ k.table t

theorem getElem?_replaceFirst (selector : String) (b : Address) (table : Selectors) (j : Nat) :
    (ManagedImage.replaceFirst selector b table)[j]? =
      if table.findIdx? (·.1 == selector) = some j then some (selector, b) else table[j]? := by
  induction table generalizing j with
  | nil => simp [ManagedImage.replaceFirst]
  | cons e es ih =>
    rw [ManagedImage.replaceFirst, List.findIdx?_cons]
    by_cases he : e.1 = selector
    · cases j <;> simp [he]
    · cases j <;> simp [he, ih]

def ManagedImage.entryIndex? (image : ManagedImage) (d : ClassId) (t : SelectorTable)
    (selector : String) : Option Nat :=
  (image.class? d).bind fun k => (k.table t).findIdx? (·.1 == selector)

theorem ManagedImage.exists_entryAt? {image : ManagedImage} {d : ClassId} {t : SelectorTable}
    {selector : String} {j : Nat} (h : image.entryIndex? d t selector = some j) :
    ∃ a, image.entryAt? d t j = some (selector, a) := by
  obtain ⟨k, hk, hj⟩ := Option.bind_eq_some_iff.1 h
  obtain ⟨hlt, hselector, _⟩ := List.findIdx?_eq_some_iff_getElem.1 hj
  refine ⟨(k.table t)[j].2, ?_⟩
  simp [entryAt?, hk, List.getElem?_eq_getElem hlt, ← eq_of_beq hselector]

theorem ManagedImage.entryAt?_replaceSelector {image after : ManagedImage} {c : ClassId}
    {t : SelectorTable} {selector : String} {b : Address}
    (h : image.replaceSelector c t selector b = .ok after) (d : ClassId) (t' : SelectorTable)
    (j : Nat) : after.entryAt? d t' j =
      if d = c ∧ t' = t ∧ image.entryIndex? c t selector = some j then some (selector, b)
      else image.entryAt? d t' j := by
  rw [replaceSelector_eq h]
  simp only [entryAt?, entryIndex?, class?_modifyClass]
  by_cases hd : d = c
  · subst hd
    obtain hk | ⟨k, hk⟩ := Option.eq_none_or_eq_some (image.class? d)
    · simp [hk]
    · cases t <;> cases t' <;> simp [hk, withSelector, LinkedClass.table, getElem?_replaceFirst]
  · simp [hd]

theorem ManagedImage.entryAt?_writeSlot {image after : ManagedImage} {c : ClassId} {i : Nat}
    {a : Address} (h : image.writeSlot c i a = .ok after) (d : ClassId) (t : SelectorTable)
    (j : Nat) : after.entryAt? d t j = image.entryAt? d t j := by
  rw [writeSlot_eq h]
  simp only [entryAt?, class?_modifyClass]
  split
  · cases image.class? d with
    | none => rfl
    | some k => cases t <;> rfl
  · rfl

namespace Redirected

variable {Offered : SelectorTable → String × Address → Prop} {image after last : ManagedImage}
  {old new c : ClassId}

theorem refl (image : ManagedImage) : Redirected Offered image image :=
  fun _ _ _ _ a ha => ⟨a, ha, .inl rfl⟩

theorem trans (h : Redirected Offered image after) (h' : Redirected Offered after last) :
    Redirected Offered image last := by
  intro d t j selector a ha
  obtain ⟨b, hb, hab⟩ := h d t j selector a ha
  obtain ⟨b', hb', hbb⟩ := h' d t j selector b hb
  refine ⟨b', hb', ?_⟩
  cases hbb with
  | inl he => rwa [he]
  | inr hoffered => exact .inr hoffered

theorem slots (c : ClassId) : SlotPass.Kept c (Redirected Offered) where
  refl := refl
  trans := trans
  write h d t j selector a ha := ⟨a, by rw [ManagedImage.entryAt?_writeSlot h, ha], .inl rfl⟩

theorem replace {t : SelectorTable} {selector : String} {b : Address}
    (h : image.replaceSelector c t selector b = .ok after) (hb : Offered t (selector, b)) :
    Redirected Offered image after := by
  intro d t' j name a ha
  rw [ManagedImage.entryAt?_replaceSelector h]
  split
  · rename_i hentry
    obtain ⟨rfl, rfl, hj⟩ := hentry
    obtain ⟨a', ha'⟩ := ManagedImage.exists_entryAt? hj
    obtain ⟨rfl, rfl⟩ := Prod.mk.inj (Option.some.inj (ha.symm.trans ha'))
    exact ⟨b, rfl, .inr hb⟩
  · exact ⟨a, ha, .inl rfl⟩

theorem copyEntry (old : ClassId) {t : SelectorTable} (before : Selectors)
    (acc : SwizzleOutcome × ManagedImage) {e : String × Address} (he : Offered t e) :
    Redirected Offered acc.2 (Swizzle.copyEntry old t before acc e).2 := by
  simp only [Swizzle.copyEntry]
  split
  · exact refl _
  · split
    · exact refl _
    · split
      · rename_i after hr
        exact replace hr he
      · exact refl _

theorem copyTable (accepts : String → Bool) {t : SelectorTable}
    (acc : SwizzleOutcome × ManagedImage)
    (h : ∀ k, acc.2.class? new = some k → ∀ e ∈ k.table t, Offered t e) :
    Redirected Offered acc.2 (Swizzle.copyTable old new accepts acc t).2 := by
  simp only [Swizzle.copyTable]
  split
  · rename_i before after hbefore hafter
    have hoffered : ∀ e ∈ after.filter fun e => accepts e.1, Offered t e := by
      intro e he
      simp only [CodeImage.selectors, ManagedImage.classOrFail] at hafter
      cases hk : acc.2.class? new with
      | none => simp [hk, Except.map] at hafter
      | some k =>
        rw [hk] at hafter
        obtain rfl : k.table t = after := Except.ok.inj hafter
        exact h k hk e (List.mem_filter.1 he).1
    clear hbefore hafter h
    generalize after.filter _ = entries at hoffered
    induction entries generalizing acc with
    | nil => exact refl _
    | cons e entries ih =>
      have hcopied := copyEntry old before acc (hoffered e List.mem_cons_self)
      exact hcopied.trans (ih _ fun e he => hoffered e (List.mem_cons_of_mem _ he))
  · exact refl _

/-- The first table that is copied leaves the second one of the new descriptor as it is. -/
theorem swizzle (hne : new ≠ old) (accepts : String → Bool)
    (h : ∀ k, image.class? new = some k → ∀ t, ∀ e ∈ k.table t, Offered t e) :
    Redirected Offered image (Swizzle.swizzle image old new accepts).2 := by
  have hfirst : Redirected Offered image
      (Swizzle.copyTable old new accepts ({}, image) .onInstances).2 :=
    copyTable accepts ({}, image) fun k hk => h k hk .onInstances
  have hconfined := (Swizzle.confined_kept old).copyTable new accepts ({}, image) .onInstances
  have hsame := hconfined.outside new hne
  apply hfirst.trans
  apply copyTable accepts
  intro k hk
  rw [hsame] at hk
  exact h k hk .onClass

/-- A patch redirects entries to those of the module. -/
theorem stages (policy : SlotPolicy) {rules : PatchRules} {base : ManagedImage} {m : ModuleId}
    (hown : ∀ c ∈ CodeImage.classesIn base m, ¬IsSpecialization base rules m c) :
    PatchPass.Kept policy rules base m (Redirected (OffersEntry base m) base) where
  patch _ _ _ _ hp h := h.trans (SlotPolicy.patch_keeps (slots _) hp)
  refresh _ _ hp h := h.trans (SlotPolicy.patchInPlace_keeps (slots _) hp)
  copy := by
    intro image cache c d accepts hmid hc hd h
    have hne : c ≠ d := by
      rintro rfl
      exact hmid.not_isPatched hc (hown c hc) hd
    apply h.trans
    apply swizzle hne
    intro k hk t e he
    rw [hmid.class?_of_own hc (hown c hc)] at hk
    exact ⟨c, hc, k, hk, he⟩

end Redirected

section Load

variable {r : Reloader} {w : Process} {loop : MainLoop} {path : Path} {report : LoadReport}

theorem Reloader.Landed.redirected {after : Loaded ManagedImage} {m : ModuleId}
    {before : ManagedImage} {spec : ModuleSpec Body} {done : Interposition.Absorbed ManagedImage}
    (h : Landed r w after m before spec done) (hr : Reliable r w) :
    Redirected (OffersEntry (before.link spec).2 before.nextModule) (before.link spec).2
      (r.patchLinked w before spec).image :=
  h.keeps hr (Redirected.stages _ (h.not_isSpecialization hr.valid)) (Redirected.refl _)

/-- An entry of a selector table that a load changes gets what a class of the module holds under the
selector: the newest implementation of a patchable symbol if the module defines the symbol, and
otherwise that of the first module that exports the name. -/
theorem Hosted.entryAt?_load (h : Hosted r w) (hr : (r.load loop w path).result = .ok report)
    {d : ClassId} {t : SelectorTable} {j : Nat} {selector : String} {a : Address}
    (ha : w.image.entryAt? d t j = some (selector, a)) :
    let after := r.load loop w path
    ∃ b, after.world.image.entryAt? d t j = some (selector, b) ∧
      (b ≠ a → OffersEntry after.world.image report.module t (selector, b) ∧
        ∀ s, SymbolCache.search after.world.image b none = some s →
          s.kind.patchable r.settings.preserveStatics = true →
          (s.module = report.module → after.reloader.table.address? s.name = some b) ∧
          (s.module ≠ report.module →
            CodeImage.address? after.world.image report.module s.name = none ∧
              w.image.firstExport? s.name = some b)) := by
  have hup := UpToDate.of_hosted h
  obtain ⟨before, spec, done, hlanded⟩ := Reloader.exists_landed hr
  obtain ⟨k, hk, hj⟩ := Option.bind_eq_some_iff.1 ha
  have hlinked : (before.link spec).2.entryAt? d t j = some (selector, a) := by
    simp [ManagedImage.entryAt?, hlanded.class?_linked hk, hj]
  obtain ⟨b, hb, hcases⟩ := hlanded.redirected hup.reliable d t j selector a hlinked
  obtain ⟨l, hl, hj'⟩ := Option.bind_eq_some_iff.1 hb
  refine ⟨b, by simp [ManagedImage.entryAt?, hlanded.class? hl, hj'], fun hne => ?_⟩
  obtain ⟨c, hc, new, hnew, hin⟩ := hcases.resolve_left hne
  rw [ManagedImage.classesIn_nextModule] at hc
  refine ⟨⟨c, ?_, new, ?_, hin⟩, ?_⟩
  · rwa [hlanded.classesIn]
  · rwa [hlanded.class?_own hup.valid hc]
  · intro s hs hp
    obtain ⟨name, hname⟩ := ManagedImage.mem_table_link hc hnew hin
    obtain ⟨hsymbol, hbound⟩ := hlanded.bound_of_search hup.reliable hname hs
    obtain ⟨htable, hown, hinherited⟩ := hlanded.newest_of_bound hup hsymbol hbound hp
    refine ⟨fun hm => ?_, hinherited⟩
    rwa [hown hm] at htable

end Load

namespace Redirected

def controller : ClassSpec :=
  { name := "Controller", selectors := [("title", "Controller.title")] }

def first : Loaded ManagedImage := loadedOnce controller "Controller.title"

def second : Loaded ManagedImage := loadedTwice controller "Controller.title"

def third : Loaded ManagedImage := loadedThrice controller "Controller.title"

theorem hosted_first : Hosted first.reloader first.world :=
  (fresh_hosted false).loadSpec _ (by decide)

theorem hosted_second : Hosted second.reloader second.world := hosted_first.loadSpec _ (by decide)

theorem entryAt?_load_twice : ∃ report, second.result = .ok report ∧
    first.world.image.entryAt? ⟨0⟩ .onInstances 0 = some ("title", ⟨0x1000⟩) ∧
    ∃ b, second.world.image.entryAt? ⟨0⟩ .onInstances 0 = some ("title", b) ∧
      b ≠ ⟨0x1000⟩ ∧ second.reloader.table.address? "Controller.title" = some b := by
  obtain ⟨report, hresult, hmodule⟩ : ∃ report, second.result = .ok report ∧
      report.module = ⟨2⟩ := ⟨_, rfl, rfl⟩
  have hbefore : first.world.image.entryAt? ⟨0⟩ .onInstances 0 = some ("title", ⟨0x1000⟩) := by
    decide
  have hafter : second.world.image.entryAt? ⟨0⟩ .onInstances 0 = some ("title", ⟨0x1020⟩) := by
    decide
  obtain ⟨b, hb, hchanged⟩ := Hosted.entryAt?_load (hosted_first.staged _) hresult hbefore
  obtain rfl : b = ⟨0x1020⟩ := (Prod.mk.inj (Option.some.inj (hb.symm.trans hafter))).2
  obtain ⟨_, hsymbol⟩ := hchanged (by decide)
  have hnewest := hsymbol ⟨"Controller.title", ⟨0x1020⟩, ⟨2⟩, .method⟩ (by decide) (by decide)
  exact ⟨report, hresult, hbefore, _, hafter, by decide, hnewest.1 hmodule.symm⟩

/-- A selector goes back where the new version inherits its method. -/
theorem not_entryAt?_load_newest :
    ¬∀ (r : Reloader) (w : Process) (loop : MainLoop) (path : Path) (report : LoadReport)
      (d : ClassId) (t : SelectorTable) (j : Nat) (selector : String) (a b : Address) (s : Symbol),
      Hosted r w → (r.load loop w path).result = .ok report →
      w.image.entryAt? d t j = some (selector, a) →
      (r.load loop w path).world.image.entryAt? d t j = some (selector, b) → b ≠ a →
      SymbolCache.search (r.load loop w path).world.image b none = some s →
      s.kind.patchable r.settings.preserveStatics = true →
      (r.load loop w path).reloader.table.address? s.name = some b := by
  intro h
  obtain ⟨report, hresult⟩ : ∃ report, third.result = .ok report := ⟨_, rfl⟩
  have hback := h _ _ loop stagePath report ⟨0⟩ .onInstances 0 "title" ⟨0x1020⟩ ⟨0x1000⟩
    ⟨"Controller.title", ⟨0x1000⟩, ⟨1⟩, .method⟩ (hosted_second.staged _) hresult
    (by decide) (by decide) (by decide) (by decide) (by decide)
  have hnewest : third.reloader.table.address? "Controller.title" = some ⟨0x1020⟩ := by
    decide
  cases hnewest.symm.trans hback

end Redirected

end HotReload
