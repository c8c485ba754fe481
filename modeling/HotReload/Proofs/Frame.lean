import HotReload.Proofs.Dispatch

/-! # What a load leaves alone

Between linking a module and taking it in, a load writes tables of descriptors and call sites.
Everything else of the image stays, and of these two it writes only what the module redefines.
-/

namespace HotReload

open Interposition (Provides)
open Managed (Process)

/-- A descriptor of an earlier module, under the name of a class of the module that is no generic
definition. -/
def IsEarlier (image : ManagedImage) (m : ModuleId) (d : ClassId) : Prop :=
  ∃ c ∈ CodeImage.classesIn image m, ∃ new old, CodeImage.info? image c = some new ∧
    new.isGeneric = false ∧ CodeImage.info? image d = some old ∧ old.name = new.name ∧
    ∃ n n', CodeImage.sequence? image old.module = some n ∧
      CodeImage.sequence? image m = some n' ∧ n < n'

/-- The second image differs from the first in what the module redefines: slots and selectors of
earlier descriptors and of specializations, and call sites of the names that it provides. -/
structure Redefinition (rules : PatchRules) (m : ModuleId) (image after : ManagedImage) : Prop where
  rest : { after with modules := image.modules, classes := image.classes } = image
  modules : after.modules.map (·.unbound) = image.modules.map (·.unbound)
  infos : ∀ d, CodeImage.info? after d = CodeImage.info? image d
  slotCounts : ∀ d, (CodeImage.slots after d).map (·.length) =
    (CodeImage.slots image d).map (·.length)
  selectorNames : ∀ d t, (CodeImage.selectors after d t).map (·.map (·.1)) =
    (CodeImage.selectors image d t).map (·.map (·.1))
  destructors : ∀ d, after.slotAt? d 0 = image.slotAt? d 0
  own : ∀ c ∈ CodeImage.classesIn image m, after.class? c = image.class? c
  classes : ∀ d, after.class? d ≠ image.class? d →
    IsEarlier image m d ∨ IsSpecialization image rules m d
  boundNames : ∀ other name, (CodeImage.callSite? after other name).isSome =
    (CodeImage.callSite? image other name).isSome
  callSites : ∀ other, other ≠ m → ∀ name,
    CodeImage.callSite? after other name ≠ CodeImage.callSite? image other name →
      Provides rules.preserve image m name

namespace ManagedImage.Confined

variable {D : ClassId → Prop} {image after : ManagedImage}

theorem slotCount (h : Confined D image after) (c : ClassId) :
    (CodeImage.slots after c).map (·.length) = (CodeImage.slots image c).map (·.length) := by
  simp only [CodeImage.slots, slotAddresses, classOrFail]
  obtain ⟨hl, hk⟩ | ⟨l, k, hl, hk, hblank⟩ := h.class?_cases c
  · rw [hl, hk]
  · have hlength : l.blank.slots.length = k.blank.slots.length := by rw [hblank]
    simpa [hl, hk, Except.map, LinkedClass.blank] using hlength

theorem selectorNames (h : Confined D image after) (c : ClassId) (t : SelectorTable) :
    (CodeImage.selectors after c t).map (·.map (·.1)) =
      (CodeImage.selectors image c t).map (·.map (·.1)) := by
  simp only [CodeImage.selectors, classOrFail]
  obtain ⟨hl, hk⟩ | ⟨l, k, hl, hk, hblank⟩ := h.class?_cases c
  · rw [hl, hk]
  · have hnames : (l.blank.table t).map (·.1) = (k.blank.table t).map (·.1) := by rw [hblank]
    simpa [hl, hk, Except.map, LinkedClass.table_blank] using hnames

end ManagedImage.Confined

theorem IsOlderVersion.isEarlier {image : ManagedImage} (hlinked : image.Linked) {m : ModuleId}
    {d : ClassId} (h : IsOlderVersion image m d) : IsEarlier image m d := by
  obtain ⟨c, hc, hold⟩ := h
  obtain ⟨⟨k, l, hk, hl, hname, _⟩, n, n', hn, hn', hlt⟩ := hold.cases
  obtain ⟨info, _, hinfo, hgeneric, _⟩ := hold
  have hinfo' : CodeImage.info? image c = some l.info := ManagedImage.info?_of_class? hl
  obtain rfl := Option.some.inj (hinfo.symm.trans hinfo')
  have hd : CodeImage.info? image d = some k.info := ManagedImage.info?_of_class? hk
  obtain ⟨module, hm, hin⟩ := ManagedImage.mem_classesIn.1 hc
  obtain ⟨l', hl', hmodule⟩ := hlinked.registered hm c hin
  obtain rfl := Option.some.inj (hl.symm.trans hl')
  refine ⟨c, hc, l.info, k.info, hinfo, hgeneric, hd, hname, n, n', ?_, ?_, hlt⟩
  · simpa [Versions.sequenceOf?, hd] using hn
  · simpa [Versions.sequenceOf?, hinfo, hmodule] using hn'

/-- No stage of a patch writes a destructor. -/
theorem destructor_kept (policy : SlotPolicy) (rules : PatchRules) (base : ManagedImage)
    (m : ModuleId) :
    PatchPass.Kept policy rules base m fun image => ∀ d, image.slotAt? d 0 = base.slotAt? d 0 where
  patch := by
    intro image cache c d pass hmid _ _ _ hpatch hkept e
    rw [← hkept e]
    by_cases he : e = d
    · subst he
      obtain ⟨k, l, hk, hl, ⟨rfl, _⟩ | ⟨hlayout, hlength, _⟩⟩ := SlotPolicy.patch_cases hpatch
      · rfl
      · rw [SlotPolicy.slotAt?_patch hmid.served hk hl hlayout hlength hpatch,
          SlotPolicy.brought_of_none (.inl rfl)]
    · exact (SlotPolicy.patch_confined hpatch).slotAt? (fun hin => he hin.1) 0
  copy := by
    intro image cache c d accepts _ _ _ hkept e
    rw [← hkept e, Swizzle.slotAt?_swizzle]
  refresh := by
    intro image cache d pass hmid _ hrefresh hkept e
    rw [← hkept e]
    by_cases he : e = d
    · subst he
      rw [SlotPolicy.slotAt?_patchInPlace hmid.served hrefresh]
      cases image.slotAt? e 0 <;> simp [SlotPolicy.inPlace]
    · exact (SlotPolicy.patchInPlace_confined hrefresh).slotAt? he 0

/-- Taking a module in redirects call sites and neither adds nor drops one. -/
theorem Interposition.callSite?_absorb_isSome {t : Interposition} {preserve : Bool}
    {image : ManagedImage} {m : ModuleId} {done : Absorbed ManagedImage}
    (h : t.absorb preserve image m = .ok done) (other : ModuleId) (name : String) :
    (CodeImage.callSite? done.image other name).isSome =
      (CodeImage.callSite? image other name).isSome := by
  obtain ⟨_, batch, _, _, himage⟩ := absorb_cases h
  rw [himage, ManagedImage.callSite?_rebind, callSite?_rebindEach]
  split <;> split <;> simp

section Load

variable {r : Reloader} {w : Process} {loop : MainLoop} {path : Path} {report : LoadReport}

namespace Reloader.Landed

variable {after : Loaded ManagedImage} {m : ModuleId} {before : ManagedImage}
  {spec : ModuleSpec Body} {done : Interposition.Absorbed ManagedImage}

theorem patchIn (h : Landed r w after m before spec done) : ∃ patched,
    Reloader.patchIn { r with cache := r.cache.moduleLoaded }
        { w with image := (before.link spec).2 } m = .ok patched ∧
      patched.image = done.image := by
  obtain ⟨patched, hpatched⟩ := patchIn_isOk { r with cache := r.cache.moduleLoaded }
    { w with image := (before.link spec).2 } h.module?.1
  obtain ⟨done', hdone, himage, _⟩ := patchIn_cases hpatched
  have habsorbed := h.absorbed
  rw [patchLinked, ← h.module] at habsorbed
  obtain rfl := Except.ok.inj (habsorbed.symm.trans hdone)
  exact ⟨patched, hpatched, himage⟩

theorem redefinition (h : Landed r w after m before spec done) (hr : Reliable r w) :
    Redefinition (r.rules w) m (before.link spec).2 done.image := by
  have hlinked := (h.valid hr.valid).2.linked
  have hconfined := h.confined
  have hrebound := Interposition.absorb_rebound h.absorbed
  have hclass (d : ClassId) :
      done.image.class? d = (r.patchLinked w before spec).image.class? d := by
    simp only [ManagedImage.class?, hrebound.classes]
  have hdestructors := h.keeps hr (destructor_kept _ _ _ _) fun _ => rfl
  constructor
  case rest =>
    rw [← hconfined.rest, ← hrebound.rest]
  case modules => rw [hrebound.unbound, hconfined.modules]
  case infos =>
    intro d
    rw [← hconfined.info? d]
    simp only [CodeImage.info?, hclass]
  case slotCounts =>
    intro d
    rw [← hconfined.slotCount d]
    simp only [CodeImage.slots, ManagedImage.slotAddresses, ManagedImage.classOrFail, hclass]
  case selectorNames =>
    intro d t
    rw [← hconfined.selectorNames d t]
    simp only [CodeImage.selectors, ManagedImage.classOrFail, hclass]
  case destructors =>
    intro d
    rw [← hdestructors d, ManagedImage.slotAt?, hclass]
    rfl
  case own =>
    intro c hc
    rw [h.module] at hc
    rw [hclass]
    apply hconfined.outside
    rintro (⟨e, he, hold⟩ | hspecial)
    · exact not_isOlderVersionOf hlinked hc he hold
    · exact h.not_isSpecialization hr.valid c hc hspecial
  case classes =>
    intro d hd
    rw [hclass] at hd
    rw [h.module]
    have hpatched := Classical.byContradiction fun hnot => hd (hconfined.outside d hnot)
    exact hpatched.imp_left (·.isEarlier hlinked)
  case boundNames =>
    intro other name
    rw [Interposition.callSite?_absorb_isSome h.absorbed, hconfined.callSite?]
  case callSites =>
    intro other hother name hchanged
    by_contra hnot
    have hexports : CodeImage.exports (r.patchLinked w before spec).image m =
        CodeImage.exports (before.link spec).2 m := by
      simp only [CodeImage.exports, hconfined.module?]
    have hnot' :
        ¬Provides r.settings.preserveStatics (r.patchLinked w before spec).image m name := by
      rintro ⟨s, hs, hp⟩
      exact hnot ⟨s, hexports ▸ hs, hp⟩
    apply hchanged
    rw [Interposition.callSite?_absorb_of_not_provides h.absorbed hother hnot', hconfined.callSite?]

end Reloader.Landed

/-- Between linking the module and taking it in, a load that succeeds changes the image only in what
the module redefines. -/
theorem Shared.redefinition_load (h : Shared r w) (hr : (r.load loop w path).result = .ok report) :
    ∃ image patched, CodeImage.loadModule w.image path = (.ok report.module, image) ∧
      Reloader.patchIn { r with cache := r.cache.moduleLoaded } { w with image } report.module =
        .ok patched ∧
      Redefinition (r.rules w) report.module image patched.image := by
  obtain ⟨before, spec, done, hloaded, hlanded⟩ := Reloader.loaded_and_landed hr
  obtain ⟨patched, hpatched, himage⟩ := hlanded.patchIn
  refine ⟨(before.link spec).2, patched, hloaded, hpatched, ?_⟩
  rw [himage]
  exact hlanded.redefinition (Reliable.of_shared h)

end Load

namespace Dispatched

def relinked : ManagedImage :=
  (CodeImage.loadModule (staged populated areaFirst).image stagePath).2

/-- The old version has a slot written, and keeps its destructor; the new one stays. -/
theorem redefinition_load_reloaded : ∃ report patched, reloaded.result = .ok report ∧
    CodeImage.loadModule (staged populated areaFirst).image stagePath =
      (.ok report.module, relinked) ∧
    Reloader.patchIn { loaded.reloader with cache := loaded.reloader.cache.moduleLoaded }
      { staged populated areaFirst with image := relinked } report.module = .ok patched ∧
    relinked.slotAt? ⟨0⟩ 1 = some ⟨0x1000⟩ ∧ patched.image.slotAt? ⟨0⟩ 1 = some ⟨0x1030⟩ ∧
    patched.image.slotAt? ⟨0⟩ 0 = some ⟨0x1020⟩ ∧
    patched.image.class? ⟨1⟩ = relinked.class? ⟨1⟩ ∧ IsEarlier relinked report.module ⟨0⟩ := by
  obtain ⟨report, hresult, hmodule⟩ : ∃ report, reloaded.result = .ok report ∧
      report.module = ⟨2⟩ := ⟨_, rfl, rfl⟩
  obtain ⟨image, patched, hload, hpatched, h⟩ :=
    Shared.redefinition_load (populated_hosted.staged areaFirst).shared hresult
  obtain rfl : relinked = image := congrArg Prod.snd hload
  have hbefore : relinked.slotAt? ⟨0⟩ 1 = some ⟨0x1000⟩ := by decide
  have hdestructor : relinked.slotAt? ⟨0⟩ 0 = some ⟨0x1020⟩ := by decide
  have hown : (⟨1⟩ : ClassId) ∈ CodeImage.classesIn relinked report.module := by
    rw [hmodule]
    decide
  have hafter : patched.image.slotAt? ⟨0⟩ 1 = some ⟨0x1030⟩ := by
    rw [hmodule] at hpatched
    obtain rfl := Except.ok.inj hpatched
    decide
  have hchanged : patched.image.class? ⟨0⟩ ≠ relinked.class? ⟨0⟩ := by
    intro hsame
    rw [ManagedImage.slotAt?, hsame, ← ManagedImage.slotAt?, hbefore] at hafter
    cases hafter
  have hplain : ¬IsSpecialization relinked (loaded.reloader.rules (staged populated areaFirst))
      report.module ⟨0⟩ := fun hspecial => by cases hspecial.1
  exact ⟨report, patched, hresult, hload, hpatched, hbefore, hafter,
    (h.destructors ⟨0⟩).trans hdestructor, h.own ⟨1⟩ hown,
    (h.classes ⟨0⟩ hchanged).resolve_right hplain⟩

end Dispatched

end HotReload
