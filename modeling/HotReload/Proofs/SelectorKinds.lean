import HotReload.Proofs.Copying
import HotReload.Proofs.Filing
import HotReload.Proofs.SlotKinds

/-! # Kinds of the code behind selectors

Selectors are copied without a look at the code behind them. What an entry becomes follows from the
tables alone, also where the code on one side or the other is not to be redirected.
-/

namespace HotReload

open ManagedImage (Confined)
open Managed (Process)

variable {policy : SlotPolicy} {m : ModuleId} {d : ClassId} {t : SelectorTable} {j : Nat}

theorem ManagedImage.entryAt?_kept (c d : ClassId) (t : SelectorTable) (j : Nat) :
    SlotPass.Kept c fun image after : ManagedImage =>
      after.entryAt? d t j = image.entryAt? d t j where
  refl _ := rfl
  trans h h' := h'.trans h
  write h := ManagedImage.entryAt?_writeSlot h d t j

/-- An older version of the same layout has its selectors copied from the new version. Where slot
tables are compared, their lengths have to agree too. -/
theorem PatchPass.entryAt?_patchVersion (policy : SlotPolicy) (m : ModuleId)
    {p : PatchPass ManagedImage} {new : ClassId} {k l : LinkedClass} (hne : new ≠ d)
    (hk : p.image.class? d = some k) (hl : p.image.class? new = some l)
    (hlayout : layoutChange? k.info l.info = none)
    (hlength : l.info.derivesFromGeneric = true ∨ k.slots.length = l.slots.length) :
    (patchVersion policy m l.info new d p).2.image.entryAt? d t j = (p.image.entryAt? d t j).map
      (Swizzle.received p.image d new (fun _ => true) t j) := by
  have hinfo : CodeImage.info? p.image d = some k.info := ManagedImage.info?_of_class? hk
  cases hderives : l.info.derivesFromGeneric with
  | true =>
    simp only [patchVersion, hderives, if_true, hinfo, hlayout, Option.isSome_none,
      Bool.false_eq_true, if_false]
    exact Swizzle.entryAt?_swizzle hne t j
  | false =>
    have hlength' : k.slots.length = l.slots.length := hlength.resolve_left (by simp [hderives])
    obtain ⟨pass, hpass⟩ := SlotPolicy.patch_isOk policy p.cache m hk hl
    obtain ⟨k', l', hk', hl', ⟨_, hrefused⟩ | ⟨_, _, hslots⟩⟩ := SlotPolicy.patch_cases hpass
    · obtain rfl := Option.some.inj (hk.symm.trans hk')
      obtain rfl := Option.some.inj (hl.symm.trans hl')
      exact absurd ⟨hlayout, hlength'⟩ hrefused
    · have hconfined := SlotPolicy.patch_keeps (SlotPass.confined_kept d) hpass
      have hentries := SlotPolicy.patch_keeps (ManagedImage.entryAt?_kept d d t j) hpass
      have hmismatch : pass.outcome.layoutMismatch = false := by
        rw [hslots]
        exact SlotPolicy.layoutMismatch_patchEach policy d m _ _
      simp only [patchVersion, hderives, hpass, hmismatch, Bool.false_eq_true, if_false]
      refine (Swizzle.entryAt?_swizzle hne t j).trans ?_
      rw [Swizzle.received_confined hconfined hne, hentries]

namespace GenericPass

variable {definition : ClassId}

theorem entryAt?_patchOne (policy : SlotPolicy) (m : ModuleId) (hook : String)
    (p : GenericPass ManagedImage) (hne : definition ≠ d) :
    (patchOne policy definition m hook p d).image.entryAt? d t j = (p.image.entryAt? d t j).map
      (Swizzle.received p.image d definition (isLifecycle hook) t j) := by
  simp only [patchOne]
  cases hk : p.image.class? d with
  | none =>
    have hnone : p.image.entryAt? d t j = none := by simp [ManagedImage.entryAt?, hk]
    cases hpass : policy.patchInPlace p.cache p.image d m with
    | error e => simp [hnone]
    | ok pass =>
      obtain ⟨k, hk', _⟩ := SlotPolicy.patchInPlace_cases hpass
      cases hk.symm.trans hk'
  | some k =>
    obtain ⟨pass, hpass⟩ := SlotPolicy.patchInPlace_isOk policy p.cache m hk
    have hentries := SlotPolicy.patchInPlace_keeps (ManagedImage.entryAt?_kept d d t j) hpass
    simp only [hpass]
    refine (Swizzle.entryAt?_swizzle hne t j).trans ?_
    rw [Swizzle.received_confined (SlotPolicy.patchInPlace_confined hpass) hne, hentries]

/-- A specialization that is listed once is copied into once. -/
theorem entryAt?_patchEach (policy : SlotPolicy) (m : ModuleId) (hook : String)
    (p : GenericPass ManagedImage) {cs : List ClassId} (hnodup : cs.Nodup) (hd : d ∈ cs)
    (hdefinition : definition ∉ cs) :
    (cs.foldl (patchOne policy definition m hook) p).image.entryAt? d t j =
      (p.image.entryAt? d t j).map
        (Swizzle.received p.image d definition (isLifecycle hook) t j) := by
  obtain ⟨before, after, rfl⟩ := List.append_of_mem hd
  obtain ⟨_, hafter, hdisjoint⟩ := List.nodup_append.1 hnodup
  have hbefore : d ∉ before := fun hin => hdisjoint d hin d List.mem_cons_self rfl
  have hfresh : definition ∉ before := fun hin => hdefinition (List.mem_append_left _ hin)
  have hne : definition ≠ d := by
    rintro rfl
    exact hdefinition hd
  have h₁ := patchEach_confined policy definition m hook before p
  rw [List.foldl_append, List.foldl_cons,
    (patchEach_confined policy definition m hook after _).entryAt? (List.nodup_cons.1 hafter).1,
    entryAt?_patchOne policy m hook _ hne, h₁.entryAt? hbefore,
    Swizzle.received_confined h₁ hfresh]

end GenericPass

namespace PatchPass

/-- A specialization of one of the generic definitions has its lifecycle selectors copied from that
definition. -/
theorem entryAt?_patchEachGeneric (policy : SlotPolicy) (m : ModuleId) {rules : PatchRules}
    (p : PatchPass ManagedImage) (hrecorded : ∀ base, (rules.recorded.under base).Nodup)
    {gs : List ClassId} (hnodup : gs.Nodup) {g : ClassId} (hg : g ∈ gs)
    (hown : ∀ base, g ∉ rules.recorded.under base) (hvisits : visits rules p.image d g = true)
    (honly : ∀ e ∈ gs, visits rules p.image d e = true → e = g) :
    (gs.foldl (patchGeneric policy rules m) p).image.entryAt? d t j =
      (p.image.entryAt? d t j).map (Swizzle.received p.image d g
        (GenericPass.isLifecycle rules.lifecycleHook) t j) := by
  obtain ⟨before, after, rfl⟩ := List.append_of_mem hg
  obtain ⟨_, hafter, hdisjoint⟩ := List.nodup_append.1 hnodup
  have hbefore : ¬before.any (visits rules p.image d) = true := by
    rw [List.any_eq_true]
    rintro ⟨e, he, hvisited⟩
    exact hdisjoint e he g List.mem_cons_self (honly e (List.mem_append_left _ he) hvisited)
  have hfresh : ¬before.any (visits rules p.image g) = true := by
    rw [List.any_eq_true]
    rintro ⟨e, _, hvisited⟩
    obtain ⟨_, hin⟩ := Bool.and_eq_true_iff.1 hvisited
    obtain ⟨info, _, hin⟩ := (Option.any_eq_true _ _).1 hin
    exact hown info.base (of_decide_eq_true hin)
  have h₁ := patchEachGeneric_confined policy (m := m) rules before p
  rw [List.foldl_append, List.foldl_cons]
  generalize before.foldl (patchGeneric policy rules m) p = q at h₁ ⊢
  have h₂ := patchGeneric_confined policy (m := m) rules q g
  have hrest : ¬after.any (visits rules (patchGeneric policy rules m q g).image d) = true := by
    rw [visits_confined h₂, visits_confined h₁, List.any_eq_true]
    rintro ⟨e, he, hvisited⟩
    obtain rfl := honly e (List.mem_append_right _ (List.mem_cons_of_mem g he)) hvisited
    exact (List.nodup_cons.1 hafter).1 he
  rw [(patchEachGeneric_confined policy rules after _).entryAt? hrest, ← h₁.entryAt? hbefore,
    ← Swizzle.received_confined h₁ hfresh]
  obtain ⟨htracks, hin⟩ := Bool.and_eq_true_iff.1 hvisits
  obtain ⟨info, hinfo, hin⟩ := (Option.any_eq_true _ _).1 hin
  have heach := GenericPass.entryAt?_patchEach (t := t) (j := j) policy m rules.lifecycleHook
    ⟨q.image, q.cache, {}⟩ (hrecorded info.base) (of_decide_eq_true hin) (hown info.base)
  simpa [patchGeneric, GenericPass.patch, htracks, h₁.info?, hinfo] using heach

section Module

variable {rules : PatchRules} {p : PatchPass ManagedImage} {c g : ClassId} {k l : LinkedClass}

/-- A patch copies the selectors of a class that the module declares once into an old version that
is not recorded as a specialization. -/
theorem entryAt?_patchClasses (policy : SlotPolicy) (h : p.Ready p.image)
    (hc : c ∈ CodeImage.classesIn p.image m) (hl : p.image.class? c = some l)
    (hgeneric : l.info.isGeneric = false)
    (honce : ∀ e ∈ CodeImage.classesIn p.image m, ∀ j, p.image.class? e = some j →
      j.info.name = l.info.name → e = c)
    (hk : p.image.class? d = some k) (hname : k.info.name = l.info.name) {n : Nat}
    (hd : Versions.sequenceOf? p.image d = some n) (hlt : n < m.number)
    (hlayout : layoutChange? k.info l.info = none)
    (hlength : l.info.derivesFromGeneric = true ∨ k.slots.length = l.slots.length)
    (hspecial : ¬IsSpecialization p.image rules m d) :
    (patchClasses policy rules m p).image.entryAt? d t j = (p.image.entryAt? d t j).map
      (Swizzle.received p.image d c (fun _ => true) t j) := by
  have hne : c ≠ d := by
    rintro rfl
    rw [sequenceOf?_of_mem h.linked hc] at hd
    exact absurd (Option.some.inj hd) (Nat.ne_of_gt hlt)
  obtain ⟨q, _, hqd, hqc, hafter⟩ :=
    isolated_patchEachClass policy p h hc hl hgeneric honce hk hname hd hlt
  have hentries : q.image.entryAt? d t j = p.image.entryAt? d t j := by
    rw [ManagedImage.entryAt?, hqd, ManagedImage.entryAt?]
  have hindex (selector : String) :
      q.image.entryIndex? d t selector = p.image.entryIndex? d t selector := by
    rw [ManagedImage.entryIndex?, hqd, ManagedImage.entryIndex?]
  rw [(patchGenerics_confined policy m rules p).entryAt? hspecial, ManagedImage.entryAt?, hafter,
    ← ManagedImage.entryAt?, entryAt?_patchVersion policy m hne (hqd.trans hk) (hqc.trans hl)
      hlayout hlength, hentries, Swizzle.received_congr hindex hqc]

/-- It copies the lifecycle selectors of a generic definition into a specialization that no other
definition of the module visits. -/
theorem entryAt?_patchClasses_of_visits (policy : SlotPolicy) (h : p.Ready p.image)
    (hrecorded : ∀ base, (rules.recorded.under base).Nodup)
    (hown : ∀ base, g ∉ rules.recorded.under base) (hg : g ∈ generics p.image m)
    (hvisits : visits rules p.image d g = true)
    (honly : ∀ e ∈ generics p.image m, visits rules p.image d e = true → e = g)
    (hold : ¬IsOlderVersion p.image m d) :
    (patchClasses policy rules m p).image.entryAt? d t j = (p.image.entryAt? d t j).map
      (Swizzle.received p.image d g (GenericPass.isLifecycle rules.lifecycleHook) t j) := by
  have hconfined := patchEachClass_confined policy m (CodeImage.classesIn p.image m) ([], p)
  have hnodup : (generics p.image m).Nodup := by
    obtain ⟨module, hm, _⟩ := ManagedImage.mem_classesIn.1 (List.mem_filter.1 hg).1
    have hclasses : (CodeImage.classesIn p.image m).Nodup := by
      simpa [CodeImage.classesIn, hm] using h.linked.distinct hm
    exact hclasses.filter _
  have hfresh : ¬∃ c ∈ CodeImage.classesIn p.image m, IsOlderVersionOf p.image c g := by
    rintro ⟨c, hc, hversion⟩
    exact not_isOlderVersionOf h.linked (List.mem_filter.1 hg).1 hc hversion
  rw [patchClasses_eq, entryAt?_patchEachGeneric policy m _ hrecorded hnodup hg hown,
    hconfined.entryAt? hold, Swizzle.received_confined hconfined hfresh]
  · rwa [visits_confined hconfined]
  · rwa [visits_confined hconfined]

end Module

end PatchPass

section Load

/-- A class of a module and a descriptor from before the module that has its selectors copied from
the class: the module declares its name once, the layout is the same, and so are the lengths of the
slot tables, which do not matter where the class derives from a generic type. -/
structure Supersedes (before after : ManagedImage) (m : ModuleId) (c d : ClassId)
    (new old : LinkedClass) : Prop where
  declared : c ∈ CodeImage.classesIn after m
  isNew : after.class? c = some new
  plain : new.info.isGeneric = false
  once : ∀ e ∈ CodeImage.classesIn after m, ∀ k, after.class? e = some k →
    k.info.name = new.info.name → e = c
  isOld : before.class? d = some old
  name : old.info.name = new.info.name
  layout : old.info.size = new.info.size ∧ old.info.addressPoint = new.info.addressPoint
  slots : new.info.derivesFromGeneric = true ∨ old.slots.length = new.slots.length

/-- No other generic definition of the module has the base of this one. -/
def SoleDefinition (image : ManagedImage) (m : ModuleId) (g : ClassId) : Prop :=
  ∀ e ∈ CodeImage.classesIn image m, ∀ info info', CodeImage.info? image e = some info →
    CodeImage.info? image g = some info' → info.isGeneric = true → info.base = info'.base → e = g

variable {r : Reloader} {w : Process} {loop : MainLoop} {path : Path} {report : LoadReport}
  {c g : ClassId} {new old : LinkedClass}

namespace Reloader.Landed

variable {after : Loaded ManagedImage} {before : ManagedImage} {spec : ModuleSpec Body}
  {done : Interposition.Absorbed ManagedImage}

theorem entryAt? (h : Landed r w after m before spec done) (hold : w.image.class? d = some old)
    (t : SelectorTable) (j : Nat) :
    after.world.image.entryAt? d t j = (r.patchLinked w before spec).image.entryAt? d t j := by
  have hsome := h.confined.class?_isSome d
  rw [h.class?_linked hold] at hsome
  obtain ⟨k, hk⟩ := Option.isSome_iff_exists.1 hsome
  rw [ManagedImage.entryAt?, h.class? hk, ManagedImage.entryAt?, hk]

/-- After the load, one can still tell what an entry received. -/
theorem received (h : Landed r w after m before spec done) (hw : Managed.Valid w)
    (hold : w.image.class? d = some old) (hc : c ∈ (before.linked spec).classes)
    (accepts : String → Bool) (t : SelectorTable) :
    Swizzle.received after.world.image d c accepts t =
      Swizzle.received (before.link spec).2 d c accepts t := by
  have hindex (selector : String) : after.world.image.entryIndex? d t selector =
      (before.link spec).2.entryIndex? d t selector := by
    rw [← h.confined.entryIndex?]
    have hsome := h.confined.class?_isSome d
    rw [h.class?_linked hold] at hsome
    obtain ⟨k, hk⟩ := Option.isSome_iff_exists.1 hsome
    rw [ManagedImage.entryIndex?, h.class? hk, ManagedImage.entryIndex?, hk]
  exact Swizzle.received_congr hindex (h.class?_own hw hc) accepts

theorem entryAt?_superseded (h : Landed r w after m before spec done) (hr : Reliable r w)
    (hregistered : Managed.Registered w)
    (hc : Supersedes w.image after.world.image m c d new old)
    (hspecial : ¬IsSpecialization after.world.image (r.rules w) m d) (t : SelectorTable) (j : Nat) :
    after.world.image.entryAt? d t j = (w.image.entryAt? d t j).map
      (Swizzle.received after.world.image d c (fun _ => true) t j) := by
  have hdeclared := hc.declared
  rw [h.classesIn] at hdeclared
  have hold := h.class?_linked hc.isOld
  have hnew : (before.link spec).2.class? c = some new := by
    rw [← h.class?_own hr.valid hdeclared, hc.isNew]
  have hown : c ∈ CodeImage.classesIn (before.link spec).2 before.nextModule := by
    rwa [ManagedImage.classesIn_nextModule]
  have honce : ∀ e ∈ CodeImage.classesIn (before.link spec).2 before.nextModule, ∀ k,
      (before.link spec).2.class? e = some k → k.info.name = new.info.name → e = c := by
    intro e he k hk
    rw [ManagedImage.classesIn_nextModule] at he
    rw [← h.class?_own hr.valid he] at hk
    rw [← h.classesIn] at he
    exact hc.once e he k hk
  obtain ⟨n, hn, hlt⟩ := h.exists_sequenceOf? hregistered hc.isOld
  have hlayout : layoutChange? old.info new.info = none := by simp [layoutChange?, hc.layout]
  have hlinked := PatchPass.entryAt?_patchClasses (t := t) (j := j) (p := ⟨(before.link spec).2,
    r.cache.moduleLoaded, { module := before.nextModule, sequence := before.nextModule.number }⟩)
    ⟨r.table, r.settings.preserveStatics⟩ (h.served hr) hown hnew hc.plain honce hold hc.name hn hlt
    hlayout hc.slots fun hin => hspecial (h.isSpecialization hin)
  rw [h.entryAt? hc.isOld, h.received hr.valid hc.isOld hdeclared]
  refine hlinked.trans ?_
  simp only [ManagedImage.entryAt?, hold, hc.isOld]

theorem entryAt?_renewed (h : Landed r w after m before spec done) (hr : Reliable r w)
    (hfiled : Managed.Filed w) (hinstalled : r.tracker.isInstalled = true)
    (hd : Renewed r w after.world.image m g d) (hsole : SoleDefinition after.world.image m g)
    (t : SelectorTable) (j : Nat) :
    after.world.image.entryAt? d t j = (w.image.entryAt? d t j).map
      (Swizzle.received after.world.image d g
        (GenericPass.isLifecycle r.settings.lifecycleHook) t j) := by
  obtain ⟨info, hinfo, hgeneric, hrecorded⟩ := hd.recorded
  obtain ⟨old, hold, hbase⟩ := (hfiled.under _ _).2 d hrecorded
  have hold' := h.class?_linked hold
  have hdeclared := hd.declared
  rw [h.classesIn] at hdeclared
  have hinfo? {e : ClassId} (he : e ∈ (before.linked spec).classes) :
      CodeImage.info? (before.link spec).2 e = CodeImage.info? after.world.image e :=
    congrArg (Option.map (·.info)) (h.class?_own hr.valid he).symm
  have hg : g ∈ PatchPass.generics (before.link spec).2 before.nextModule := by
    refine List.mem_filter.2 ⟨?_, ?_⟩
    · rwa [ManagedImage.classesIn_nextModule]
    · rw [hinfo? hdeclared, hinfo]
      exact hgeneric
  have hown (base : String) : g ∉ (r.rules w).recorded.under base := fun hin =>
    ((h.valid hr.valid).2.class?_of_recorded hin).2 _ (List.mem_filter.1 hg).1
  have hvisits : PatchPass.visits (r.rules w) (before.link spec).2 d g = true := by
    refine Bool.and_eq_true_iff.2 ⟨hinstalled, ?_⟩
    rw [hinfo? hdeclared, hinfo]
    exact decide_eq_true hrecorded
  have honly : ∀ e ∈ PatchPass.generics (before.link spec).2 before.nextModule,
      PatchPass.visits (r.rules w) (before.link spec).2 d e = true → e = g := by
    intro e he hvisited
    obtain ⟨hin, hgeneric'⟩ := List.mem_filter.1 he
    rw [ManagedImage.classesIn_nextModule] at hin
    obtain ⟨_, hunder⟩ := Bool.and_eq_true_iff.1 hvisited
    obtain ⟨info', hinfo', hunder⟩ := (Option.any_eq_true _ _).1 hunder
    rw [hinfo', Option.any_some] at hgeneric'
    -- A specialization is recorded under its own base only.
    obtain ⟨old', hold'', hbase'⟩ := (hfiled.under _ _).2 d (of_decide_eq_true hunder)
    obtain rfl := Option.some.inj (hold.symm.trans hold'')
    rw [hinfo? hin] at hinfo'
    rw [← h.classesIn] at hin
    exact hsole e hin info' info hinfo' hinfo hgeneric' (hbase'.symm.trans hbase)
  have hlinked := PatchPass.entryAt?_patchClasses_of_visits (t := t) (j := j)
    (p := ⟨(before.link spec).2, r.cache.moduleLoaded,
      { module := before.nextModule, sequence := before.nextModule.number }⟩)
    ⟨r.table, r.settings.preserveStatics⟩ (h.served hr) (fun base => (hfiled.under _ base).1) hown
    hg hvisits honly (hd.not_isOlderVersion h hold)
  rw [h.entryAt? hold, h.received hr.valid hold hdeclared]
  refine hlinked.trans ?_
  simp only [ManagedImage.entryAt?, hold', hold]
  rfl

/-- What the module offered when it was patched in, it still offers. -/
theorem offersEntry (h : Landed r w after m before spec done) (hw : Managed.Valid w)
    {e : String × Address} (he : OffersEntry (before.link spec).2 before.nextModule t e) :
    OffersEntry after.world.image m t e := by
  obtain ⟨c, hc, k, hk, hin⟩ := he
  refine ⟨c, h.mem_classesIn.2 hc, k, ?_, hin⟩
  rw [ManagedImage.classesIn_nextModule] at hc
  rwa [h.class?_own hw hc]

end Reloader.Landed

theorem Succeeds.supersedes {before after : ManagedImage}
    (h : Succeeds before after m c d new old) : Supersedes before after m c d new old :=
  ⟨h.declared, h.isNew, h.plain.1, h.once, h.isOld, h.name, h.layout, .inr h.slots⟩

/-- Where a load changes an entry, what it becomes is what a class of the module holds under the
selector. In an older version that is not patched in place, the first entry of a selector becomes
the last one of the new version that differs from it; in a specialization, that of its definition,
for lifecycle selectors. No kind is looked at. -/
theorem Shared.entryAt?_load_kinds (h : Shared r w) (hr : (r.load loop w path).result = .ok report)
    {selector : String} {a : Address} (ha : w.image.entryAt? d t j = some (selector, a)) :
    let image := (r.load loop w path).world.image
    ∃ b, image.entryAt? d t j = some (selector, b) ∧
      (b ≠ a → OffersEntry image report.module t (selector, b)) ∧
      (∀ c new old, Supersedes w.image image report.module c d new old →
        ¬IsSpecialization image (r.rules w) report.module d →
        Swizzle.received image d c (fun _ => true) t j (selector, a) = (selector, b)) ∧
      (∀ g, r.tracker.isInstalled = true → Renewed r w image report.module g d →
        SoleDefinition image report.module g →
        Swizzle.received image d g (GenericPass.isLifecycle r.settings.lifecycleHook) t j
          (selector, a) = (selector, b)) := by
  have hreliable := Reliable.of_shared h
  obtain ⟨before, spec, done, hlanded⟩ := Reloader.exists_landed hr
  obtain ⟨k, hk, hj⟩ := Option.bind_eq_some_iff.1 ha
  have hlinked : (before.link spec).2.entryAt? d t j = some (selector, a) := by
    simp [ManagedImage.entryAt?, hlanded.class?_linked hk, hj]
  obtain ⟨b, hb, hoffered⟩ := hlanded.redirected hreliable d t j selector a hlinked
  rw [← hlanded.entryAt? hk] at hb
  refine ⟨b, hb, fun hne => hlanded.offersEntry hreliable.valid (hoffered.resolve_left hne), ?_, ?_⟩
  · intro c new old hc hspecial
    have hentry := hlanded.entryAt?_superseded hreliable h.isStarted.registered hc hspecial t j
    rw [ha, hb] at hentry
    exact (Option.some.inj hentry).symm
  · intro g hinstalled hd hsole
    have hentry :=
      hlanded.entryAt?_renewed hreliable h.isStarted.filed hinstalled hd hsole t j
    rw [ha, hb] at hentry
    exact (Option.some.inj hentry).symm

end Load

namespace Redirected

def foreignModule : ModuleSpec Body :=
  Rewritten.version controller "Controller.title" .opaqueGetter

def foreignFirst : Loaded ManagedImage := (fresh false).1.loadSpec (fresh false).2 foreignModule

def foreignSecond : Loaded ManagedImage :=
  foreignFirst.reloader.loadSpec foreignFirst.world foreignModule

theorem hosted_foreign : Hosted foreignFirst.reloader foreignFirst.world :=
  (fresh_hosted false).loadSpec _ (by decide)

theorem entryAt?_load_kinds_foreign : ∃ report, foreignSecond.result = .ok report ∧
    foreignFirst.world.image.entryAt? ⟨0⟩ .onInstances 0 = some ("title", ⟨0x1000⟩) ∧
    ∃ b, foreignSecond.world.image.entryAt? ⟨0⟩ .onInstances 0 = some ("title", b) ∧
      OffersEntry foreignSecond.world.image report.module .onInstances ("title", b) ∧
      Swizzle.received foreignSecond.world.image ⟨0⟩ ⟨1⟩ (fun _ => true) .onInstances 0
        ("title", ⟨0x1000⟩) = ("title", b) := by
  obtain ⟨report, hresult, hmodule⟩ : ∃ report, foreignSecond.result = .ok report ∧
      report.module = ⟨2⟩ := ⟨_, rfl, rfl⟩
  have hbefore : foreignFirst.world.image.entryAt? ⟨0⟩ .onInstances 0 =
      some ("title", ⟨0x1000⟩) := by decide
  have hafter : foreignSecond.world.image.entryAt? ⟨0⟩ .onInstances 0 =
      some ("title", ⟨0x1020⟩) := by decide
  obtain ⟨b, hb, hoffered, hsuperseded, _⟩ :=
    Shared.entryAt?_load_kinds (hosted_foreign.staged foreignModule).shared hresult hbefore
  obtain rfl : b = ⟨0x1020⟩ := (Prod.mk.inj (Option.some.inj (hb.symm.trans hafter))).2
  have hclasses : CodeImage.classesIn foreignSecond.world.image report.module = [⟨1⟩] := by
    rw [hmodule]
    decide
  obtain ⟨old, hold⟩ : ∃ old, (staged foreignFirst.world foreignModule).image.class? ⟨0⟩ =
      some old := ⟨_, rfl⟩
  obtain ⟨new, hnew⟩ : ∃ new, foreignSecond.world.image.class? ⟨1⟩ = some new := ⟨_, rfl⟩
  obtain rfl := Option.some.inj (hold.symm.trans rfl)
  obtain rfl := Option.some.inj (hnew.symm.trans rfl)
  have hsucceeds := (Succeeds.of_single hclasses hnew (by decide) hold (by decide) (by decide)
    (by decide)).supersedes
  refine ⟨report, hresult, hbefore, _, hafter, hoffered (by decide), ?_⟩
  refine hsuperseded ⟨1⟩ _ _ hsucceeds ?_
  rintro ⟨htracks, _⟩
  exact absurd htracks (by decide)

/-- The getter of a foreign type, which is not to be redirected, gives way to another one. -/
theorem not_entryAt?_load_patchable :
    ¬∀ (r : Reloader) (w : Process) (loop : MainLoop) (path : Path) (report : LoadReport)
      (d : ClassId) (t : SelectorTable) (j : Nat) (selector : String) (a b : Address)
      (s s' : Symbol), Shared r w → (r.load loop w path).result = .ok report →
      w.image.entryAt? d t j = some (selector, a) →
      (r.load loop w path).world.image.entryAt? d t j = some (selector, b) → b ≠ a →
      SymbolCache.search (r.load loop w path).world.image a none = some s →
      SymbolCache.search (r.load loop w path).world.image b none = some s' →
      s.kind.patchable r.settings.preserveStatics = true ∧
        s'.kind.patchable r.settings.preserveStatics = true := by
  intro h
  obtain ⟨report, hresult⟩ : ∃ report, foreignSecond.result = .ok report := ⟨_, rfl⟩
  have hboth := h _ _ loop stagePath report ⟨0⟩ .onInstances 0 "title" ⟨0x1000⟩ ⟨0x1020⟩
    ⟨"Controller.title", ⟨0x1000⟩, ⟨1⟩, .opaqueGetter⟩
    ⟨"Controller.title", ⟨0x1020⟩, ⟨2⟩, .opaqueGetter⟩
    (hosted_foreign.staged foreignModule).shared hresult (by decide) (by decide) (by decide)
    (by decide) (by decide)
  cases hboth.1

end Redirected

end HotReload
