import HotReload.Proofs.Slots

/-! # What a patch makes of an old version

An old version of a class that the module declares once has each of its slots brought to the
target of the new version's slot. The other classes of the module do not disturb it.
-/

namespace HotReload

open ManagedImage (Confined)

section Swizzles

variable {image after : ManagedImage} {old : ClassId}

theorem ManagedImage.slotAt?_replaceSelector {t : SelectorTable} {selector : String} {a : Address}
    (h : image.replaceSelector old t selector a = .ok after) (c : ClassId) (i : Nat) :
    after.slotAt? c i = image.slotAt? c i := by
  rw [replaceSelector_eq h]
  simp only [slotAt?, class?_modifyClass]
  by_cases hc : c = old
  · rw [if_pos hc]
    cases image.class? c with
    | none => rfl
    | some k => cases t <;> rfl
  · rw [if_neg hc]

theorem Swizzle.slotAt?_swizzle (image : ManagedImage) (old new : ClassId)
    (accepts : String → Bool) (c : ClassId) (i : Nat) :
    (Swizzle.swizzle image old new accepts).2.slotAt? c i = image.slotAt? c i := by
  have h : Swizzle.Kept old fun image after : ManagedImage =>
      after.slotAt? c i = image.slotAt? c i :=
    ⟨fun _ => rfl, fun h h' => h'.trans h,
      fun hr => ManagedImage.slotAt?_replaceSelector hr c i⟩
  exact h.swizzle image new accepts

end Swizzles

namespace ManagedImage

variable {image : ManagedImage}

theorem mem_classIdsWhere {p : LinkedClass → Bool} {c : ClassId} :
    c ∈ image.classIdsWhere p ↔ ∃ k, image.class? c = some k ∧ p k = true := by
  simp only [classIdsWhere, List.mem_map, List.mem_filter, Prod.exists,
    List.mem_zipIdx_iff_getElem?]
  constructor
  · rintro ⟨k, i, ⟨hk, hp⟩, rfl⟩
    exact ⟨k, hk, hp⟩
  · rintro ⟨k, hk, hp⟩
    exact ⟨k, c.index, ⟨hk, hp⟩, rfl⟩

theorem nodup_classIdsWhere (p : LinkedClass → Bool) : (image.classIdsWhere p).Nodup := by
  refine List.pairwise_map.2 (((zipIdx_pairwise image.classes).filter _).imp ?_)
  intro e f hef heq
  have hi := congrArg ClassId.index heq
  simp only at hi
  omega

end ManagedImage

namespace Versions

variable {image : ManagedImage} {c d : ClassId} {v : Versions}

theorem mem_old (h : collect? image c = some v) :
    d ∈ v.old ↔ ∃ info n, CodeImage.info? image c = some info ∧
      CodeImage.sequence? image info.module = some n ∧
      d ∈ CodeImage.classesNamed image info.name ∧ d ≠ c ∧
      (sequenceOf? image d).any (· < n) = true := by
  simp only [collect?, Option.bind_eq_bind, Option.bind_eq_some_iff] at h
  obtain ⟨info, hi, n, hn, hv⟩ := h
  cases hv
  simp only [List.mem_filter, Bool.and_eq_true, bne_iff_ne]
  constructor
  · rintro ⟨hd, hne, hs⟩
    exact ⟨info, n, hi, hn, hd, hne, hs⟩
  · rintro ⟨info', n', hi', hn', hd, hne, hs⟩
    rw [hi] at hi'
    cases hi'
    rw [hn] at hn'
    cases hn'
    exact ⟨hd, hne, hs⟩

theorem nodup_old (h : collect? image c = some v) : v.old.Nodup := by
  simp only [collect?, Option.bind_eq_bind, Option.bind_eq_some_iff] at h
  obtain ⟨info, _, n, _, hv⟩ := h
  cases hv
  exact (ManagedImage.nodup_classIdsWhere _).filter _

end Versions

section Module

variable {m : ModuleId} {c d : ClassId} {k l : LinkedClass}

theorem sequenceOf?_of_mem {image : ManagedImage} (hlinked : image.Linked)
    (hc : c ∈ CodeImage.classesIn image m) : Versions.sequenceOf? image c = some m.number := by
  obtain ⟨module, hm, hc⟩ := ManagedImage.mem_classesIn.1 hc
  obtain ⟨l, hl, rfl⟩ := hlinked.registered hm c hc
  simp [Versions.sequenceOf?, CodeImage.info?, CodeImage.sequence?, hl, hm]

/-- An older version has the name of the class, and was registered by an earlier module. -/
theorem IsOlderVersionOf.cases {image : ManagedImage} (h : IsOlderVersionOf image c d) :
    (∃ k l, image.class? d = some k ∧ image.class? c = some l ∧ k.info.name = l.info.name ∧
      layoutChange? k.info l.info = none) ∧
      ∃ n n', Versions.sequenceOf? image d = some n ∧ Versions.sequenceOf? image c = some n' ∧
        n < n' := by
  obtain ⟨_, v, hi, _, hv, hd, k, hk, hlayout⟩ := h
  obtain ⟨l, hl, rfl⟩ := Option.map_eq_some_iff.1 hi
  obtain ⟨_, n', hi', hn', hd, _, hs⟩ := (Versions.mem_old hv).1 hd
  obtain rfl := Option.some.inj (hi.symm.trans hi')
  obtain ⟨k', hk', hname⟩ := ManagedImage.mem_classIdsWhere.1 hd
  obtain rfl := Option.some.inj (hk.symm.trans hk')
  obtain ⟨n, hn, hlt⟩ := (Option.any_eq_true _ _).1 hs
  refine ⟨⟨k, l, hk, hl, eq_of_beq hname, hlayout⟩, n, n', hn, ?_, of_decide_eq_true hlt⟩
  simp [Versions.sequenceOf?, hi, hn']

/-- A class of the module is no older version of another one. -/
theorem Versions.not_mem_old {image : ManagedImage} (hlinked : image.Linked) {e : ClassId}
    {v : Versions} (hc : c ∈ CodeImage.classesIn image m) (he : e ∈ CodeImage.classesIn image m)
    (hv : collect? image e = some v) : c ∉ v.old := by
  intro h
  obtain ⟨info, n, hi, hn, _, _, hlt⟩ := (mem_old hv).1 h
  have hsequence : sequenceOf? image e = some n := by rw [sequenceOf?, hi, Option.bind_some, hn]
  rw [sequenceOf?_of_mem hlinked he] at hsequence
  rw [sequenceOf?_of_mem hlinked hc, hsequence] at hlt
  simp at hlt

theorem not_isOlderVersionOf {image : ManagedImage} (hlinked : image.Linked) {e : ClassId}
    (hc : c ∈ CodeImage.classesIn image m) (he : e ∈ CodeImage.classesIn image m) :
    ¬IsOlderVersionOf image e c := by
  rintro ⟨_, _, _, _, hv, h, _⟩
  exact Versions.not_mem_old hlinked hc he hv h

theorem Versions.exists_versions {image : ManagedImage} (hlinked : image.Linked)
    (hc : c ∈ CodeImage.classesIn image m) : ∃ v, collect? image c = some v := by
  obtain ⟨info, hinfo, hsequence⟩ := Option.bind_eq_some_iff.1 (sequenceOf?_of_mem hlinked hc)
  simp [collect?, hinfo, hsequence]

/-- A descriptor from before the module is among the old versions of a class of its name. -/
theorem exists_collect? {image : ManagedImage} (hlinked : image.Linked)
    (hc : c ∈ CodeImage.classesIn image m) (hl : image.class? c = some l)
    (hk : image.class? d = some k) (hname : k.info.name = l.info.name) {n : Nat}
    (hd : Versions.sequenceOf? image d = some n) (hlt : n < m.number) :
    ∃ v, Versions.collect? image c = some v ∧ d ∈ v.old := by
  have hinfo : CodeImage.info? image c = some l.info := ManagedImage.info?_of_class? hl
  have hsequence := sequenceOf?_of_mem hlinked hc
  rw [Versions.sequenceOf?, hinfo, Option.bind_some] at hsequence
  obtain ⟨v, hv⟩ := Versions.exists_versions hlinked hc
  refine ⟨v, hv, (Versions.mem_old hv).2 ⟨l.info, m.number, hinfo, hsequence, ?_, ?_, ?_⟩⟩
  · exact ManagedImage.mem_classIdsWhere.2 ⟨k, hk, beq_iff_eq.2 hname⟩
  · rintro rfl
    rw [sequenceOf?_of_mem hlinked hc] at hd
    exact absurd (Option.some.inj hd) (Nat.ne_of_gt hlt)
  · simp [hd, hlt]

end Module

namespace GenericPass

variable {base : ManagedImage} {policy : SlotPolicy} {m : ModuleId}

theorem patchOne_served {p : GenericPass ManagedImage} (h : Served base p.image p.cache)
    (definition : ClassId) (hook : String) (c : ClassId) :
    let after := patchOne policy definition m hook p c
    Served base after.image after.cache :=
  (Served.invariant base c).patchOne h definition hook

end GenericPass

namespace PatchPass

/-- The image and the cache of the pass are those of a linked image with the base's modules. -/
def Ready (base : ManagedImage) (p : PatchPass ManagedImage) : Prop := Served base p.image p.cache

variable {base : ManagedImage} {policy : SlotPolicy} {m : ModuleId} {p : PatchPass ManagedImage}

theorem patchVersion_ready (h : p.Ready base) (info : ClassInfo) (new old : ClassId) :
    (patchVersion policy m info new old p).2.Ready base :=
  (Served.invariant base old).patchVersion h info new

theorem patchEachClass_ready {acc : List ClassId × PatchPass ManagedImage}
    (h : acc.2.Ready base) (cs : List ClassId) :
    (cs.foldl (patchClass policy m) acc).2.Ready base :=
  Invariant.patchEachClass (Served.invariant base) h cs

theorem patchGeneric_ready (h : p.Ready base) (rules : PatchRules) (g : ClassId) :
    (patchGeneric policy rules m p g).Ready base :=
  Invariant.patchGeneric (Served.invariant base) h rules g

theorem patchClasses_ready (h : p.Ready base) (rules : PatchRules) :
    (patchClasses policy rules m p).Ready base :=
  Invariant.patchClasses (Served.invariant base) h rules

section Effect

variable (policy) (m)
variable {c d new : ClassId} {k l : LinkedClass}

theorem slotAt?_patchVersion (h : p.Ready base) (hk : p.image.class? d = some k)
    (hl : p.image.class? new = some l) (hderives : l.info.derivesFromGeneric = false)
    (hlayout : layoutChange? k.info l.info = none) (hlength : k.slots.length = l.slots.length)
    (i : Nat) : (patchVersion policy m l.info new d p).2.image.slotAt? d i =
      policy.brought p.image m base d new i := by
  obtain ⟨pass, hpass⟩ := SlotPolicy.patch_isOk policy p.cache m hk hl
  have hslot := SlotPolicy.slotAt?_patch h hk hl hlayout hlength hpass i
  simp only [patchVersion, hderives, hpass]
  simp only [Bool.false_eq_true, if_false]
  split
  · rw [mismatch_image]
    exact hslot
  · rw [← hslot]
    exact Swizzle.slotAt?_swizzle _ _ _ _ _ _

/-- Between the two images, the descriptor was brought to the new version by one step, in which both
were as in the first image. -/
def Isolated (info : ClassInfo) (base : ManagedImage) (new d : ClassId)
    (image after : ManagedImage) : Prop :=
  ∃ p : PatchPass ManagedImage, p.Ready base ∧ p.image.class? d = image.class? d ∧
    p.image.class? new = image.class? new ∧
    after.class? d = (patchVersion policy m info new d p).2.image.class? d

variable {policy m}

theorem Isolated.congr {info : ClassInfo} {image image' after after' : ManagedImage}
    (h : Isolated policy m info base new d image after) (hd : image.class? d = image'.class? d)
    (hnew : image.class? new = image'.class? new) (hafter : after'.class? d = after.class? d) :
    Isolated policy m info base new d image' after' := by
  obtain ⟨p, hp, hpd, hpn, he⟩ := h
  exact ⟨p, hp, hpd.trans hd, hpn.trans hnew, hafter.trans he⟩

variable (policy) (m)

theorem isolated_versionSteps {info : ClassInfo} (olds : List ClassId) (hnodup : olds.Nodup)
    (hnew : new ∉ olds) (hd : d ∈ olds) (acc : Bool × PatchPass ManagedImage)
    (h : acc.2.Ready base) (hinfo : CodeImage.info? acc.2.image new = some info) :
    Isolated policy m info base new d acc.2.image
      (olds.foldl (versionStep policy m info new) acc).2.image := by
  induction olds generalizing acc with
  | nil => exact absurd hd List.not_mem_nil
  | cons old olds ih =>
    obtain ⟨hold, hnodup⟩ := List.nodup_cons.1 hnodup
    have hstep := patchVersion_confined policy m old acc.2 hinfo
    rw [List.foldl_cons]
    by_cases heq : d = old
    · subst heq
      have hrest := versionSteps_confined policy m olds (versionStep policy m info new acc d)
        ((hstep.info? new).trans hinfo)
      exact ⟨acc.2, h, rfl, rfl, hrest.outside d fun hin => hold hin.1⟩
    · have hne : new ≠ old := fun e => hnew (e ▸ List.mem_cons_self)
      have hrest := ih hnodup (fun hin => hnew (List.mem_cons_of_mem old hin))
        ((List.mem_cons.1 hd).resolve_left heq) (versionStep policy m info new acc old)
        (patchVersion_ready h info new old) ((hstep.info? new).trans hinfo)
      exact hrest.congr (hstep.outside d fun hin => heq hin.1)
        (hstep.outside new fun hin => hne hin.1) rfl

/-- Each old version is patched towards the new one as if it were the only one. -/
theorem isolated_patchClass {acc : List ClassId × PatchPass ManagedImage} {v : Versions}
    (h : acc.2.Ready base) {info : ClassInfo} (hinfo : CodeImage.info? acc.2.image c = some info)
    (hgeneric : info.isGeneric = false) (hv : Versions.collect? acc.2.image c = some v)
    (hd : d ∈ v.old) :
    Isolated policy m info base c d acc.2.image (patchClass policy m acc c).2.image := by
  have hold : v.isRedefinition = true := by
    have hne := List.ne_nil_of_mem hd
    simpa [Versions.isRedefinition] using hne
  obtain rfl : v.new = c := collect?_new hv
  have hmem : v.new ∉ v.old := by
    intro hin
    obtain ⟨_, _, _, _, _, hne, _⟩ := (Versions.mem_old hv).1 hin
    exact hne rfl
  have hcollect : Versions.collect? (acc.2.list v.new info.name).image v.new = some v := hv
  have hlisted : (acc.2.list v.new info.name).Ready base := h
  have hsteps := isolated_versionSteps policy m v.old (Versions.nodup_old hv) hmem hd
    (false, acc.2.list v.new info.name) hlisted hinfo
  simp only [patchClass, hinfo, hgeneric, hcollect, hold, if_true, Bool.false_eq_true, if_false]
  rw [patchVersions_image]
  exact hsteps

end Effect

section Module

variable {c d : ClassId} {k l : LinkedClass}

/-- An old version of a class that the module declares once is brought to the new version, and
nothing else is done to it. -/
theorem isolated_patchEachClass (policy : SlotPolicy) (p : PatchPass ManagedImage)
    (h : p.Ready p.image) (hc : c ∈ CodeImage.classesIn p.image m)
    (hl : p.image.class? c = some l) (hgeneric : l.info.isGeneric = false)
    (honce : ∀ e ∈ CodeImage.classesIn p.image m, ∀ j, p.image.class? e = some j →
      j.info.name = l.info.name → e = c)
    (hk : p.image.class? d = some k) (hname : k.info.name = l.info.name) {n : Nat}
    (hd : Versions.sequenceOf? p.image d = some n) (hlt : n < m.number) :
    Isolated policy m l.info p.image c d p.image
      ((CodeImage.classesIn p.image m).foldl (patchClass policy m) ([], p)).2.image := by
  obtain ⟨module, hm, hmem⟩ := ManagedImage.mem_classesIn.1 hc
  have hnodup : (CodeImage.classesIn p.image m).Nodup := by
    simpa [CodeImage.classesIn, hm] using h.linked.distinct hm
  have hfree : ∀ e ∈ CodeImage.classesIn p.image m, e ≠ c → ¬IsOlderVersionOf p.image e d := by
    intro e he hne hold
    obtain ⟨⟨k', j, hk', hj, hsame, _⟩, _⟩ := IsOlderVersionOf.cases hold
    rw [hk] at hk'
    cases hk'
    exact hne (honce e he j hj (hsame.symm.trans hname))
  have hfresh : ∀ e ∈ CodeImage.classesIn p.image m, ¬IsOlderVersionOf p.image e c :=
    fun e he => not_isOlderVersionOf h.linked hc he
  obtain ⟨v, hv, hdv⟩ := exists_collect? h.linked hc hl hk hname hd hlt
  have hinfo : CodeImage.info? p.image c = some l.info := ManagedImage.info?_of_class? hl
  obtain ⟨before, after, hsplit⟩ := List.append_of_mem hc
  rw [hsplit] at hnodup hfree hfresh ⊢
  obtain ⟨_, hafter, hdisjoint⟩ := List.nodup_append.1 hnodup
  rw [List.foldl_append, List.foldl_cons]
  have h₁ := patchEachClass_confined policy m before ([], p)
  have hready : (before.foldl (patchClass policy m) ([], p)).2.Ready p.image :=
    patchEachClass_ready h before
  generalize before.foldl (patchClass policy m) ([], p) = acc at h₁ hready ⊢
  have hd₁ : ¬∃ e ∈ before, IsOlderVersionOf p.image e d := by
    rintro ⟨e, he, hold⟩
    exact hfree e (List.mem_append_left _ he) (hdisjoint e he c List.mem_cons_self) hold
  have hc₁ : ¬∃ e ∈ before, IsOlderVersionOf p.image e c := by
    rintro ⟨e, he, hold⟩
    exact hfresh e (List.mem_append_left _ he) hold
  have h₂ := patchClass_confined policy m acc c
  have h₃ := patchEachClass_confined policy m after (patchClass policy m acc c)
  have hd₃ : ¬∃ e ∈ after, IsOlderVersionOf (patchClass policy m acc c).2.image e d := by
    rintro ⟨e, he, hold⟩
    have hne : e ≠ c := fun heq => (List.nodup_cons.1 hafter).1 (heq ▸ he)
    exact hfree e (List.mem_append_right _ (List.mem_cons_of_mem c he)) hne
      (IsOlderVersionOf.of_confined (h₁.trans_any h₂) hold)
  have hstep := isolated_patchClass policy m hready ((h₁.info? c).trans hinfo) hgeneric
    ((h₁.collect? c).trans hv) hdv
  exact hstep.congr (h₁.outside d hd₁) (h₁.outside c hc₁) (h₃.outside d hd₃)

theorem slotAt?_patchEachClass (policy : SlotPolicy) (p : PatchPass ManagedImage)
    (h : p.Ready p.image) (hc : c ∈ CodeImage.classesIn p.image m)
    (hl : p.image.class? c = some l) (hgeneric : l.info.isGeneric = false)
    (hderives : l.info.derivesFromGeneric = false)
    (honce : ∀ e ∈ CodeImage.classesIn p.image m, ∀ j, p.image.class? e = some j →
      j.info.name = l.info.name → e = c)
    (hk : p.image.class? d = some k) (hname : k.info.name = l.info.name) {n : Nat}
    (hd : Versions.sequenceOf? p.image d = some n) (hlt : n < m.number)
    (hlayout : layoutChange? k.info l.info = none) (hlength : k.slots.length = l.slots.length)
    (i : Nat) :
    ((CodeImage.classesIn p.image m).foldl (patchClass policy m) ([], p)).2.image.slotAt? d i =
      policy.brought p.image m p.image d c i := by
  obtain ⟨q, hq, hqd, hqc, hafter⟩ :=
    isolated_patchEachClass policy p h hc hl hgeneric honce hk hname hd hlt
  have hslots {e : ClassId} (he : q.image.class? e = p.image.class? e) (i : Nat) :
      q.image.slotAt? e i = p.image.slotAt? e i := by
    rw [ManagedImage.slotAt?, he, ManagedImage.slotAt?]
  rw [ManagedImage.slotAt?, hafter, ← ManagedImage.slotAt?, slotAt?_patchVersion policy m hq
    (hqd.trans hk) (hqc.trans hl) hderives hlayout hlength]
  exact SlotPolicy.brought_congr (hslots hqd) (hslots hqc) i

/-- The slots of an old version become what the new version's slots stand for, also when all of
the module was patched in, unless the descriptor is recorded as a specialization. -/
theorem slotAt?_patchClasses (policy : SlotPolicy) (rules : PatchRules)
    (p : PatchPass ManagedImage) (h : p.Ready p.image) (hc : c ∈ CodeImage.classesIn p.image m)
    (hl : p.image.class? c = some l) (hgeneric : l.info.isGeneric = false)
    (hderives : l.info.derivesFromGeneric = false)
    (honce : ∀ e ∈ CodeImage.classesIn p.image m, ∀ j, p.image.class? e = some j →
      j.info.name = l.info.name → e = c)
    (hk : p.image.class? d = some k) (hname : k.info.name = l.info.name) {earlier : ModuleId}
    (hd : d ∈ CodeImage.classesIn p.image earlier) (hlt : earlier.number < m.number)
    (hlayout : layoutChange? k.info l.info = none) (hlength : k.slots.length = l.slots.length)
    (hspecial : ¬IsSpecialization p.image rules m d) (i : Nat) :
    (patchClasses policy rules m p).image.slotAt? d i =
      policy.brought p.image m p.image d c i := by
  have hgenerics := patchGenerics_confined policy m rules p
  rw [hgenerics.slotAt? hspecial]
  exact slotAt?_patchEachClass policy p h hc hl hgeneric hderives honce hk hname
    (sequenceOf?_of_mem h.linked hd) hlt hlayout hlength i

theorem class?_patchClasses (policy : SlotPolicy) (rules : PatchRules)
    (p : PatchPass ManagedImage) (hlinked : p.image.Linked)
    (hc : c ∈ CodeImage.classesIn p.image m) (hspecial : ¬IsSpecialization p.image rules m c) :
    (patchClasses policy rules m p).image.class? c = p.image.class? c := by
  apply (patchClasses_confined policy m rules p).outside
  rintro (⟨e, he, hold⟩ | hin)
  · exact not_isOlderVersionOf hlinked hc he hold
  · exact hspecial hin

end Module

end PatchPass

end HotReload
