import HotReload.Proofs.Pairing

/-! # Patching a module with faults and without

The two runs stay paired through every descriptor, class and generic definition of a module. What
a fault hides leads the run with faults past older versions and specializations, and past no spared
one.
-/

namespace HotReload

open ManagedImage (Confined)

section Lists

/-- Two folds stay related if one of them passes over elements that do not matter. -/
theorem foldl_filter_related {α β γ : Type} {R : β → γ → Prop} (step : β → α → β)
    (step' : γ → α → γ) (keep : α → Bool) {xs : List α}
    (hkept : ∀ x ∈ xs, keep x = true → ∀ b c, R b c → R (step b x) (step' c x))
    (hskipped : ∀ x ∈ xs, keep x = false → ∀ b c, R b c → R (step b x) c) {b : β} {c : γ}
    (h : R b c) : R (xs.foldl step b) ((xs.filter keep).foldl step' c) := by
  induction xs generalizing b c with
  | nil => exact h
  | cons x xs ih =>
    obtain ⟨hx, hkept⟩ := List.forall_mem_cons.1 hkept
    obtain ⟨hx', hskipped⟩ := List.forall_mem_cons.1 hskipped
    cases hk : keep x with
    | true =>
      rw [List.filter_cons_of_pos hk]
      exact ih hkept hskipped (hx hk b c h)
    | false =>
      rw [List.filter_cons_of_neg (by simp [hk])]
      exact ih hkept hskipped (hx' hk b c h)

/-- Lists of one length, numbered and without their first elements, are related if their elements
are at each position. -/
theorem forall₂_drop_zipIdx {α β : Type} {R : Nat → α → β → Prop} {xs : List α} {ys : List β}
    (hlength : xs.length = ys.length)
    (h : ∀ i x y, xs[i]? = some x → ys[i]? = some y → R i x y) :
    List.Forall₂ (fun x y => y.2 = x.2 ∧ R x.2 x.1 y.1) (xs.zipIdx.drop 1) (ys.zipIdx.drop 1) := by
  refine List.forall₂_drop 1 (List.forall₂_iff_get.2 ⟨by simpa using hlength, fun i hi hi' => ?_⟩)
  have hx : i < xs.length := by simpa using hi
  have hy : i < ys.length := by simpa using hi'
  simpa using h i _ _ (List.getElem?_eq_getElem hx) (List.getElem?_eq_getElem hy)

end Lists

namespace PatchPass

variable {ι : Type} [CodeImage ι] (policy : SlotPolicy) (m : ModuleId)

theorem patchVersions_nil (info : ClassInfo) {v : Versions} (hv : v.old = []) (p : PatchPass ι) :
    patchVersions policy m info v p = p := by
  simp [patchVersions, hv]

theorem patchClass_eq {acc : List ClassId × PatchPass ι} {c : ClassId} {info : ClassInfo}
    {v : Versions} (hinfo : CodeImage.info? acc.2.image c = some info)
    (hgeneric : info.isGeneric = false) (hv : Versions.collect? acc.2.image c = some v) :
    patchClass policy m acc c =
      (acc.1, patchVersions policy m info v (acc.2.list c info.name)) := by
  have hv' : Versions.collect? (acc.2.list c info.name).image c = some v := hv
  simp only [patchClass, hinfo, hgeneric, hv', Bool.false_eq_true, if_false]
  split
  · rfl
  · rename_i hold
    rw [patchVersions_nil policy m info (by simpa [Versions.isRedefinition] using hold)]

/-- The descriptors that are patched in place for a definition. -/
def visited (rules : PatchRules) (image : ι) (g : ClassId) : List ClassId :=
  if rules.tracksGenerics then
    ((CodeImage.info? image g).map fun k => rules.recorded.under k.base).getD []
  else []

theorem patchGeneric_eq (rules : PatchRules) (p : PatchPass ι) (g : ClassId) :
    let after := patchGeneric policy rules m p g
    let pass := (visited rules p.image g).foldl
      (GenericPass.patchOne policy g m rules.lifecycleHook) ⟨p.image, p.cache, {}⟩
    after.image = pass.image ∧ after.cache = pass.cache := by
  cases ht : rules.tracksGenerics with
  | false => simp [patchGeneric, GenericPass.patch, visited, ht]
  | true =>
    cases hg : CodeImage.info? p.image g <;>
      simp [patchGeneric, GenericPass.patch, visited, ht, hg]

end PatchPass

/-- A class redefines its older versions. -/
theorem Versions.isRedefinedBy_of_mem {image : ManagedImage} {c d : ClassId} {v : Versions}
    (hv : collect? image c = some v) (hd : d ∈ v.old) :
    (∃ k, image.class? d = some k) ∧ IsRedefinedBy image c d := by
  obtain ⟨info, _, hinfo, _, hnamed, _⟩ := (mem_old hv).1 hd
  obtain ⟨k, hk, hname⟩ := ManagedImage.mem_classIdsWhere.1 hnamed
  exact ⟨⟨k, hk⟩, info, k.info, hinfo, ManagedImage.info?_of_class? hk, .inl (eq_of_beq hname).symm⟩

namespace Paired

variable {start : Faulty ManagedImage} {m : ModuleId} {f : Address → Option Symbol}
  {image : ManagedImage} {cache : SymbolCache} {other : Faulty ManagedImage}
  {cache' : SymbolCache} {d new : ClassId} {k l : LinkedClass} {policy : SlotPolicy}

section Reads

theorem info?_other (h : Paired start m f image cache other cache') (c : ClassId) :
    CodeImage.info? other c =
      if start.failsInfo c then none else CodeImage.info? start.base c := by
  rw [← h.faulty.info?]
  simp only [CodeImage.info?, Faulty.failsInfo, h.faults]
  rfl

theorem info?_of_spares (h : Paired start m f image cache other cache') (hd : ¬start.Hides d)
    (hk : start.base.class? d = some k) : CodeImage.info? image d = some k.info ∧
      CodeImage.info? other d = some k.info := by
  have hinfo : CodeImage.info? start.base d = some k.info := ManagedImage.info?_of_class? hk
  refine ⟨(h.clean.info? d).trans hinfo, ?_⟩
  rw [Faulty.info?_eq fun hh => hd (h.hides.1 hh)]
  exact (h.faulty.info? d).trans hinfo

/-- The slots of a spared descriptor can be read, and differ at most where writes are refused. -/
theorem exists_slots (h : Paired start m f image cache other cache') (hd : start.Spares m d)
    (hk : start.base.class? d = some k) : ∃ xs ys, CodeImage.slots image d = .ok xs ∧
      CodeImage.slots other d = .ok ys ∧ xs.length = ys.length ∧
      ∀ i x y, xs[i]? = some x → ys[i]? = some y → start.failsWriteSlot d i = false → y = x := by
  obtain ⟨x, hx, _⟩ := h.clean.exists_blank hk
  obtain ⟨y, hy, hblank⟩ := h.confined.exists_blank hx
  refine ⟨x.slots.map (·.address), y.slots.map (·.address), ?_, ?_, ?_, ?_⟩
  · exact ManagedImage.slots_of_class? hx
  · rw [Faulty.slots_eq fun hh => hd.1 (h.hides.1 hh)]
    exact ManagedImage.slots_of_class? hy
  · simpa using (LinkedClass.length_of_blank hblank).symm
  · intro i a b ha hb hi
    have hslots := h.slots d hd i hi
    rw [ManagedImage.slotAt?_eq hx, ManagedImage.slotAt?_eq hy, ha, hb] at hslots
    exact Option.some.inj hslots

theorem slots_of_own (h : Paired start m f image cache other cache')
    (hnew : new ∈ CodeImage.classesIn start.base m) (hread : ¬start.Hides new)
    (hl : start.base.class? new = some l) :
    CodeImage.slots image new = .ok (l.slots.map (·.address)) ∧
      CodeImage.slots other new = .ok (l.slots.map (·.address)) := by
  have hsame (after : ManagedImage) (hc : Confined (· ∉ CodeImage.classesIn start.base m)
      start.base after) : after.class? new = some l :=
    (hc.outside new (not_not_intro hnew)).trans hl
  rw [Faulty.slots_eq fun hh => hread (h.hides.1 hh)]
  exact ⟨ManagedImage.slots_of_class? (hsame _ h.clean),
    ManagedImage.slots_of_class? (hsame _ h.faulty)⟩

end Reads

section Descriptors

variable (htables : start.OfTables) (hown : d ∉ CodeImage.classesIn start.base m)
  (hnew : new ∈ CodeImage.classesIn start.base m) (hk : start.base.class? d = some k)
  (hl : start.base.class? new = some l)

include htables hown hnew hk hl

theorem patch (h : Paired start m f image cache other cache') (hd : start.Spares m d)
    (hread : ¬start.Hides new) (policy : SlotPolicy) :
    ∃ pass pass', policy.patch cache image d new m = .ok pass ∧
      policy.patch cache' other d new m = .ok pass' ∧
      pass'.outcome.layoutMismatch = pass.outcome.layoutMismatch ∧
      Paired start m f pass.image pass.cache pass'.image pass'.cache := by
  obtain ⟨xs, ys, hxs, hys, hlength, hsame⟩ := h.exists_slots hd hk
  obtain ⟨hinfo, hinfo'⟩ := h.info?_of_spares hd.1 hk
  obtain ⟨hnewInfo, hnewInfo'⟩ := h.info?_of_spares hread hl
  obtain ⟨hzs, hzs'⟩ := h.slots_of_own hnew hread hl
  refine ⟨_, _, SlotPolicy.patch_of_reads policy cache m hinfo hnewInfo hxs hzs,
    SlotPolicy.patch_of_reads policy cache' m hinfo' hnewInfo' hys hzs', ?_⟩
  rw [hlength]
  split
  · refine ⟨by rw [SlotPolicy.layoutMismatch_patchEach, SlotPolicy.layoutMismatch_patchEach], ?_⟩
    refine h.patchEach hown htables m (forall₂_drop_zipIdx
      (R := fun i (x y : Address × Address) =>
        y.2 = x.2 ∧ (start.failsWriteSlot d i = false → y.1 = x.1)) ?_ ?_)
    · simp [hlength]
    · intro i x y hx hy
      rw [List.getElem?_zip_eq_some] at hx hy
      exact ⟨Option.some.inj (hy.2.symm.trans hx.2), hsame i _ _ hx.1 hy.1⟩
  · exact ⟨rfl, h⟩

/-- An older version that is brought to a class of the module. Only for a spared one does it matter
whether the class can be read. -/
theorem patchVersion {p : PatchPass ManagedImage} {p' : PatchPass (Faulty ManagedImage)}
    (h : Paired start m f p.image p.cache p'.image p'.cache)
    (hread : start.Spares m d → ¬start.Hides new) (info : ClassInfo) :
    let after := (PatchPass.patchVersion policy m info new d p).2
    let after' := (PatchPass.patchVersion policy m info new d p').2
    Paired start m f after.image after.cache after'.image after'.cache := by
  by_cases hd : start.Spares m d
  · simp only [PatchPass.patchVersion]
    split
    · obtain ⟨hinfo, hinfo'⟩ := h.info?_of_spares hd.1 hk
      simp only [hinfo, hinfo']
      split
      · simpa only [PatchPass.mismatch_image, PatchPass.mismatch_cache] using h
      · exact h.swizzle hown hd hnew (hread hd) _
    · obtain ⟨pass, pass', hpass, hpass', hsame, hslots⟩ :=
        h.patch htables hown hnew hk hl hd (hread hd) policy
      simp only [hpass, hpass', hsame]
      split
      · simpa only [PatchPass.mismatch_image, PatchPass.mismatch_cache] using hslots
      · exact hslots.swizzle hown hd hnew (hread hd) _
  · exact (clean_invariant hd hown _ _).patchVersion
      ((faulty_invariant htables hd hown _ _).patchVersion h info new) info new

omit hnew hl in
theorem patchInPlace (h : Paired start m f image cache other cache') (hd : start.Spares m d)
    (policy : SlotPolicy) :
    ∃ pass pass', policy.patchInPlace cache image d m = .ok pass ∧
      policy.patchInPlace cache' other d m = .ok pass' ∧
      Paired start m f pass.image pass.cache pass'.image pass'.cache := by
  obtain ⟨xs, ys, hxs, hys, hlength, hsame⟩ := h.exists_slots hd hk
  obtain ⟨hinfo, hinfo'⟩ := h.info?_of_spares hd.1 hk
  refine ⟨_, _, SlotPolicy.patchInPlace_of_reads policy cache m hinfo hxs,
    SlotPolicy.patchInPlace_of_reads policy cache' m hinfo' hys, ?_⟩
  exact h.refreshEach hown htables m (forall₂_drop_zipIdx
    (R := fun i x y => start.failsWriteSlot d i = false → y = x) hlength hsame)

omit hl in
/-- A specialization that is patched for a definition of the module. -/
theorem patchOne {p : GenericPass ManagedImage} {p' : GenericPass (Faulty ManagedImage)}
    (h : Paired start m f p.image p.cache p'.image p'.cache)
    (hread : start.Spares m d → ¬start.Hides new) (hook : String) :
    let after := GenericPass.patchOne policy new m hook p d
    let after' := GenericPass.patchOne policy new m hook p' d
    Paired start m f after.image after.cache after'.image after'.cache := by
  by_cases hd : start.Spares m d
  · obtain ⟨pass, pass', hpass, hpass', hslots⟩ := h.patchInPlace htables hown hk hd policy
    simp only [GenericPass.patchOne, hpass, hpass']
    exact hslots.swizzle hown hd hnew (hread hd) _
  · exact (clean_invariant hd hown _ _).patchOne
      ((faulty_invariant htables hd hown _ _).patchOne h new hook) new hook

end Descriptors

section Module

/-- What the run with faults takes for the older versions are those whose info can be read. -/
theorem collect?_other (htables : start.OfTables) (h : Paired start m f image cache other cache')
    {c : ClassId} (hc : start.failsInfo c = false) :
    Versions.collect? other c = (Versions.collect? start.base c).map fun v =>
      { v with old := v.old.filter fun d => !start.failsInfo d } := by
  have hother : other.OfTables := fun e he => htables e (h.faults ▸ he)
  have hsequence (c : ClassId) : Versions.sequenceOf? other c =
      if start.failsInfo c then none else Versions.sequenceOf? start.base c := by
    simp only [Versions.sequenceOf?, h.info?_other, hother.sequence?_eq, h.faulty.sequence?]
    split <;> rfl
  have hnamed (name : String) : CodeImage.classesNamed other name =
      CodeImage.classesNamed start.base name := h.faulty.classIdsWhere_info (·.name == name)
  simp only [Versions.collect?, h.info?_other, hc, Bool.false_eq_true, if_false,
    hother.sequence?_eq, h.faulty.sequence?, hnamed, hsequence]
  cases CodeImage.info? start.base c with
  | none => rfl
  | some info =>
    cases hn : CodeImage.sequence? start.base info.module with
    | none => simp [hn]
    | some n =>
      simp only [Option.bind_eq_bind, Option.bind_some, hn]
      refine congrArg (fun old => some (⟨info.name, c, old⟩ : Versions)) ?_
      rw [List.filter_filter]
      refine List.filter_congr fun d _ => ?_
      cases start.failsInfo d <;> simp

variable (policy) (htables : start.OfTables) (hlinked : start.base.Linked) {c : ClassId}
  (hc : c ∈ CodeImage.classesIn start.base m)

include htables hlinked hc

/-- The older versions of a class of the module. The run with faults passes over some that are not
spared. -/
theorem patchVersions {v : Versions} (hv : Versions.collect? start.base c = some v)
    (keep : ClassId → Bool) (hkeep : ∀ d ∈ v.old, keep d = false → ¬start.Spares m d)
    {p : PatchPass ManagedImage} {p' : PatchPass (Faulty ManagedImage)}
    (h : Paired start m f p.image p.cache p'.image p'.cache) (info : ClassInfo) :
    let after := PatchPass.patchVersions policy m info v p
    let after' := PatchPass.patchVersions policy m info { v with old := v.old.filter keep } p'
    Paired start m f after.image after.cache after'.image after'.cache := by
  obtain ⟨l, hl, _⟩ := hlinked.exists_class? hc
  have hold {d : ClassId} (hd : d ∈ v.old) : d ∉ CodeImage.classesIn start.base m ∧
      (∃ k, start.base.class? d = some k) ∧ IsRedefinedBy start.base c d :=
    ⟨fun hin => Versions.not_mem_old hlinked hin hc hv hd, Versions.isRedefinedBy_of_mem hv hd⟩
  have hkept (d : ClassId) (hd : d ∈ v.old) (p : PatchPass ManagedImage)
      (p' : PatchPass (Faulty ManagedImage))
      (hp : Paired start m f p.image p.cache p'.image p'.cache) :
      let after := (PatchPass.patchVersion policy m info v.new d p).2
      let after' := (PatchPass.patchVersion policy m info v.new d p').2
      Paired start m f after.image after.cache after'.image after'.cache := by
    obtain ⟨hown, ⟨k, hk⟩, hredefined⟩ := hold hd
    rw [PatchPass.collect?_new hv]
    exact hp.patchVersion htables hown hc hk hl
      (fun hspared hh => hspared.2 c hc hh hredefined) info
  have hskipped (d : ClassId) (hd : d ∈ v.old) (hkd : keep d = false) (p : PatchPass ManagedImage)
      (p' : PatchPass (Faulty ManagedImage))
      (hp : Paired start m f p.image p.cache p'.image p'.cache) :
      let after := (PatchPass.patchVersion policy m info v.new d p).2
      Paired start m f after.image after.cache p'.image p'.cache :=
    (clean_invariant (hkeep d hd hkd) (hold hd).1 _ _).patchVersion hp info v.new
  have hfold := foldl_filter_related
    (R := fun (acc : Bool × PatchPass ManagedImage)
      (acc' : Bool × PatchPass (Faulty ManagedImage)) =>
        Paired start m f acc.2.image acc.2.cache acc'.2.image acc'.2.cache)
    (fun (any, p) old =>
      let (one, p) := PatchPass.patchVersion policy m info v.new old p
      (any || one, p))
    (fun (any, p) old =>
      let (one, p) := PatchPass.patchVersion policy m info v.new old p
      (any || one, p))
    keep (fun d hd _ acc acc' => hkept d hd acc.2 acc'.2)
    (fun d hd hkd acc acc' => hskipped d hd hkd acc.2 acc'.2) (b := (false, p)) (c := (false, p')) h
  simp only [PatchPass.patchVersions]
  split <;> split <;> exact hfold

/-- A class of the module. The run with faults collects the generic definitions that it can read. -/
theorem patchClass {acc : List ClassId × PatchPass ManagedImage}
    {acc' : List ClassId × PatchPass (Faulty ManagedImage)}
    (h : Paired start m f acc.2.image acc.2.cache acc'.2.image acc'.2.cache)
    (hgenerics : acc'.1 = acc.1.filter fun g => !start.failsInfo g) :
    let after := PatchPass.patchClass policy m acc c
    let after' := PatchPass.patchClass policy m acc' c
    Paired start m f after.2.image after.2.cache after'.2.image after'.2.cache ∧
      after'.1 = after.1.filter fun g => !start.failsInfo g := by
  obtain ⟨l, hl, _⟩ := hlinked.exists_class? hc
  obtain ⟨v, hv⟩ := Versions.exists_versions hlinked hc
  have hbase : CodeImage.info? start.base c = some l.info := ManagedImage.info?_of_class? hl
  have hinfo : CodeImage.info? acc.2.image c = some l.info := (h.clean.info? c).trans hbase
  have hinfo' := h.info?_other c
  rw [hbase] at hinfo'
  have hlisted : Paired start m f (acc.2.list c l.info.name).image (acc.2.list c l.info.name).cache
      (acc'.2.list c l.info.name).image (acc'.2.list c l.info.name).cache := h
  cases hgeneric : l.info.isGeneric with
  | true =>
    cases hfails : start.failsInfo c <;>
      simp only [PatchPass.patchClass, hinfo, hinfo', hfails, hgeneric, if_true, Bool.false_eq_true,
        if_false] <;> exact ⟨h, by simp [hgenerics, hfails]⟩
  | false =>
    rw [PatchPass.patchClass_eq policy m hinfo hgeneric ((h.clean.collect? c).trans hv)]
    cases hfails : start.failsInfo c with
    | true =>
      have hskipped : ∀ d ∈ v.old, ¬start.Spares m d := fun d hd hspared =>
        hspared.2 c hc (.inl hfails) (Versions.isRedefinedBy_of_mem hv hd).2
      have hpass := patchVersions policy htables hlinked hc hv (fun _ => false)
        (fun d hd _ => hskipped d hd) hlisted l.info
      rw [List.filter_false,
        PatchPass.patchVersions_nil policy m l.info (v := { v with old := [] }) rfl] at hpass
      simp only [PatchPass.patchClass, hinfo', hfails, if_true]
      exact ⟨hpass, hgenerics⟩
    | false =>
      rw [hfails] at hinfo'
      have hv' := h.collect?_other htables hfails
      rw [hv] at hv'
      rw [PatchPass.patchClass_eq policy m hinfo' hgeneric hv']
      have hskipped : ∀ d ∈ v.old, (!start.failsInfo d) = false → ¬start.Spares m d :=
        fun d _ hinfo hspared => hspared.1 (.inl (by simpa using hinfo))
      exact ⟨hlisted.patchVersions policy htables hlinked hc hv _ hskipped l.info, hgenerics⟩

omit hc in
theorem patchEachClass {cs : List ClassId} (hcs : ∀ c ∈ cs, c ∈ CodeImage.classesIn start.base m)
    (acc : List ClassId × PatchPass ManagedImage)
    (acc' : List ClassId × PatchPass (Faulty ManagedImage))
    (h : Paired start m f acc.2.image acc.2.cache acc'.2.image acc'.2.cache)
    (hgenerics : acc'.1 = acc.1.filter fun g => !start.failsInfo g) :
    let after := cs.foldl (PatchPass.patchClass policy m) acc
    let after' := cs.foldl (PatchPass.patchClass policy m) acc'
    Paired start m f after.2.image after.2.cache after'.2.image after'.2.cache ∧
      after'.1 = after.1.filter fun g => !start.failsInfo g := by
  induction cs generalizing acc acc' with
  | nil => exact ⟨h, hgenerics⟩
  | cons c cs ih =>
    obtain ⟨hc, hcs⟩ := List.forall_mem_cons.1 hcs
    obtain ⟨hpass, hcollected⟩ := h.patchClass policy htables hlinked hc hgenerics
    exact ih hcs _ _ hpass hcollected

variable {rules : PatchRules} (hrecorded : ∀ base, ∀ d ∈ rules.recorded.under base,
  d ∉ CodeImage.classesIn start.base m ∧ ∃ k, start.base.class? d = some k ∧ k.info.base = base)

include hrecorded

omit hlinked in
/-- The specializations of a generic definition of the module. -/
theorem patchGeneric (hl : start.base.class? c = some l) (hgeneric : l.info.isGeneric = true)
    {p : PatchPass ManagedImage} {p' : PatchPass (Faulty ManagedImage)}
    (h : Paired start m f p.image p.cache p'.image p'.cache) :
    let after := PatchPass.patchGeneric policy rules m p c
    let after' := PatchPass.patchGeneric policy rules m p' c
    Paired start m f after.image after.cache after'.image after'.cache := by
  have hbase : CodeImage.info? start.base c = some l.info := ManagedImage.info?_of_class? hl
  obtain ⟨himage, hcache⟩ := PatchPass.patchGeneric_eq policy m rules p c
  obtain ⟨himage', hcache'⟩ := PatchPass.patchGeneric_eq policy m rules p' c
  have hvisited : PatchPass.visited rules p'.image c =
      (PatchPass.visited rules p.image c).filter fun _ => !start.failsInfo c := by
    simp only [PatchPass.visited, h.info?_other, h.clean.info?]
    cases start.failsInfo c <;> simp
  have hspecial {d : ClassId} (hd : d ∈ PatchPass.visited rules p.image c) :
      d ∉ CodeImage.classesIn start.base m ∧ ∃ k, start.base.class? d = some k ∧
        IsRedefinedBy start.base c d := by
    rw [PatchPass.visited, h.clean.info?, hbase] at hd
    split at hd
    · obtain ⟨hown, k, hk, hname⟩ := hrecorded l.info.base d hd
      exact ⟨hown, k, hk, l.info, k.info, hbase, ManagedImage.info?_of_class? hk,
        .inr ⟨hgeneric, hname.symm⟩⟩
    · exact absurd hd List.not_mem_nil
  simp only [himage, hcache, himage', hcache', hvisited]
  refine foldl_filter_related (R := fun (p : GenericPass ManagedImage)
    (p' : GenericPass (Faulty ManagedImage)) => Paired start m f p.image p.cache p'.image p'.cache)
    _ _ _ (fun d hd _ p p' hp => ?_) (fun d hd hfails p p' hp => ?_) h
  · obtain ⟨hown, k, hk, hredefined⟩ := hspecial hd
    exact hp.patchOne htables hown hc hk (fun hspared hh => hspared.2 c hc hh hredefined) _
  · obtain ⟨hown, k, hk, hredefined⟩ := hspecial hd
    have hskipped : ¬start.Spares m d := fun hspared =>
      hspared.2 c hc (.inl (by simpa using hfails)) hredefined
    exact (clean_invariant hskipped hown _ _).patchOne hp c _

omit hc in
theorem patchClasses (p : PatchPass ManagedImage) (p' : PatchPass (Faulty ManagedImage))
    (h : Paired start m f p.image p.cache p'.image p'.cache) :
    let after := PatchPass.patchClasses policy rules m p
    let after' := PatchPass.patchClasses policy rules m p'
    Paired start m f after.image after.cache after'.image after'.cache := by
  have hclasses : CodeImage.classesIn p.image m = CodeImage.classesIn start.base m :=
    h.clean.classesIn m
  have hclasses' : CodeImage.classesIn p'.image m = CodeImage.classesIn start.base m :=
    h.faulty.classesIn m
  have heach := patchEachClass policy htables hlinked (fun c hc => hc) ([], p) ([], p')
    h rfl
  have hmem {g : ClassId} (hg : g ∈ ((CodeImage.classesIn start.base m).foldl
      (PatchPass.patchClass policy m) ([], p)).1) : g ∈ CodeImage.classesIn start.base m ∧
        ∃ l, start.base.class? g = some l ∧ l.info.isGeneric = true := by
    rw [PatchPass.patchEachClass_generics, List.nil_append, List.mem_filter, h.clean.info?] at hg
    obtain ⟨info, hinfo, hgeneric⟩ := (Option.any_eq_true _ _).1 hg.2
    obtain ⟨l, hl, rfl⟩ := Option.map_eq_some_iff.1 hinfo
    exact ⟨hg.1, l, hl, hgeneric⟩
  simp only [PatchPass.patchClasses, hclasses, hclasses']
  rw [heach.2]
  refine foldl_filter_related (R := fun (p : PatchPass ManagedImage)
    (p' : PatchPass (Faulty ManagedImage)) => Paired start m f p.image p.cache p'.image p'.cache)
    _ _ _ (fun g hg _ p p' hp => ?_) (fun g hg hfails p p' hp => ?_) heach.1
  · obtain ⟨hown, l, hl, hgeneric⟩ := hmem hg
    exact hp.patchGeneric policy htables hown hrecorded hl hgeneric
  · -- A definition whose info cannot be read has nothing patched.
    obtain ⟨hown, l, hl, hgeneric⟩ := hmem hg
    have hpatched := hp.patchGeneric policy htables hown hrecorded hl hgeneric
    obtain ⟨himage, hcache⟩ := PatchPass.patchGeneric_eq policy m rules p' g
    have hnone : PatchPass.visited rules p'.image g = [] := by
      have hfails : start.failsInfo g = true := by simpa using hfails
      simp [PatchPass.visited, hp.info?_other, hfails]
    simpa only [himage, hcache, hnone, List.foldl_nil] using hpatched

end Module

end Paired

end HotReload
