import HotReload.Proofs.Copying
import HotReload.Proofs.Faults
import Mathlib.Data.List.Forall2

/-! # A patch with faults beside one without

A patch is run on an image with faults in its class tables, and on the image alone. The two runs
stay paired: descriptors that no fault hides agree in every place that no write fault refuses. A
step for such a descriptor does the same on both sides, and a step for any other one is free.
-/

namespace HotReload

open ManagedImage (Confined)

namespace ManagedImage

variable {image after : ManagedImage} {D : ClassId → Prop} {c : ClassId}

/-- Images that differ in addresses accept the same writes. -/
theorem Confined.writeSlot_isOk (h : Confined D image after) {index : Nat} {a : Address}
    {written : ManagedImage} (hw : image.writeSlot c index a = .ok written) :
    ∃ written', after.writeSlot c index a = .ok written' := by
  obtain ⟨hl, hk⟩ | ⟨l, k, hl, hk, hblank⟩ := h.class?_cases c
  · simp [writeSlot, hk] at hw
  · have hindex : index < k.slots.length := by
      by_contra hindex
      simp [writeSlot, hk, hindex] at hw
    rw [← LinkedClass.length_of_blank hblank] at hindex
    simp [writeSlot, hl, hindex]

theorem exists_entryIndex? {t : SelectorTable} {selector : String} {a : Address}
    (h : image.replaceSelector c t selector a = .ok after) :
    ∃ j, image.entryIndex? c t selector = some j := by
  unfold replaceSelector at h
  split at h
  · cases h
  · rename_i k hk
    split at h
    · rename_i hany
      rw [← List.findIdx?_isSome, Option.isSome_iff_exists] at hany
      simpa [entryIndex?, hk] using hany
    · cases h

theorem Confined.replaceSelector_isOk (h : Confined D image after) {t : SelectorTable}
    {selector : String} {a : Address} {replaced : ManagedImage}
    (hr : image.replaceSelector c t selector a = .ok replaced) :
    ∃ replaced', after.replaceSelector c t selector a = .ok replaced' := by
  obtain ⟨j, hj⟩ := exists_entryIndex? hr
  rw [← h.entryIndex?] at hj
  exact ManagedImage.replaceSelector_isOk hj a

end ManagedImage

/-- The first class has the name of the second, or is a generic definition of its base. -/
def IsRedefinedBy (image : ManagedImage) (c d : ClassId) : Prop :=
  ∃ new old, CodeImage.info? image c = some new ∧ CodeImage.info? image d = some old ∧
    (new.name = old.name ∨ new.isGeneric = true ∧ new.base = old.base)

/-- Faults hide neither the descriptor nor a class of the module that redefines it. -/
def Faulty.Spares (start : Faulty ManagedImage) (m : ModuleId) (d : ClassId) : Prop :=
  ¬start.Hides d ∧ ∀ c ∈ CodeImage.classesIn start.base m, start.Hides c →
    ¬IsRedefinedBy start.base c d

/-- Two runs that started from one image, with its faults and without. The descriptors of the module
itself are as they were, and spared ones agree wherever writes are not refused. -/
structure Paired (start : Faulty ManagedImage) (m : ModuleId) (f : Address → Option Symbol)
    (image : ManagedImage) (cache : SymbolCache) (other : Faulty ManagedImage)
    (cache' : SymbolCache) : Prop where
  faults : other.faults = start.faults
  clean : Confined (· ∉ CodeImage.classesIn start.base m) start.base image
  faulty : Confined (· ∉ CodeImage.classesIn start.base m) start.base other.base
  answers : cache.AnswersAs start.base f
  answers' : cache'.AnswersAs start.base f
  slots : ∀ d, start.Spares m d → ∀ i, start.failsWriteSlot d i = false →
    other.base.slotAt? d i = image.slotAt? d i
  entries : ∀ d, start.Spares m d → ∀ t j selector a, start.failsReplace d t selector = false →
    (other.base.entryAt? d t j = some (selector, a) ↔ image.entryAt? d t j = some (selector, a))

namespace Paired

variable {start : Faulty ManagedImage} {m : ModuleId} {f : Address → Option Symbol}
  {image : ManagedImage} {cache : SymbolCache} {other : Faulty ManagedImage}
  {cache' : SymbolCache} {d : ClassId}

theorem confined (h : Paired start m f image cache other cache') :
    Confined (· ∉ CodeImage.classesIn start.base m) image other.base :=
  h.clean.symm.trans h.faulty

theorem hides (h : Paired start m f image cache other cache') {c : ClassId} :
    other.Hides c ↔ start.Hides c := by
  simp only [Faulty.Hides, Faulty.failsInfo, Faulty.failsSlots, Faulty.failsSelectors, h.faults]

theorem failsWriteSlot (h : Paired start m f image cache other cache') (c : ClassId)
    (index : Nat) : other.failsWriteSlot c index = start.failsWriteSlot c index := by
  simp only [Faulty.failsWriteSlot, h.faults]

theorem failsReplace (h : Paired start m f image cache other cache') (c : ClassId)
    (t : SelectorTable) (selector : String) :
    other.failsReplace c t selector = start.failsReplace c t selector := by
  simp only [Faulty.failsReplace, h.faults]

theorem resolve (h : Paired start m f image cache other cache') (a : Address)
    (scope : Option ModuleId) :
    (cache.resolve image a scope).1 = f a ∧
      Paired start m f image (cache.resolve image a scope).2 other cache' := by
  rw [h.clean.resolve]
  exact ⟨h.answers a scope, { h with answers := h.answers.resolve a scope }⟩

theorem resolve' (h : Paired start m f image cache other cache') (htables : start.OfTables)
    (a : Address) (scope : Option ModuleId) :
    (cache'.resolve other a scope).1 = f a ∧
      Paired start m f image cache other (cache'.resolve other a scope).2 := by
  have hother : other.OfTables := fun e he => htables e (h.faults ▸ he)
  rw [hother.resolve_eq, h.faulty.resolve]
  exact ⟨h.answers' a scope, { h with answers' := h.answers'.resolve a scope }⟩

section Alone

/-- What the run without faults does to a descriptor that is not spared does not matter. -/
theorem clean_invariant (hd : ¬start.Spares m d) (hown : d ∉ CodeImage.classesIn start.base m)
    (other : Faulty ManagedImage) (cache' : SymbolCache) :
    PatchPass.Invariant d fun image cache => Paired start m f image cache other cache' := by
  have hstep {image after : ManagedImage} {cache : SymbolCache}
      (h : Paired start m f image cache other cache') (hc : Confined (· = d) image after) :
      Paired start m f after cache other cache' :=
    { h with
      clean := h.clean.trans_at hown hc
      slots := by
        intro e he i hi
        rw [h.slots e he i hi, hc.slotAt? fun heq => hd (heq ▸ he)]
      entries := by
        intro e he t j selector a hr
        rw [h.entries e he t j selector a hr, hc.entryAt? fun heq => hd (heq ▸ he)] }
  exact
    { slots :=
        { resolve := fun a scope h => (h.resolve a scope).2
          write := fun h hw => hstep h (ManagedImage.writeSlot_confined hw) }
      selectors := fun _ =>
        { replace := fun h hr => hstep h (ManagedImage.replaceSelector_confined hr) } }

/-- Nor does what the run with faults does to it. -/
theorem faulty_invariant (htables : start.OfTables) (hd : ¬start.Spares m d)
    (hown : d ∉ CodeImage.classesIn start.base m) (image : ManagedImage) (cache : SymbolCache) :
    PatchPass.Invariant d fun other cache' => Paired start m f image cache other cache' := by
  have hstep {other : Faulty ManagedImage} {base : ManagedImage} {cache' : SymbolCache}
      (h : Paired start m f image cache other cache') (hc : Confined (· = d) other.base base) :
      Paired start m f image cache (other.around base) cache' :=
    { h with
      faults := h.faults
      faulty := h.faulty.trans_at hown hc
      slots := by
        intro e he i hi
        rw [← h.slots e he i hi]
        exact hc.slotAt? (fun heq => hd (heq ▸ he)) i
      entries := by
        intro e he t j selector a hr
        rw [← h.entries e he t j selector a hr]
        exact iff_of_eq (congrArg (· = some (selector, a))
          (hc.entryAt? (fun heq => hd (heq ▸ he)) t j)) }
  exact
    { slots :=
        { resolve := fun a scope h => (h.resolve' htables a scope).2
          write := by
            intro other cache' index a after h hw
            obtain ⟨_, base, hbase, rfl⟩ := Faulty.writeSlot_ok.1 hw
            exact hstep h (ManagedImage.writeSlot_confined hbase) }
      selectors := fun _ =>
        { replace := by
            intro other t selector a after h hr
            obtain ⟨_, base, hbase, rfl⟩ := Faulty.replaceSelector_ok.1 hr
            exact hstep h (ManagedImage.replaceSelector_confined hbase) } }

end Alone

section Slots

variable (hown : d ∉ CodeImage.classesIn start.base m)

include hown

theorem write (h : Paired start m f image cache other cache') {index : Nat} {a : Address}
    {written base : ManagedImage} (hw : image.writeSlot d index a = .ok written)
    (hb : other.base.writeSlot d index a = .ok base) :
    Paired start m f written cache (other.around base) cache' where
  faults := h.faults
  clean := h.clean.trans_at hown (ManagedImage.writeSlot_confined hw)
  faulty := h.faulty.trans_at hown (ManagedImage.writeSlot_confined hb)
  answers := h.answers
  answers' := h.answers'
  slots := by
    intro e he i hi
    change base.slotAt? e i = written.slotAt? e i
    by_cases heq : e = d
    · subst heq
      rw [ManagedImage.slotAt?_writeSlot hw, ManagedImage.slotAt?_writeSlot hb, h.slots e he i hi]
    · rw [(ManagedImage.writeSlot_confined hw).slotAt? heq,
        (ManagedImage.writeSlot_confined hb).slotAt? heq, h.slots e he i hi]
  entries := by
    intro e he t j selector b hr
    change base.entryAt? e t j = _ ↔ _
    rw [ManagedImage.entryAt?_writeSlot hw, ManagedImage.entryAt?_writeSlot hb,
      h.entries e he t j selector b hr]

/-- A write that is refused on one side does not matter on the other. -/
theorem write_refused (h : Paired start m f image cache other cache') {index : Nat} {a : Address}
    {written : ManagedImage} (hw : image.writeSlot d index a = .ok written)
    (hrefused : start.failsWriteSlot d index = true) :
    Paired start m f written cache other cache' :=
  { h with
    clean := h.clean.trans_at hown (ManagedImage.writeSlot_confined hw)
    slots := by
      intro e he i hi
      rw [h.slots e he i hi]
      by_cases heq : e = d
      · subst heq
        rw [ManagedImage.slotAt?_writeSlot hw, if_neg]
        rintro rfl
        rw [hrefused] at hi
        cases hi
      · rw [(ManagedImage.writeSlot_confined hw).slotAt? heq]
    entries := by
      intro e he t j selector b hr
      rw [ManagedImage.entryAt?_writeSlot hw, h.entries e he t j selector b hr] }

/-- A write that is not refused succeeds on both sides or on neither. -/
theorem write_accepted (h : Paired start m f image cache other cache') {index : Nat}
    (haccepted : start.failsWriteSlot d index = false) (a : Address) :
    (∃ written after, CodeImage.writeSlot image d index a = .ok written ∧
      CodeImage.writeSlot other d index a = .ok after ∧
        Paired start m f written cache after cache') ∨
      ∃ e e', CodeImage.writeSlot image d index a = .error e ∧
        CodeImage.writeSlot other d index a = .error e' := by
  rw [← h.failsWriteSlot] at haccepted
  cases hw : CodeImage.writeSlot image d index a with
  | ok written =>
    obtain ⟨base, hb⟩ := h.confined.writeSlot_isOk hw
    exact .inl ⟨written, _, rfl, Faulty.writeSlot_ok.2 ⟨haccepted, base, hb, rfl⟩,
      h.write hown hw hb⟩
  | error e =>
    cases hw' : CodeImage.writeSlot other d index a with
    | error e' => exact .inr ⟨e, e', rfl, rfl⟩
    | ok after =>
      obtain ⟨_, base, hb, _⟩ := Faulty.writeSlot_ok.1 hw'
      obtain ⟨_, hok⟩ := h.confined.symm.writeSlot_isOk hb
      cases hw.symm.trans hok

theorem settle {p : SlotPass ManagedImage} {q : SlotPass (Faulty ManagedImage)}
    (h : Paired start m f p.image p.cache q.image q.cache) (index : Nat)
    {current current' : Address} {target target' : Option Address}
    (hsame : start.failsWriteSlot d index = false → current' = current ∧ target' = target) :
    let after := p.settle d index current target
    let after' := q.settle d index current' target'
    Paired start m f after.image after.cache after'.image after'.cache := by
  cases hrefused : start.failsWriteSlot d index with
  | true =>
    obtain ⟨himage, hcache⟩ := Faulty.settle_refused ((h.failsWriteSlot d index).trans hrefused)
      current' target'
    simp only [himage, hcache]
    cases target with
    | none => exact h
    | some a =>
      simp only [SlotPass.settle, SlotPass.apply]
      split
      · exact h
      · split
        · rename_i written hw
          exact h.write_refused hown hw hrefused
        · exact h
  | false =>
    obtain ⟨rfl, rfl⟩ := hsame hrefused
    cases target' with
    | none => exact h
    | some a =>
      simp only [SlotPass.settle, SlotPass.apply]
      split
      · exact h
      · obtain ⟨written, after, hw, hw', hafter⟩ | ⟨e, e', hw, hw'⟩ :=
          h.write_accepted hown hrefused a
        · simp only [hw, hw']
          exact hafter
        · simp only [hw, hw']
          exact h

variable {policy : SlotPolicy} (htables : start.OfTables)

include htables

/-- Two slots of a pair of versions as the runs see them. -/
theorem patchSlot {p : SlotPass ManagedImage} {q : SlotPass (Faulty ManagedImage)}
    (h : Paired start m f p.image p.cache q.image q.cache) (own : ModuleId)
    {slot slot' : (Address × Address) × Nat} (hindex : slot'.2 = slot.2)
    (hwanted : slot'.1.2 = slot.1.2)
    (hcurrent : start.failsWriteSlot d slot.2 = false → slot'.1.1 = slot.1.1) :
    let after := policy.patchSlot d own p slot
    let after' := policy.patchSlot d own q slot'
    Paired start m f after.image after.cache after'.image after'.cache := by
  obtain ⟨⟨current, wanted⟩, index⟩ := slot
  obtain ⟨⟨current', _⟩, _⟩ := slot'
  cases hindex
  cases hwanted
  obtain ⟨hs, h₁⟩ := h.resolve wanted (some own)
  obtain ⟨hs', h₂⟩ := h₁.resolve' htables wanted (some own)
  have htarget : ((policy.patchable? q.cache q.image wanted (some own)).1.map
        fun s => policy.newest s wanted own) =
      (policy.patchable? p.cache p.image wanted (some own)).1.map
        fun s => policy.newest s wanted own := by
    simp only [SlotPolicy.patchable?, hs, hs']
  have hsettled := settle hown
    (p := { p with cache := (p.cache.resolve p.image wanted (some own)).2 })
    (q := { q with cache := (q.cache.resolve q.image wanted (some own)).2 }) h₂ index
    fun hi => ⟨hcurrent hi, htarget⟩
  exact hsettled

theorem patchEach {slots slots' : List ((Address × Address) × Nat)} (own : ModuleId)
    (hslots : List.Forall₂ (fun slot slot' => slot'.2 = slot.2 ∧ slot'.1.2 = slot.1.2 ∧
      (start.failsWriteSlot d slot.2 = false → slot'.1.1 = slot.1.1)) slots slots')
    {p : SlotPass ManagedImage} {q : SlotPass (Faulty ManagedImage)}
    (h : Paired start m f p.image p.cache q.image q.cache) :
    let after := slots.foldl (policy.patchSlot d own) p
    let after' := slots'.foldl (policy.patchSlot d own) q
    Paired start m f after.image after.cache after'.image after'.cache := by
  induction hslots generalizing p q with
  | nil => exact h
  | cons hslot _ ih => exact ih (h.patchSlot hown htables own hslot.1 hslot.2.1 hslot.2.2)

theorem refreshSlot {p : SlotPass ManagedImage} {q : SlotPass (Faulty ManagedImage)}
    (h : Paired start m f p.image p.cache q.image q.cache) (own : ModuleId)
    {slot slot' : Address × Nat} (hindex : slot'.2 = slot.2)
    (hcurrent : start.failsWriteSlot d slot.2 = false → slot'.1 = slot.1) :
    let after := policy.refreshSlot d own p slot
    let after' := policy.refreshSlot d own q slot'
    Paired start m f after.image after.cache after'.image after'.cache := by
  obtain ⟨current, index⟩ := slot
  obtain ⟨current', _⟩ := slot'
  cases hindex
  obtain ⟨hs, h₁⟩ := h.resolve current none
  obtain ⟨hs', h₂⟩ := h₁.resolve' htables current' none
  have hother : q.image.OfTables := fun e he => htables e (h.faults ▸ he)
  have haddress (name : String) : CodeImage.address? q.image own name =
      CodeImage.address? p.image own name := by
    rw [hother.address?_eq]
    simp only [CodeImage.address?, h.confined.module?]
  have htarget : current' = current →
      ((policy.patchable? q.cache q.image current' none).1.bind fun s =>
        (CodeImage.address? q.image own s.name).or (policy.table.address? s.name)) =
      (policy.patchable? p.cache p.image current none).1.bind fun s =>
        (CodeImage.address? p.image own s.name).or (policy.table.address? s.name) := by
    rintro rfl
    simp only [SlotPolicy.patchable?, hs, hs', haddress]
  have hsettled := settle hown (p := { p with cache := (p.cache.resolve p.image current none).2 })
    (q := { q with cache := (q.cache.resolve q.image current' none).2 }) h₂ index
    fun hi => ⟨hcurrent hi, htarget (hcurrent hi)⟩
  exact hsettled

theorem refreshEach {slots slots' : List (Address × Nat)} (own : ModuleId)
    (hslots : List.Forall₂ (fun slot slot' => slot'.2 = slot.2 ∧
      (start.failsWriteSlot d slot.2 = false → slot'.1 = slot.1)) slots slots')
    {p : SlotPass ManagedImage} {q : SlotPass (Faulty ManagedImage)}
    (h : Paired start m f p.image p.cache q.image q.cache) :
    let after := slots.foldl (policy.refreshSlot d own) p
    let after' := slots'.foldl (policy.refreshSlot d own) q
    Paired start m f after.image after.cache after'.image after'.cache := by
  induction hslots generalizing p q with
  | nil => exact h
  | cons hslot _ ih => exact ih (h.refreshSlot hown htables own hslot.1 hslot.2)

end Slots

section Selectors

theorem replace (hown : d ∉ CodeImage.classesIn start.base m)
    (h : Paired start m f image cache other cache') {t : SelectorTable} {selector : String}
    {a : Address} {replaced base : ManagedImage}
    (hr : image.replaceSelector d t selector a = .ok replaced)
    (hb : other.base.replaceSelector d t selector a = .ok base) :
    Paired start m f replaced cache (other.around base) cache' where
  faults := h.faults
  clean := h.clean.trans_at hown (ManagedImage.replaceSelector_confined hr)
  faulty := h.faulty.trans_at hown (ManagedImage.replaceSelector_confined hb)
  answers := h.answers
  answers' := h.answers'
  slots := by
    intro e he i hi
    change base.slotAt? e i = replaced.slotAt? e i
    rw [ManagedImage.slotAt?_replaceSelector hr, ManagedImage.slotAt?_replaceSelector hb,
      h.slots e he i hi]
  entries := by
    intro e he t' j selector' b hf
    change base.entryAt? e t' j = _ ↔ _
    rw [ManagedImage.entryAt?_replaceSelector hr, ManagedImage.entryAt?_replaceSelector hb,
      h.confined.entryIndex?]
    split
    · rfl
    · exact h.entries e he t' j selector' b hf

theorem replace_refused (hown : d ∉ CodeImage.classesIn start.base m)
    (h : Paired start m f image cache other cache') {t : SelectorTable} {selector : String}
    {a : Address} {replaced : ManagedImage}
    (hr : image.replaceSelector d t selector a = .ok replaced)
    (hrefused : start.failsReplace d t selector = true) :
    Paired start m f replaced cache other cache' :=
  { h with
    clean := h.clean.trans_at hown (ManagedImage.replaceSelector_confined hr)
    slots := by
      intro e he i hi
      rw [ManagedImage.slotAt?_replaceSelector hr, h.slots e he i hi]
    entries := by
      intro e he t' j selector' b hf
      rw [ManagedImage.entryAt?_replaceSelector hr, h.entries e he t' j selector' b hf]
      split
      · rename_i hplace
        obtain ⟨rfl, rfl, hj⟩ := hplace
        obtain ⟨current, hcurrent⟩ := ManagedImage.exists_entryAt? hj
        have hne : selector ≠ selector' := by
          rintro rfl
          rw [hrefused] at hf
          cases hf
        simp [hcurrent, hne]
      · rfl }

theorem lookup_eq (h : Paired start m f image cache other cache') (hd : start.Spares m d)
    {k l : LinkedClass} (hk : image.class? d = some k) (hl : other.base.class? d = some l)
    {t : SelectorTable} {selector : String} (hf : start.failsReplace d t selector = false) :
    (l.table t).lookup selector = (k.table t).lookup selector := by
  rw [ManagedImage.lookup_table hk, ManagedImage.lookup_table hl, h.confined.entryIndex?]
  cases hj : image.entryIndex? d t selector with
  | none => rfl
  | some j =>
    obtain ⟨a, ha⟩ := ManagedImage.exists_entryAt? hj
    rw [Option.bind_some, Option.bind_some, ha, (h.entries d hd t j selector a hf).2 ha]

variable (hown : d ∉ CodeImage.classesIn start.base m)

include hown

theorem replace_accepted (h : Paired start m f image cache other cache') {t : SelectorTable}
    {selector : String} (haccepted : start.failsReplace d t selector = false) (a : Address) :
    (∃ replaced after, CodeImage.replaceSelector image d t selector a = .ok replaced ∧
      CodeImage.replaceSelector other d t selector a = .ok after ∧
        Paired start m f replaced cache after cache') ∨
      ∃ e e', CodeImage.replaceSelector image d t selector a = .error e ∧
        CodeImage.replaceSelector other d t selector a = .error e' := by
  rw [← h.failsReplace] at haccepted
  cases hr : CodeImage.replaceSelector image d t selector a with
  | ok replaced =>
    obtain ⟨base, hb⟩ := h.confined.replaceSelector_isOk hr
    exact .inl ⟨replaced, _, rfl, Faulty.replaceSelector_ok.2 ⟨haccepted, base, hb, rfl⟩,
      h.replace hown hr hb⟩
  | error e =>
    cases hr' : CodeImage.replaceSelector other d t selector a with
    | error e' => exact .inr ⟨e, e', rfl, rfl⟩
    | ok after =>
      obtain ⟨_, base, hb, _⟩ := Faulty.replaceSelector_ok.1 hr'
      obtain ⟨_, hok⟩ := h.confined.symm.replaceSelector_isOk hb
      cases hr.symm.trans hok

theorem copyEntry {acc : SwizzleOutcome × ManagedImage}
    {acc' : SwizzleOutcome × Faulty ManagedImage}
    (h : Paired start m f acc.2 cache acc'.2 cache') (t : SelectorTable)
    {before before' : Selectors} (e : String × Address)
    (hlookup : start.failsReplace d t e.1 = false → before'.lookup e.1 = before.lookup e.1) :
    Paired start m f (Swizzle.copyEntry d t before acc e).2 cache
      (Swizzle.copyEntry d t before' acc' e).2 cache' := by
  obtain ⟨outcome, image⟩ := acc
  obtain ⟨outcome', other⟩ := acc'
  cases hrefused : start.failsReplace d t e.1 with
  | true =>
    rw [Faulty.copyEntry_refused ((h.failsReplace d t e.1).trans hrefused)]
    simp only [Swizzle.copyEntry]
    split
    · exact h
    · split
      · exact h
      · split
        · rename_i replaced hr
          exact h.replace_refused hown hr hrefused
        · exact h
  | false =>
    simp only [Swizzle.copyEntry, hlookup hrefused]
    split
    · exact h
    · split
      · exact h
      · obtain ⟨replaced, after, hr, hr', hafter⟩ | ⟨e', e'', hr, hr'⟩ :=
          h.replace_accepted hown hrefused e.2
        · simp only [hr, hr']
          exact hafter
        · simp only [hr, hr']
          exact h

theorem copyEach {acc : SwizzleOutcome × ManagedImage}
    {acc' : SwizzleOutcome × Faulty ManagedImage}
    (h : Paired start m f acc.2 cache acc'.2 cache') (t : SelectorTable)
    {before before' : Selectors} (hlookup : ∀ selector, start.failsReplace d t selector = false →
      before'.lookup selector = before.lookup selector) (offers : Selectors) :
    Paired start m f (offers.foldl (Swizzle.copyEntry d t before) acc).2 cache
      (offers.foldl (Swizzle.copyEntry d t before') acc').2 cache' := by
  induction offers generalizing acc acc' with
  | nil => exact h
  | cons e offers ih => exact ih (h.copyEntry hown t e (hlookup e.1))

variable (hd : start.Spares m d) {new : ClassId} (hnew : new ∈ CodeImage.classesIn start.base m)
  (hread : ¬start.Hides new)

include hd hnew hread

theorem copyTable {acc : SwizzleOutcome × ManagedImage}
    {acc' : SwizzleOutcome × Faulty ManagedImage}
    (h : Paired start m f acc.2 cache acc'.2 cache') (accepts : String → Bool)
    (t : SelectorTable) :
    Paired start m f (Swizzle.copyTable d new accepts acc t).2 cache
      (Swizzle.copyTable d new accepts acc' t).2 cache' := by
  have hselectors {c : ClassId} (hc : ¬start.Hides c) :
      CodeImage.selectors acc'.2 c t = CodeImage.selectors acc'.2.base c t :=
    Faulty.selectors_eq (fun hh => hc (h.hides.1 hh)) t
  have hsame : CodeImage.selectors acc'.2 new t = CodeImage.selectors acc.2 new t := by
    rw [hselectors hread]
    simp only [CodeImage.selectors, ManagedImage.classOrFail,
      h.confined.outside new (not_not_intro hnew)]
  simp only [Swizzle.copyTable, hsame, hselectors hd.1]
  obtain ⟨hl, hk⟩ | ⟨l, k, hl, hk, _⟩ := h.confined.class?_cases d
  · simp only [CodeImage.selectors, ManagedImage.classOrFail, hk, hl, Except.map]
    exact h
  · rw [ManagedImage.selectors_of_class? hk, ManagedImage.selectors_of_class? hl]
    cases CodeImage.selectors acc.2 new t with
    | error e => exact h
    | ok after => exact h.copyEach hown t (fun selector hf => h.lookup_eq hd hk hl hf) _

theorem swizzle (h : Paired start m f image cache other cache') (accepts : String → Bool) :
    Paired start m f (Swizzle.swizzle image d new accepts).2 cache
      (Swizzle.swizzle other d new accepts).2 cache' := by
  have hfirst : Paired start m f
      (Swizzle.copyTable d new accepts ({}, image) .onInstances).2 cache
      (Swizzle.copyTable d new accepts ({}, other) .onInstances).2 cache' :=
    copyTable hown hd hnew hread h accepts .onInstances
  exact hfirst.copyTable hown hd hnew hread accepts .onClass

end Selectors

end Paired

end HotReload
