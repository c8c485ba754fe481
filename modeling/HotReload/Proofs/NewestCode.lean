import HotReload.Proofs.Hosting
import HotReload.Proofs.Binding

/-! # Instances run the newest code

A slot of a new class leads either into its own module, which is taken in after the patch, or to
the first module that exports the name, for which the table knows the newest implementation. Both
ways the old versions of the class get the address that the table holds in the end.
-/

namespace HotReload

namespace ManagedImage

variable {image : ManagedImage} {m : ModuleSpec Body} {preserve : Bool} {a : Address} {s : Symbol}

/-- What a patch puts in the place of a patchable symbol that a slot of a new class holds is the
newest implementation, the new module included. -/
theorem newest_eq_newest? (hlinked : image.Linked) {t : Interposition}
    (ht : t.IsNewest preserve image) {c : ClassId} (hc : c ∈ (image.linked m).classes) {i : Nat}
    (hslot : (image.link m).2.slotAt? c i = some a) (hs : (image.link m).2.symbol? a = some s)
    (hp : s.kind.patchable preserve = true) :
    ∃ r, (image.link m).2.newest? preserve s.name = some r ∧
      SlotPolicy.newest ⟨t, preserve⟩ s a image.nextModule = r.address := by
  obtain ⟨name, ha⟩ := slotAt?_link hc hslot
  exact (bound_bindName hlinked ha hs).exists_newest? hlinked ht hs hp

end ManagedImage

open Managed (Command Process)

/-- A class of a module that takes the place of an older descriptor: the module declares its name
once, a module loaded before declared the older one, and the layout is the same. -/
structure Replaces (before after : ManagedImage) (m : ModuleId) (c d : ClassId)
    (new old : LinkedClass) : Prop where
  declared : c ∈ CodeImage.classesIn after m
  isNew : after.class? c = some new
  plain : new.info.isGeneric = false ∧ new.info.derivesFromGeneric = false
  once : ∀ e ∈ CodeImage.classesIn after m, ∀ k, after.class? e = some k →
    k.info.name = new.info.name → e = c
  earlier : ∃ id, d ∈ CodeImage.classesIn before id
  isOld : before.class? d = some old
  name : old.info.name = new.info.name
  layout : old.info.size = new.info.size ∧ old.info.addressPoint = new.info.addressPoint
  slots : old.slots.length = new.slots.length

/-- The same replacement, seen from an image that agrees on what the module declares. -/
theorem Replaces.congr {before after image : ManagedImage} {m : ModuleId} {c d : ClassId}
    {new old : LinkedClass} (hc : Replaces before after m c d new old)
    (hclasses : CodeImage.classesIn after m = CodeImage.classesIn image m)
    (hsame : ∀ e ∈ CodeImage.classesIn image m, after.class? e = image.class? e) :
    Replaces before image m c d new old := by
  have hdeclared := hc.declared
  rw [hclasses] at hdeclared
  refine ⟨hdeclared, ?_, hc.plain, ?_, hc.earlier, hc.isOld, hc.name, hc.layout, hc.slots⟩
  · rw [← hsame c hdeclared]
    exact hc.isNew
  · intro e he k hk
    rw [← hsame e he] at hk
    rw [← hclasses] at he
    exact hc.once e he k hk

namespace UpToDate

variable {r : Reloader} {w : Process} {staged : List (Path × ModuleSpec Body)}
  {spec : ModuleSpec Body} {image : ManagedImage} {c d : ClassId} {new old : LinkedClass}

theorem class?_patchPass (h : UpToDate r w)
    (hi : image = (ManagedImage.link { w.image with staged } spec).2) {m : ModuleId}
    (hc : c ∈ CodeImage.classesIn image m) :
    (Reloader.patchPass { r with cache := r.cache.moduleLoaded } { w with image } m
      m.number).image.class? c = image.class? c := by
  have hvalid := h.linked_valid hi
  exact PatchPass.class?_patchClasses _ _ ⟨image, _, _⟩ hvalid.linked hc
    (hvalid.not_isSpecialization _ hc)

theorem slotAt?_patchPass (h : UpToDate r w)
    (hi : image = (ManagedImage.link { w.image with staged } spec).2)
    (hc : Replaces w.image image w.image.nextModule c d new old) (i : Nat) :
    (Reloader.patchPass { r with cache := r.cache.moduleLoaded } { w with image }
      w.image.nextModule w.image.nextModule.number).image.slotAt? d i =
        SlotPolicy.brought ⟨r.table, r.settings.preserveStatics⟩ image w.image.nextModule image
          d c i := by
  have hvalid := h.linked_valid hi
  obtain ⟨id, hid⟩ := hc.earlier
  obtain ⟨k, hk, hin⟩ := ManagedImage.mem_classesIn.1 hid
  have hgrown : w.image.modules <+: image.modules := by
    rw [hi]
    exact List.prefix_append _ _
  have hd : d ∈ CodeImage.classesIn image id :=
    ManagedImage.mem_classesIn.2 ⟨k, ManagedImage.module?_of_isPrefix hgrown hk, hin⟩
  have hlt : id.number < w.image.nextModule.number :=
    Nat.lt_succ_of_le (ManagedImage.number_of_module? hk).2
  have hold : image.class? d = some old := by
    rw [hi]
    exact ManagedImage.class?_append hc.isOld
  have hlayout : layoutChange? old.info new.info = none := if_pos hc.layout
  exact PatchPass.slotAt?_patchClasses _ _ ⟨image, _, _⟩ (h.served hi) hc.declared hc.isNew
    hc.plain.1 hc.plain.2 hc.once hold hc.name hd hlt hlayout hc.slots
    (hvalid.not_isSpecialization _ hd) i

end UpToDate

section Load

variable {r : Reloader} {w : Process} {loop : MainLoop} {path : Path} {report : LoadReport}
  {c d : ClassId} {new old : LinkedClass}

/-- What a load makes of the older descriptor, seen from the image that the module was linked
into. -/
theorem UpToDate.load_slots (h : UpToDate r w)
    (hr : (r.load loop w path).result = .ok report)
    (hone : (r.load loop w path).world.image.modules.length = w.image.modules.length + 1)
    (hc : Replaces w.image (r.load loop w path).world.image report.module c d new old) :
    ∃ staged spec image, image = (ManagedImage.link { w.image with staged } spec).2 ∧
      report.module = w.image.nextModule ∧
      c ∈ (ManagedImage.linked { w.image with staged } spec).classes ∧
      (r.load loop w path).world.image.modules.map (·.unbound) = image.modules.map (·.unbound) ∧
      ∀ i, (r.load loop w path).world.image.slotAt? c i = image.slotAt? c i ∧
        (r.load loop w path).world.image.slotAt? d i =
          SlotPolicy.brought ⟨r.table, r.settings.preserveStatics⟩ image report.module image d c
            i := by
  obtain ⟨staged, spec, m, image, done, _, hload, hdone, rfl, hreloader, hkept⟩ :=
    Reloader.load_cases hr
  obtain ⟨hm, hi⟩ := ManagedImage.load_eq hload
  refine ⟨staged, spec, image, hi, hm, ?_⟩
  have hserved := h.patchPass_served hi report.module
  have hrebound := Interposition.absorb_rebound hdone
  have hregisters := hkept _ Managed.registers_kept
  have hextends := hkept _ Managed.extends_held.toKept
  generalize (r.load loop w path).world = w' at hone hc hregisters hextends ⊢
  have hcount : image.modules.length = w.image.modules.length + 1 := by
    rw [hi]
    exact List.length_append
  have hmodules : w'.image.modules.map (·.unbound) = image.modules.map (·.unbound) := by
    have hlength : w'.image.modules.length = done.image.modules.length := by
      rw [hone, hrebound.length, hserved.modules, hcount]
    rw [hextends.unbound_eq (Nat.le_of_eq hlength), hrebound.unbound, hserved.modules]
  -- Nothing is written after the reload, so a descriptor that it left is the final one.
  have hfinal {e : ClassId} {k : LinkedClass} (hk : (Reloader.patchPass
      { r with cache := r.cache.moduleLoaded } { w with image } report.module
      report.module.number).image.class? e = some k) : w'.image.class? e = some k := by
    apply hregisters.class?
    rw [ManagedImage.class?, hrebound.classes]
    exact hk
  have hnew : Replaces w.image image report.module c d new old := by
    refine hc.congr (ManagedImage.classesIn_of_unbound hmodules report.module) fun e he => ?_
    obtain ⟨l, hl, _⟩ := (h.linked_valid hi).linked.exists_class? he
    rw [hl]
    exact hfinal ((h.class?_patchPass hi he).trans hl)
  have hold : image.class? d = some old := by
    rw [hi]
    exact ManagedImage.class?_append hc.isOld
  have hsome := (Reloader.patchPass_confined { r with cache := r.cache.moduleLoaded }
    { w with image } report.module report.module.number).class?_isSome d
  rw [hold] at hsome
  obtain ⟨k, hk⟩ := Option.isSome_iff_exists.1 hsome
  have hdeclared := hnew.declared
  have hmodule : image.module? report.module =
      some (ManagedImage.linked { w.image with staged } spec) := by
    rw [hm, hi]
    exact List.getElem?_concat_length
  refine ⟨?_, hmodules, fun i => ⟨?_, ?_⟩⟩
  · simpa [CodeImage.classesIn, hmodule] using hdeclared
  · rw [ManagedImage.slotAt?_eq hc.isNew, ManagedImage.slotAt?_eq hnew.isNew]
  · rw [ManagedImage.slotAt?_eq (hfinal hk), ← ManagedImage.slotAt?_eq hk, hm]
    rw [hm] at hnew
    exact h.slotAt?_patchPass hi hnew i

/-- After a load through the reloader, an older descriptor of a class that the new module declares
once, under its layout, has the newest implementation in every slot where the new descriptor has a
patchable symbol. Its other slots are as before. -/
theorem Hosted.slotAt?_load (h : Hosted r w) (hr : (r.load loop w path).result = .ok report)
    (hone : (r.load loop w path).world.image.modules.length = w.image.modules.length + 1)
    (hc : Replaces w.image (r.load loop w path).world.image report.module c d new old) (i : Nat) :
    let after := r.load loop w path
    let preserve := r.settings.preserveStatics
    let holds (s : Symbol) : Prop := ∃ a, after.world.image.slotAt? c i = some a ∧
      SymbolCache.search after.world.image a (some report.module) = some s ∧
      s.kind.patchable preserve = true
    (∀ s, i ≠ 0 → holds s → ∃ b newest, after.world.image.slotAt? d i = some b ∧
        after.reloader.table.address? s.name = some b ∧
        after.world.image.newest? preserve s.name = some newest ∧ newest.address = b) ∧
      (i = 0 ∨ (∀ s, ¬holds s) → after.world.image.slotAt? d i = w.image.slotAt? d i) := by
  have hup := UpToDate.of_hosted h
  have hafter := hup.load loop path (Nat.le_of_eq hone)
  obtain ⟨staged, spec, image, hi, hm, hmem, hmodules, hslots⟩ := hup.load_slots hr hone hc
  obtain ⟨hnew, hold⟩ := hslots i
  have hbefore : image.slotAt? d i = w.image.slotAt? d i := by
    rw [ManagedImage.slotAt?_eq hc.isOld, hi]
    exact ManagedImage.slotAt?_eq (ManagedImage.class?_append hc.isOld) i
  have hresolve (a : Address) : SymbolCache.search (r.load loop w path).world.image a
      (some report.module) = image.symbol? a := by
    rw [hafter.valid.linked.search_eq, ManagedImage.symbol?, ManagedImage.symbol?,
      ManagedImage.symbols_of_unbound hmodules]
  simp only [hresolve, hnew]
  refine ⟨?_, fun hnone => ?_⟩
  · rintro s hne ⟨a, ha, hs, hp⟩
    obtain ⟨b, hb⟩ : ∃ b, image.slotAt? d i = some b := by
      rw [← hnew, ManagedImage.slotAt?_eq hc.isNew] at ha
      have hlt := (List.getElem?_eq_some_iff.1 ha).1
      rw [List.length_map, ← hc.slots] at hlt
      rw [hbefore, ManagedImage.slotAt?_eq hc.isOld]
      exact ⟨_, List.getElem?_eq_getElem (by rwa [List.length_map])⟩
    have hstaged : r.table.IsNewest r.settings.preserveStatics { w.image with staged } := hup.newest
    obtain ⟨newest, hn, htarget⟩ := ManagedImage.newest_eq_newest?
      (Managed.valid_held.staged w staged hup.valid).linked hstaged hmem (hi ▸ ha) (hi ▸ hs) hp
    rw [← hi] at hn
    have hfinal : (r.load loop w path).world.image.newest? r.settings.preserveStatics s.name =
        some newest := by
      rw [ManagedImage.newest?_of_modules hmodules, hn]
    have hentry := hafter.newest s.name
    rw [Reloader.load_settings hr, hfinal] at hentry
    refine ⟨newest.address, newest, ?_, ?_, hfinal, rfl⟩
    · rw [hold, ← htarget, hm]
      exact SlotPolicy.brought_of_some hne hb ha (SlotPolicy.target?_of_patchable hs hp)
    · rw [Interposition.address?, hentry]
      rfl
  · rw [hold, ← hbefore]
    refine SlotPolicy.brought_of_none (hnone.imp_right fun hnone => ?_)
    cases ha : image.slotAt? c i with
    | none => rfl
    | some a => exact SlotPolicy.target?_eq_none fun s hs hp => hnone s ⟨a, ha, hs, hp⟩

end Load

namespace Hosted

def shapeModule (area : Int) : ModuleSpec Body :=
  { name := "Shapes"
    functions := [⟨"Shape.area", .method, .constant (.int area)⟩]
    classes := [{ name := "Shape", slots := [("area", "Shape.area")] }] }

def shapes : Path := ⟨[0x73]⟩

def stage (area : Int) : Command := .stage shapes (shapeModule area)

def started : Reloader × Process := Reloader.start {} { image := .empty false }

def loop : MainLoop := Reloader.loopFor {} false

def loadedOnce : Loaded ManagedImage :=
  started.1.load loop ((stage 1).perform started.2) shapes

def loadedTwice : Loaded ManagedImage :=
  loadedOnce.reloader.load loop ((stage 2).perform loadedOnce.world) shapes

theorem slotAt?_load_twice : ∃ b newest,
    loadedTwice.world.image.slotAt? ⟨0⟩ 1 = some b ∧
      loadedTwice.reloader.table.address? "Shape.area" = some b ∧
      loadedTwice.world.image.newest? false "Shape.area" = some newest ∧ newest.address = b := by
  have hstart : Hosted started.1 started.2 :=
    .start {} { image := .empty false } rfl fun s hs => absurd hs (Array.not_mem_empty s)
  have honce : Hosted loadedOnce.reloader loadedOnce.world :=
    .load loop shapes (.act (stage 1) hstart (by decide)) (by decide)
  have hready : Hosted loadedOnce.reloader ((stage 2).perform loadedOnce.world) :=
    .act (stage 2) honce (by decide)
  obtain ⟨report, hresult, hmodule⟩ : ∃ report, loadedTwice.result = .ok report ∧
      report.module = ⟨2⟩ := ⟨_, rfl, rfl⟩
  have hdeclared : CodeImage.classesIn loadedTwice.world.image report.module = [⟨1⟩] := by
    rw [hmodule]
    decide
  have hreplaces : Replaces ((stage 2).perform loadedOnce.world).image loadedTwice.world.image
      report.module ⟨1⟩ ⟨0⟩ _ _ :=
    { declared := hdeclared ▸ List.mem_cons_self
      isNew := rfl
      plain := by decide
      once := fun e he _ _ _ => List.mem_singleton.1 (hdeclared ▸ he)
      earlier := ⟨⟨1⟩, by decide⟩
      isOld := rfl
      name := by decide
      layout := by decide
      slots := by decide }
  refine (slotAt?_load hready hresult (by decide) hreplaces 1).1
    ⟨"Shape.area", ⟨0x1020⟩, ⟨2⟩, .method⟩ (by decide) ⟨⟨0x1020⟩, by decide, ?_, by decide⟩
  rw [hmodule]
  decide

end Hosted

end HotReload
