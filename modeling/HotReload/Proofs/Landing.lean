import HotReload.Proofs.Growth
import HotReload.Proofs.Validity
import HotReload.Proofs.Versions

/-! # What a load leaves

After a load the descriptors are as the patch left them, the module exports what it was linked with,
and the table of newest implementations has changed only at the names that the module provides. The
code that runs afterwards adds to the image and changes nothing of it.
-/

namespace HotReload

open Managed (Process)

namespace Managed.Extends

variable {w w' : Process}

theorem module? (h : Extends w w') {m : ModuleId} {k : LinkedModule}
    (hk : w.image.module? m = some k) :
    ∃ k', w'.image.module? m = some k' ∧ k'.unbound = k.unbound := by
  obtain ⟨n⟩ := m
  cases n with
  | zero => simp [ManagedImage.module?] at hk
  | succ n =>
    rw [ManagedImage.module?_eq] at hk
    have hn : (w.image.modules.map (·.unbound))[n]? = some k.unbound := by simp [hk]
    have hlt := (List.getElem?_eq_some_iff.1 hn).1
    have hn' : (w'.image.modules.map (·.unbound))[n]? = some k.unbound := by
      obtain ⟨more, hm⟩ := h
      rw [← hm, List.getElem?_append_left hlt]
      exact hn
    rw [List.getElem?_map] at hn'
    obtain ⟨k', hk', he⟩ := Option.map_eq_some_iff.1 hn'
    exact ⟨k', hk', he⟩

theorem symbols (h : Extends w w') : ∃ more, w'.image.symbols = w.image.symbols ++ more := by
  obtain ⟨more, hm⟩ := h
  refine ⟨more.flatMap (·.exports), ?_⟩
  rw [ManagedImage.symbols_unbound, ← hm, List.flatMap_append, ← ManagedImage.symbols_unbound]

theorem symbol? (h : Extends w w') {a : Address} {s : Symbol} (hs : w.image.symbol? a = some s) :
    w'.image.symbol? a = some s := by
  obtain ⟨more, hm⟩ := h.symbols
  rw [ManagedImage.symbol?] at hs ⊢
  rw [hm, List.find?_append, hs]
  rfl

end Managed.Extends

namespace Reloader

def patchLinked (r : Reloader) (w : Process) (before : ManagedImage) (spec : ModuleSpec Body) :
    PatchPass ManagedImage :=
  patchPass { r with cache := r.cache.moduleLoaded } { w with image := (before.link spec).2 }
    before.nextModule before.nextModule.number

/-- A load that succeeded, by its stages: the module was linked into the image, patched in and taken
in, and then code ran. -/
structure Landed (r : Reloader) (w : Process) (after : Loaded ManagedImage) (m : ModuleId)
    (before : ManagedImage) (spec : ModuleSpec Body) (done : Interposition.Absorbed ManagedImage) :
    Prop where
  restaged : ∃ staged, before = { w.image with staged }
  loads : before.load spec = .ok (m, (before.link spec).2)
  absorbed : r.table.absorb r.settings.preserveStatics (r.patchLinked w before spec).image m =
    .ok done
  reloader : after.reloader =
    { r with cache := (r.patchLinked w before spec).cache, table := done.table }
  kept : ∀ R, Managed.Kept R → R { w with image := done.image } after.world

variable {r : Reloader} {w : Process} {loop : MainLoop} {path : Path} {report : LoadReport}

/-- A load that succeeded is a module that was found at the path and landed. -/
theorem loaded_and_landed (h : (r.load loop w path).result = .ok report) :
    ∃ before spec done,
      CodeImage.loadModule w.image path = (.ok report.module, (before.link spec).2) ∧
      Landed r w (r.load loop w path) report.module before spec done := by
  obtain ⟨staged, spec, m, image, done, hloaded, hload, hdone, rfl, hreloader, hkept⟩ :=
    load_cases h
  obtain ⟨hm, rfl⟩ := ManagedImage.load_eq hload
  refine ⟨{ w.image with staged }, spec, done, hloaded, ⟨staged, rfl⟩, hload, ?_, ?_, hkept⟩
  · rw [patchLinked, ← hm]
    exact hdone
  · rw [patchLinked, ← hm]
    exact hreloader

theorem exists_landed (h : (r.load loop w path).result = .ok report) :
    ∃ before spec done, Landed r w (r.load loop w path) report.module before spec done := by
  obtain ⟨before, spec, done, _, hlanded⟩ := loaded_and_landed h
  exact ⟨before, spec, done, hlanded⟩

namespace Landed

variable {after : Loaded ManagedImage} {m : ModuleId} {before : ManagedImage}
  {spec : ModuleSpec Body} {done : Interposition.Absorbed ManagedImage}

theorem module (h : Landed r w after m before spec done) : m = before.nextModule :=
  (ManagedImage.load_eq h.loads).1

theorem confined (_ : Landed r w after m before spec done) :
    (before.link spec).2.Confined
      (fun d => IsOlderVersion (before.link spec).2 before.nextModule d ∨
        IsSpecialization (before.link spec).2 (r.rules w) before.nextModule d)
      (r.patchLinked w before spec).image :=
  patchPass_confined { r with cache := r.cache.moduleLoaded }
    { w with image := (before.link spec).2 } before.nextModule before.nextModule.number

theorem class? (h : Landed r w after m before spec done) {c : ClassId} {k : LinkedClass}
    (hk : (r.patchLinked w before spec).image.class? c = some k) :
    after.world.image.class? c = some k := by
  apply (h.kept _ Managed.registers_kept).class?
  change done.image.classes[c.index]? = some k
  rw [(Interposition.absorb_rebound h.absorbed).classes]
  exact hk

theorem class?_linked (h : Landed r w after m before spec done) {c : ClassId} {k : LinkedClass}
    (hk : w.image.class? c = some k) : (before.link spec).2.class? c = some k := by
  obtain ⟨staged, rfl⟩ := h.restaged
  exact ManagedImage.class?_append hk

theorem info? (h : Landed r w after m before spec done) {c : ClassId} {info : ClassInfo}
    (hi : CodeImage.info? (before.link spec).2 c = some info) :
    CodeImage.info? after.world.image c = some info := by
  have hpatched := (h.confined.info? c).trans hi
  obtain ⟨k, hk, rfl⟩ := Option.map_eq_some_iff.1 hpatched
  simp [CodeImage.info?, h.class? hk]

theorem slotAt? (h : Landed r w after m before spec done) {c : ClassId} {k : LinkedClass}
    (hk : (before.link spec).2.class? c = some k) (i : Nat) :
    after.world.image.slotAt? c i = (r.patchLinked w before spec).image.slotAt? c i := by
  have hsome := h.confined.class?_isSome c
  rw [hk] at hsome
  obtain ⟨l, hl⟩ := Option.isSome_iff_exists.1 hsome
  rw [ManagedImage.slotAt?_eq (h.class? hl), ManagedImage.slotAt?_eq hl]

theorem extends_linked (h : Landed r w after m before spec done) :
    Managed.Extends { w with image := (before.link spec).2 } after.world := by
  refine Managed.extends_held.trans ?_ (h.kept _ Managed.extends_held.toKept)
  have hunbound := (Interposition.absorb_rebound h.absorbed).unbound
  rw [h.confined.modules] at hunbound
  simp [Managed.Extends, hunbound]

theorem module? (h : Landed r w after m before spec done) :
    (before.link spec).2.module? m = some (before.linked spec) ∧
      ∃ k, after.world.image.module? m = some k ∧ k.unbound = (before.linked spec).unbound := by
  have hk : (before.link spec).2.module? m = some (before.linked spec) := by
    rw [h.module]
    exact List.getElem?_concat_length
  exact ⟨hk, h.extends_linked.module? hk⟩

theorem classesIn (h : Landed r w after m before spec done) :
    CodeImage.classesIn after.world.image m = (before.linked spec).classes := by
  obtain ⟨_, k, hk, he⟩ := h.module?
  have hclasses := congrArg LinkedModule.classes he
  simp only [CodeImage.classesIn, hk]
  exact hclasses

theorem address? (h : Landed r w after m before spec done) (name : String) :
    CodeImage.address? after.world.image m name = (before.linked spec).address? name := by
  obtain ⟨_, k, hk, he⟩ := h.module?
  have haddress := congrArg (LinkedModule.address? · name) he
  simp only [CodeImage.address?, hk]
  exact haddress

theorem table (h : Landed r w after m before spec done) {name : String}
    (hname : (before.linked spec).address? name = none) :
    after.reloader.table.address? name = r.table.address? name := by
  suffices hentry : Interposition.entry? done.table name = Interposition.entry? r.table name by
    rw [h.reloader]
    exact congrArg (Option.map (·.address)) hentry
  apply Interposition.entry?_absorb_of_not_provides h.absorbed
  rintro ⟨s, hs, _, rfl⟩
  have hexports : CodeImage.exports (r.patchLinked w before spec).image m =
      (before.linked spec).exports := by
    simp [CodeImage.exports, h.confined.module?, h.module?.1]
  rw [hexports] at hs
  have hnone := List.find?_eq_none.1 (Option.map_eq_none_iff.1 hname) s (List.mem_reverse.2 hs)
  exact hnone (beq_self_eq_true s.name)

/-- Where a name leads that the module comes first for. -/
theorem address?_or (h : Landed r w after m before spec done) (name : String) :
    (CodeImage.address? after.world.image m name).or (after.reloader.table.address? name) =
      ((before.linked spec).address? name).or (r.table.address? name) := by
  rw [h.address?]
  cases hown : (before.linked spec).address? name with
  | some _ => rfl
  | none => exact h.table hown

end Landed

end Reloader

/-- A load keeps what running code keeps, and what writing into descriptors and call sites does. -/
theorem Managed.Handled.reload {R : Process → Process → Prop} (h : Managed.Handled R) (r : Reloader)
    (loop : MainLoop) (w : Process) (path : Path) : R w (r.load loop w path).world := by
  cases hl : (r.load loop w path).result with
  | error e =>
    obtain ⟨_, staged, hw⟩ := Reloader.load_error hl
    rw [hw]
    exact h.staged w staged
  | ok report =>
    obtain ⟨before, spec, done, hlanded⟩ := Reloader.exists_landed hl
    obtain ⟨staged, rfl⟩ := hlanded.restaged
    have hload : Managed.load { w with image := { w.image with staged } } spec =
        .ok (report.module,
          { w with image := (ManagedImage.link { w.image with staged } spec).2 }) := by
      simp [Managed.load, hlanded.loads, Except.map]
    have hlinked := h.trans (h.staged w staged) (h.toKept.load hload)
    have hpatched := h.trans hlinked (h.confined hlanded.confined)
    have hrebound := h.trans hpatched (h.rebound (Interposition.absorb_rebound hlanded.absorbed))
    exact h.trans hrebound (hlanded.kept R h.toKept)

end HotReload
