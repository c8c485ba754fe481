import HotReload.Proofs.Growth
import HotReload.Proofs.Newest
import HotReload.Proofs.Validity
import HotReload.Proofs.Versions

/-! # Hosts that reload

A host that loads every module through one reloader keeps the reloader up to date: its table holds
the newest implementation of each name, and its cache knows no symbol that is not there.
-/

namespace HotReload

open Managed (Command Process Valid)

/-- A reloader and a process in the hands of a host that loads every module through the reloader:
one load adds one module, and nothing else does. -/
inductive Hosted : Reloader → Process → Prop where
  | start (settings : Settings) (w : Process) {hasHook : Bool} {staged} :
    w.image = { ManagedImage.empty hasHook with staged } → (∀ s ∈ w.recorders, s = {}) →
      Hosted (Reloader.start settings w).1 (Reloader.start settings w).2
  | listen {r w} (listeners : List Listener) : Hosted r w → Hosted { r with listeners } w
  | act {r w} (c : Command) :
    Hosted r w → (c.perform w).image.modules.length ≤ w.image.modules.length →
      Hosted r (c.perform w)
  | load {r w} (loop : MainLoop) (path : Path) :
    Hosted r w →
      (r.load loop w path).world.image.modules.length ≤ w.image.modules.length + 1 →
      Hosted (r.load loop w path).reloader (r.load loop w path).world

theorem Reloader.start_image (settings : Settings) (w : Process) :
    ∃ recorder, (Reloader.start settings w).2.image = { w.image with recorder } := by
  simp only [Reloader.start, World.addRecorder, Tracker.install, CodeImage.observe]
  split
  · exact ⟨w.image.recorder, rfl⟩
  · by_cases hh : w.image.hasHook = true
    · simp only [hh, if_true]
      exact ⟨_, rfl⟩
    · simp only [hh, Bool.false_eq_true, if_false]
      exact ⟨w.image.recorder,
        congrArg (fun b => { w.image with hasHook := b }) (by simpa using hh)⟩

theorem Managed.Tended.start {R : Process → Process → Prop} (h : Managed.Tended R)
    (settings : Settings) (w : Process) : R w (Reloader.start settings w).2 := by
  obtain ⟨recorder, hi⟩ := Reloader.start_image settings w
  have hstart : (Reloader.start settings w).2 =
      { w.addRecorder.2 with image := { w.addRecorder.2.image with recorder } } :=
    congrArg (fun image => { w.addRecorder.2 with image }) hi
  rw [hstart]
  exact h.trans (h.recorders w) (h.observed _ recorder)

/-- What a reloader knows of a process is right. -/
structure UpToDate (r : Reloader) (w : Process) : Prop where
  valid : Valid w
  newest : r.table.IsNewest r.settings.preserveStatics w.image
  sound : r.cache.Sound w.image

namespace UpToDate

variable {r : Reloader} {w w' : Process}

theorem extend (h : UpToDate r w) (hvalid : Valid w') (hw : Managed.Extends w w')
    (hle : w'.image.modules.length ≤ w.image.modules.length) : UpToDate r w' := by
  have hu := hw.unbound_eq hle
  exact ⟨hvalid, h.newest.of_modules hu, h.sound.of_symbols (ManagedImage.symbols_of_unbound hu)⟩

theorem start (settings : Settings) {hasHook : Bool} {staged : List (Path × ModuleSpec Body)}
    (himage : w.image = { ManagedImage.empty hasHook with staged })
    (hrecorders : ∀ s ∈ w.recorders, s = {}) :
    UpToDate (Reloader.start settings w).1 (Reloader.start settings w).2 := by
  obtain ⟨recorder, hi⟩ := Reloader.start_image settings w
  refine ⟨Managed.valid_held.start settings w (Valid.of_empty himage hrecorders), ?_,
    SymbolCache.sound_empty _⟩
  rw [hi, himage]
  exact Interposition.isNewest_empty _ hasHook

theorem act (h : UpToDate r w) (c : Command)
    (hle : (c.perform w).image.modules.length ≤ w.image.modules.length) :
    UpToDate r (c.perform w) := by
  have hvalid := Managed.valid_held.perform_of_rebound
    (fun w image hr (hv : Valid w) => hv.rebound hr) c w h.valid
  have hextends := Managed.extends_held.perform_of_rebound Managed.extends_rebound c w
  exact h.extend hvalid hextends hle

section Load

variable {staged : List (Path × ModuleSpec Body)} {spec : ModuleSpec Body} {image : ManagedImage}

theorem served (h : UpToDate r w)
    (hi : image = (ManagedImage.link { w.image with staged } spec).2) :
    Served image image r.cache.moduleLoaded := by
  have hvalid := Managed.valid_held.staged w staged h.valid
  subst hi
  refine ⟨hvalid.linked.link spec, ?_, rfl⟩
  exact h.sound.moduleLoaded (ManagedImage.symbols_link _ spec)

theorem linked_valid (h : UpToDate r w)
    (hi : image = (ManagedImage.link { w.image with staged } spec).2) :
    Valid { w with image } := by
  have hvalid := Managed.valid_held.staged w staged h.valid
  subst hi
  exact hvalid.link spec

theorem patchPass_served (h : UpToDate r w)
    (hi : image = (ManagedImage.link { w.image with staged } spec).2) (m : ModuleId) :
    let pass :=
      Reloader.patchPass { r with cache := r.cache.moduleLoaded } { w with image } m m.number
    Served image pass.image pass.cache := by
  have hready : PatchPass.Ready image
      ⟨image, r.cache.moduleLoaded, { module := m, sequence := m.number }⟩ := h.served hi
  exact PatchPass.patchClasses_ready hready _

theorem load (h : UpToDate r w) (loop : MainLoop) (path : Path)
    (hle : (r.load loop w path).world.image.modules.length ≤ w.image.modules.length + 1) :
    UpToDate (r.load loop w path).reloader (r.load loop w path).world := by
  cases hr : (r.load loop w path).result with
  | error e =>
    obtain ⟨hreloader, staged, hw⟩ := Reloader.load_error hr
    rw [hreloader, hw]
    exact h.extend (Managed.valid_held.staged w staged h.valid) (List.prefix_refl _) (Nat.le_refl _)
  | ok report =>
    obtain ⟨staged, spec, m, image, done, _, hload, hdone, _, hreloader, hkept⟩ :=
      Reloader.load_cases hr
    obtain ⟨hm, hi⟩ := ManagedImage.load_eq hload
    have hlinked := (Managed.valid_held.staged w staged h.valid).linked
    have hserved := h.patchPass_served hi m
    have hrebound := Interposition.absorb_rebound hdone
    have hready : UpToDate (r.load loop w path).reloader { w with image := done.image } := by
      rw [hreloader]
      refine ⟨?_, ?_, hserved.sound.of_symbols (ManagedImage.symbols_of_unbound hrebound.unbound)⟩
      · exact ((h.linked_valid hi).confined (Reloader.patchPass_confined _ _ m m.number)).rebound
          hrebound
      · have hnewest : r.table.IsNewest r.settings.preserveStatics
            { w.image with staged } := h.newest
        rw [hm] at hdone hserved
        exact hnewest.absorb hlinked spec (hi ▸ hserved.modules) hdone
    refine hready.extend ?_ (hkept _ Managed.extends_held.toKept) ?_
    · exact hkept _ Managed.valid_held.toKept hready.valid
    · have hlength : done.image.modules.length = w.image.modules.length + 1 := by
        rw [hrebound.length, hserved.modules, hi]
        exact List.length_append
      rw [hlength]
      exact hle

end Load

theorem of_hosted (h : Hosted r w) : UpToDate r w := by
  induction h with
  | start settings w himage hrecorders => exact start settings himage hrecorders
  | listen listeners _ ih => exact ⟨ih.valid, ih.newest, ih.sound⟩
  | act c _ hle ih => exact ih.act c hle
  | load loop path _ hle ih => exact ih.load loop path hle

end UpToDate

end HotReload
