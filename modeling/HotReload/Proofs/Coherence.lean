import HotReload.Proofs.Growth

/-! # Coherence of call sites

A call site of a module is current for a name when the module was taken in, or when a module that
provides the name was taken in after it was loaded. A current call site leads where the table of
newest implementations says, whatever the order of loads and of taking modules in.
-/

namespace HotReload

open Interposition (Provides)

structure Absorption where
  module : ModuleId
  /-- Accessors of mutable storage stayed. -/
  preserve : Bool
  /-- How many modules were loaded at that time. -/
  loaded : Nat

/-- A run of a host: its process, the table, and the modules taken into the table. Modules are
loaded by any means and taken in in any order and any number of times, by themselves or by
reloaders that hold the table. Nothing else writes call sites. -/
inductive Run : Managed.Process → Interposition → List Absorption → Prop where
  | start (w : Managed.Process) : Run w {} []
  | act {w t history} (c : Managed.Command) :
    Run w t history → c.rebinds = false → Run (c.perform w) t history
  | absorb {w t history} (preserve : Bool) (m : ModuleId) (done) :
    Run w t history → t.absorb preserve w.image m = .ok done →
      Run { w with image := done.image } done.table
        (⟨m, preserve, w.image.modules.length⟩ :: history)
  | reload {w history} (r : Reloader) (loop : MainLoop) (path : Path) (report) :
    Run w r.table history → (r.load loop w path).result = .ok report →
      Run (r.load loop w path).world (r.load loop w path).reloader.table
        (⟨report.module, r.settings.preserveStatics, report.module.number⟩ :: history)
  | refuse {w history} (r : Reloader) (loop : MainLoop) (path : Path) (e) :
    Run w r.table history → (r.load loop w path).result = .error e →
      Run (r.load loop w path).world (r.load loop w path).reloader.table history

/-- The call sites of the module for a name have been brought up to date. -/
def Absorption.covers (image : ManagedImage) (m : ModuleId) (name : String) (e : Absorption) :
    Prop :=
  e.module = m ∨ m.number ≤ e.loaded ∧ Provides e.preserve image e.module name

/-- The invariant of a run. -/
structure Coherent (image : ManagedImage) (t : Interposition) (history : List Absorption) :
    Prop where
  distinct : t.Distinct
  /-- Modules that were taken in are loaded. -/
  known : ∀ e ∈ history, e.loaded ≤ image.modules.length ∧ ∃ k, image.module? e.module = some k
  current : ∀ m name a b, CodeImage.callSite? image m name = some a →
    t.address? name = some b → (∃ e ∈ history, e.covers image m name) → a = b

namespace Coherent

variable {image after : ManagedImage} {t : Interposition} {history : List Absorption}

theorem exports_of_isPrefix (h : image.modules <+: after.modules) {m : ModuleId} {k : LinkedModule}
    (hk : image.module? m = some k) : CodeImage.exports after m = CodeImage.exports image m := by
  simp only [CodeImage.exports, hk, ManagedImage.module?_of_isPrefix h hk]

theorem start (image : ManagedImage) : Coherent image {} [] where
  distinct := List.nodup_nil
  known e he := absurd he List.not_mem_nil
  current m name a b _ hb _ := by cases hb

theorem grow (hc : Coherent image t history) (h : image.modules <+: after.modules) :
    Coherent after t history where
  distinct := hc.distinct
  known e he := by
    obtain ⟨hl, k, hk⟩ := hc.known e he
    exact ⟨Nat.le_trans hl h.length_le, k, ManagedImage.module?_of_isPrefix h hk⟩
  current m name a b ha hb := by
    rintro ⟨e, he, hcov⟩
    obtain ⟨hl, l, hm⟩ := hc.known e he
    have hnumber : 0 < m.number := by
      obtain ⟨k, hk, _⟩ := Option.bind_eq_some_iff.1 ha
      exact (ManagedImage.number_of_module? hk).1
    have hold : ∃ k, image.module? m = some k := by
      rcases hcov with rfl | ⟨hn, _⟩
      · exact ⟨l, hm⟩
      · exact ManagedImage.module?_isSome hnumber (Nat.le_trans hn hl)
    obtain ⟨k, hk⟩ := hold
    have hsite : CodeImage.callSite? image m name = some a := by
      simpa only [CodeImage.callSite?, hk, ManagedImage.module?_of_isPrefix h hk] using ha
    refine hc.current m name a b hsite hb ⟨e, he, ?_⟩
    simpa only [Absorption.covers, Provides, exports_of_isPrefix h hm] using hcov

/-- Taking a module in brings its call sites up to date, and those of every module loaded so far
for the names that it provides. -/
theorem absorb (hc : Coherent image t history) {preserve : Bool} {m : ModuleId} {done}
    (h : t.absorb preserve image m = .ok done) :
    Coherent done.image done.table (⟨m, preserve, image.modules.length⟩ :: history) where
  distinct := Interposition.absorb_distinct hc.distinct h
  known e he := by
    have hr := Interposition.absorb_rebound h
    rw [hr.length]
    rcases List.mem_cons.1 he with rfl | he
    · obtain ⟨sequence, _, hs, _⟩ := Interposition.absorb_cases h
      obtain ⟨k, hk, _⟩ := Option.map_eq_some_iff.1 hs
      exact ⟨Nat.le_refl _, hr.module?_isSome hk⟩
    · obtain ⟨hl, k, hk⟩ := hc.known e he
      exact ⟨hl, hr.module?_isSome hk⟩
  current other name a b ha hb := by
    rintro ⟨e, he, hcov⟩
    by_cases hm : other = m
    · subst hm
      rw [Interposition.callSite?_absorb_self hc.distinct h, hb] at ha
      obtain ⟨_, _, rfl⟩ := Option.map_eq_some_iff.1 ha
      rfl
    · by_cases hp : Provides preserve image m name
      · rw [Interposition.callSite?_absorb_of_provides h hm hp, hb] at ha
        obtain ⟨_, _, rfl⟩ := Option.map_eq_some_iff.1 ha
        rfl
      · have hexports (m : ModuleId) : CodeImage.exports done.image m = CodeImage.exports image m :=
          (Interposition.absorb_rebound h).exports m
        simp only [Absorption.covers, Provides, hexports] at hcov
        rw [Interposition.callSite?_absorb_of_not_provides h hm hp] at ha
        rw [Interposition.address?, Interposition.entry?_absorb_of_not_provides h hp] at hb
        refine hc.current other name a b ha hb ⟨e, ?_, hcov⟩
        rcases List.mem_cons.1 he with rfl | he
        · rcases hcov with rfl | ⟨_, hprov⟩
          · exact absurd rfl hm
          · exact absurd hprov hp
        · exact he

end Coherent

namespace Run

variable {w : Managed.Process} {t : Interposition} {history : List Absorption}

theorem coherent (h : Run w t history) : Coherent w.image t history := by
  induction h with
  | start w => exact Coherent.start w.image
  | act c _ hc ih => exact ih.grow (Managed.grows_held.perform hc _)
  | absorb preserve m done _ hd ih => exact ih.absorb hd
  | @reload w history r loop path report _ hr ih =>
    obtain ⟨staged, spec, m, image, done, _, hload, hd, rfl, hreloader, hkept⟩ :=
      Reloader.load_cases hr
    obtain ⟨hid, himage⟩ := ManagedImage.load_eq hload
    have hgrown : w.image.modules <+: image.modules := by
      rw [himage]
      exact List.prefix_append _ _
    have hmodules := (Reloader.patchPass_confined { r with cache := r.cache.moduleLoaded }
      { w with image } report.module report.module.number).modules
    have habsorbed := (ih.grow (hmodules ▸ hgrown)).absorb hd
    have hcount : image.modules.length = report.module.number := by
      rw [hid, himage]
      exact List.length_append
    rw [hmodules, hcount] at habsorbed
    rw [hreloader]
    exact habsorbed.grow (hkept Managed.Grows Managed.grows_held.toKept)
  | refuse r loop path e _ hr ih =>
    obtain ⟨hreloader, staged, hw⟩ := Reloader.load_error hr
    rw [hreloader, hw]
    exact ih.grow (List.prefix_refl _)

/-- After every step of a run, a current call site leads to the newest implementation. -/
theorem callSite?_eq_address? (h : Run w t history) (m : ModuleId) (name : String) {a b : Address}
    (ha : CodeImage.callSite? w.image m name = some a) (hb : t.address? name = some b)
    (he : ∃ e ∈ history, e.covers w.image m name) : a = b :=
  h.coherent.current m name a b ha hb he

def shapes (area : Int) : ModuleSpec Body :=
  { name := "Shapes", functions := [⟨"area", .function, .constant (.int area)⟩] }

def redefined : Managed.Process :=
  (Managed.Command.load (shapes 2)).perform <| (Managed.Command.load (shapes 1)).perform
    { image := .empty false }

theorem callSite?_eq_address?_redefined :
    ∃ done a b, Interposition.absorb {} false redefined.image ⟨2⟩ = .ok done ∧
      CodeImage.callSite? done.image ⟨1⟩ "area" = some a ∧
      done.table.address? "area" = some b ∧ a = b := by
  have hrun : Run redefined {} [] := .act _ (.act _ (.start _) rfl) rfl
  refine ⟨_, ⟨0x1010⟩, ⟨0x1010⟩, rfl, by decide, by decide, ?_⟩
  exact callSite?_eq_address? (.absorb false ⟨2⟩ _ hrun rfl) ⟨1⟩ "area" (by decide) (by decide)
    ⟨_, List.mem_cons_self, .inr ⟨by decide, _, List.mem_cons_self, by decide, by decide⟩⟩

end Run

end HotReload
