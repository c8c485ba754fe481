import HotReload.Mapped.Image
import HotReload.Proofs.Loading
import Mathlib.Data.List.Basic

/-! # The classes that a load lists

A load reports the names of the classes that its module registered. They are read one by one while
older versions are patched; that makes no difference where a write into a table leaves the
descriptors alone.
-/

namespace HotReload

/-- Writes into tables leave descriptors alone. -/
class CodeImage.KeepsInfos (ι : Type) [CodeImage ι] : Prop where
  writeSlot {image after : ι} {c : ClassId} {index : Nat} {a : Address} :
    CodeImage.writeSlot image c index a = .ok after →
      CodeImage.info? after = CodeImage.info? image
  replaceSelector {image after : ι} {c : ClassId} {t : SelectorTable} {selector : String}
    {a : Address} :
    CodeImage.replaceSelector image c t selector a = .ok after →
      CodeImage.info? after = CodeImage.info? image

def CodeImage.declaredNames {ι : Type} [CodeImage ι] (image : ι) (m : ModuleId) : List String :=
  (CodeImage.classesIn image m).filterMap fun c => (CodeImage.info? image c).map (·.name)

section Images

instance : CodeImage.KeepsInfos ManagedImage where
  writeSlot h := funext (ManagedImage.writeSlot_confined h).class_info
  replaceSelector h := funext (ManagedImage.replaceSelector_confined h).class_info

theorem MappedImage.info?_modifyClass (image : MappedImage) (c : ClassId)
    {f : MappedClass → MappedClass} (hf : ∀ k, (f k).info = k.info) :
    CodeImage.info? (image.modifyClass c f) = CodeImage.info? image := by
  funext d
  simp only [CodeImage.info?, class?, modifyClass, List.getElem?_modify]
  split <;> cases image.classes[d.index]? <;> simp [hf]

instance : CodeImage.KeepsInfos MappedImage where
  writeSlot {image after c index a} h := by
    simp only [CodeImage.writeSlot, MappedImage.writeSlot] at h
    split at h
    · cases h
    · split at h
      · obtain rfl := Except.ok.inj h
        exact image.info?_modifyClass c fun _ => rfl
      · cases h
  replaceSelector {image after c t selector a} h := by
    simp only [CodeImage.replaceSelector, MappedImage.replaceSelector] at h
    split at h
    · cases h
    · split at h
      · obtain rfl := Except.ok.inj h
        refine image.info?_modifyClass c fun _ => ?_
        cases t <;> rfl
      · cases h

theorem Faulty.info?_of_map {ι : Type} [CodeImage ι] {i after : Faulty ι} {x : Except Failure ι}
    (h : x.map i.around = .ok after)
    (hx : ∀ base, x = .ok base → CodeImage.info? base = CodeImage.info? i.base) :
    CodeImage.info? after = CodeImage.info? i := by
  cases x with
  | error e => cases h
  | ok base =>
    obtain rfl := Except.ok.inj h
    funext c
    have hbase := congrFun (hx base rfl) c
    simp only [CodeImage.info?, Faulty.around, Faulty.failsInfo] at hbase ⊢
    rw [hbase]
    rfl

instance {ι : Type} [CodeImage ι] [CodeImage.KeepsInfos ι] :
    CodeImage.KeepsInfos (Faulty ι) where
  writeSlot h := by
    simp only [CodeImage.writeSlot] at h
    split at h
    · cases h
    · exact Faulty.info?_of_map h fun _ => CodeImage.KeepsInfos.writeSlot
  replaceSelector h := by
    simp only [CodeImage.replaceSelector] at h
    split at h
    · cases h
    · exact Faulty.info?_of_map h fun _ => CodeImage.KeepsInfos.replaceSelector

end Images

namespace PatchPass

variable {ι : Type} [CodeImage ι] [CodeImage.KeepsInfos ι] (policy : SlotPolicy) (m : ModuleId)

theorem infos_invariant (infos : ClassId → Option ClassInfo) (c : ClassId) :
    Invariant c fun (image : ι) _ => CodeImage.info? image = infos where
  slots := ⟨fun _ _ h => h, fun h hw => (CodeImage.KeepsInfos.writeSlot hw).trans h⟩
  selectors _ := ⟨fun h hr => (CodeImage.KeepsInfos.replaceSelector hr).trans h⟩

theorem patchEachClass_heading (cs : List ClassId) (acc : List ClassId × PatchPass ι) :
    (cs.foldl (patchClass policy m) acc).2.report.heading =
      (acc.2.report.module, acc.2.report.classNames ++
        cs.filterMap fun c => (CodeImage.info? acc.2.image c).map (·.name)) := by
  induction cs generalizing acc with
  | nil => simp [LoadReport.heading]
  | cons c cs ih =>
    have hinfos : CodeImage.info? (patchClass policy m acc c).2.image =
        CodeImage.info? acc.2.image :=
      Invariant.patchClass (infos_invariant (CodeImage.info? acc.2.image)) rfl c
    have hhead := patchClass_heading policy m acc c
    simp only [LoadReport.heading, Prod.mk.injEq] at hhead
    rw [List.foldl_cons, ih, hhead.1, hhead.2, hinfos]
    cases hi : CodeImage.info? acc.2.image c <;> simp [hi]

/-- The pass lists what the module declares, in the image with which it starts. -/
theorem patchClasses_heading (rules : PatchRules) (p : PatchPass ι) :
    (patchClasses policy rules m p).report.heading =
      (p.report.module, p.report.classNames ++ CodeImage.declaredNames p.image m) := by
  have hclasses := patchEachClass_heading policy m (CodeImage.classesIn p.image m) ([], p)
  exact List.foldlRecOn (motive := fun q : PatchPass ι => q.report.heading = _) _ _ hclasses
    fun q hq g _ => (patchGeneric_heading policy m rules q g).trans hq

end PatchPass

/-- So does the report of a module that is patched in. -/
theorem patchIn_heading {ι : Type} [CodeImage ι] [CodeImage.KeepsInfos ι] {rules : PatchRules}
    {cache : SymbolCache} {table : Interposition} {image : ι} {m : ModuleId} {sequence : Nat}
    {patched : Patched ι} (h : patchIn rules cache table image m sequence = .ok patched) :
    patched.report.heading = (m, CodeImage.declaredNames image m) := by
  have hhead := PatchPass.patchClasses_heading ⟨table, rules.preserve⟩ m rules
    ⟨image, cache, { module := m, sequence }⟩
  unfold patchIn at h
  generalize PatchPass.patchClasses _ rules m ⟨image, cache, _⟩ = p at h hhead
  simp only at h
  cases ha : table.absorb rules.preserve p.image m with
  | error e =>
    rw [ha] at h
    cases h
  | ok absorbed =>
    rw [ha] at h
    obtain rfl := Except.ok.inj h
    exact hhead

/-- With a main loop that keeps its tasks, a load that succeeds leaves one more of them, and one
that fails leaves the loop alone. -/
theorem Reloader.load_deferred {ι : Type} [Host ι] [CodeImage.KeepsInfos ι] (r : Reloader)
    {loop : MainLoop} (hd : loop.isDeferred = true) (w : World ι) (path : Path) :
    let done := r.load loop w path
    done.reloader.settings = r.settings ∧
    ((∃ e, done.result = .error e ∧ done.loop = loop) ∨
      ∃ report, done.result = .ok report ∧
        done.loop = { loop with pending := loop.pending ++ [r.task loop report] } ∧
        report.classNames =
          CodeImage.declaredNames (CodeImage.loadModule w.image path).2 report.module) := by
  have hdispatch (t : Task) (w : World ι) :
      loop.dispatch t w = ({ loop with pending := loop.pending ++ [t] }, w) := by
    simp [MainLoop.dispatch, hd]
  simp only [load]
  split
  · exact ⟨rfl, .inl ⟨_, rfl, rfl⟩⟩
  · generalize CodeImage.loadModule w.image path = loaded
    obtain ⟨outcome, image⟩ := loaded
    cases outcome with
    | error e => exact ⟨rfl, .inl ⟨e, rfl, rfl⟩⟩
    | ok m =>
      dsimp only
      split
      · exact ⟨rfl, .inl ⟨_, rfl, rfl⟩⟩
      · rename_i patched hpatched
        unfold patchIn at hpatched
        split at hpatched
        · cases hpatched
        · have hhead := patchIn_heading hpatched
          simp only [LoadReport.heading, Prod.mk.injEq] at hhead
          refine ⟨rfl, .inr ⟨_, rfl, ?_, ?_⟩⟩
          · rw [hdispatch]
            rfl
          · simp only [tellListeners]
            rw [hhead.1, hhead.2]

end HotReload
