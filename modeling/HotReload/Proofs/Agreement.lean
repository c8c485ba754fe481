import HotReload.Proofs.Sharing

/-! # Instances of both versions

After a load the old versions of a class hold the newest implementations, while the new version
holds what it was linked to. Where the module defines the symbol of a slot, that is the same. Where
it does not, the new version holds the oldest implementation.
-/

namespace HotReload

open Managed (Process Valid)

section Registration

/-- Every descriptor comes from a module that is loaded, specializations from that of their
definition. -/
def Managed.Registered (w : Process) : Prop :=
  ∀ c k, w.image.class? c = some k → ∃ l, w.image.module? k.info.module = some l

theorem Managed.registered_held : Managed.Held fun w w' => Registered w → Registered w' where
  refl _ h := h
  trans h h' hw := h' (h hw)
  setField w o name v h := by
    unfold World.setField
    split <;> exact h
  write _ _ h := h
  count _ _ h := h
  specialize := by
    intro w definition arguments c w' hs h
    have hcopy (k : LinkedClass) (hk : k ∈ w.image.classes) (name : String) :
        Registered { w with image := w.image.addClass (k.specialized name) } := by
      intro d l hl
      rcases List.mem_append.1 (List.mem_of_getElem? hl) with hl | hl
      · obtain ⟨n, hn⟩ := List.getElem?_of_mem hl
        exact h ⟨n⟩ l hn
      · rw [List.mem_singleton.1 hl]
        obtain ⟨n, hn⟩ := List.getElem?_of_mem hk
        exact h ⟨n⟩ k hn
    rcases specialize_cases hs with rfl | ⟨k, hk, _, rfl | ⟨r, rfl⟩⟩
    · exact h
    · exact hcopy k hk _
    · exact hcopy k hk _
  load := by
    intro w m id w' hl h
    rw [load_eq hl]
    intro d l hl
    rcases List.mem_append.1 (List.mem_of_getElem? hl) with hl | hl
    · obtain ⟨n, hn⟩ := List.getElem?_of_mem hl
      obtain ⟨k, hk⟩ := h ⟨n⟩ l hn
      exact ⟨k, ManagedImage.module?_of_isPrefix (List.prefix_append _ _) hk⟩
    · obtain ⟨spec, _, rfl⟩ := List.mem_map.1 hl
      exact ⟨_, w.image.module?_nextModule m⟩
  create := by
    intro w c o w' hc h
    obtain ⟨i, _, rfl⟩ := create_eq hc
    exact h
  staged _ _ h := h
  observed _ _ h := h
  named _ _ h := h
  recorders _ h := h
  confined := by
    intro w D image hc h d l hl
    have hinfo := hc.class_info d
    rw [hl] at hinfo
    obtain ⟨k, hk, he⟩ := Option.map_eq_some_iff.1 hinfo.symm
    obtain ⟨module, hm⟩ := h d k hk
    rw [he] at hm
    exact ⟨module, (hc.module? _).trans hm⟩

theorem Managed.Step.registered {w w' : Process} (hs : Step w w') : Registered w → Registered w' :=
  hs.keeps registered_held fun w image hr h d l hl => by
    rw [ManagedImage.class?, hr.classes] at hl
    obtain ⟨k, hk⟩ := h d l hl
    exact hr.module?_isSome hk

theorem Managed.Started.registered {w : Process} (h : Started w) : Registered w := by
  induction h with
  | empty w himage _ =>
    intro c k hk
    rw [himage] at hk
    cases hk
  | step _ hs ih => exact hs.registered ih

end Registration

section Load

/-- A class of a module and a descriptor from before the module that the class takes the place of:
the module declares its name once, and the layout is the same. -/
structure Succeeds (before after : ManagedImage) (m : ModuleId) (c d : ClassId)
    (new old : LinkedClass) : Prop where
  declared : c ∈ CodeImage.classesIn after m
  isNew : after.class? c = some new
  plain : new.info.isGeneric = false ∧ new.info.derivesFromGeneric = false
  once : ∀ e ∈ CodeImage.classesIn after m, ∀ k, after.class? e = some k →
    k.info.name = new.info.name → e = c
  isOld : before.class? d = some old
  name : old.info.name = new.info.name
  layout : old.info.size = new.info.size ∧ old.info.addressPoint = new.info.addressPoint
  slots : old.slots.length = new.slots.length

/-- A patch brings an old version to the new one, also where it is patched in place afterwards, if
patching in place leaves alone what it got. -/
theorem PatchPass.slotAt?_patchClasses_of_fixed {policy : SlotPolicy} {p : PatchPass ManagedImage}
    (hnames : policy.Names p.image) (h : p.Ready p.image) (rules : PatchRules) {m : ModuleId}
    {c d : ClassId} {k l : LinkedClass} (hc : c ∈ CodeImage.classesIn p.image m)
    (hl : p.image.class? c = some l)
    (hplain : l.info.isGeneric = false ∧ l.info.derivesFromGeneric = false)
    (honce : ∀ e ∈ CodeImage.classesIn p.image m, ∀ j, p.image.class? e = some j →
      j.info.name = l.info.name → e = c)
    (hk : p.image.class? d = some k) (hname : k.info.name = l.info.name) {n : Nat}
    (hd : Versions.sequenceOf? p.image d = some n) (hlt : n < m.number)
    (hlayout : layoutChange? k.info l.info = none) (hlength : k.slots.length = l.slots.length)
    {i : Nat} {b : Address} (hb : policy.brought p.image m p.image d c i = some b)
    (hfixed : policy.inPlace p.image m i b = b) :
    (patchClasses policy rules m p).image.slotAt? d i = some b := by
  have hconfined := patchEachClass_confined policy m (CodeImage.classesIn p.image m) ([], p)
  have hready : ((CodeImage.classesIn p.image m).foldl (patchClass policy m) ([], p)).2.Ready
      p.image := patchEachClass_ready h _
  have hsome : (p.image.class? d).isSome := by simp [hk]
  -- Classes come first. What they brought, the generic definitions may visit again.
  rw [patchClasses_eq, slotAt?_patchEachGeneric h.linked hnames hready rules
    (hconfined.class?_isSome d ▸ hsome), slotAt?_patchEachClass policy p h hc hl hplain.1 hplain.2
    honce hk hname hd hlt hlayout hlength, hb]
  split
  · rw [Option.map_some, hfixed]
  · rfl

variable {r : Reloader} {w : Process} {loop : MainLoop} {path : Path} {report : LoadReport}
  {c d : ClassId} {new old : LinkedClass}

/-- A descriptor from before the load has an earlier sequence number than the module. -/
theorem Reloader.Landed.exists_sequenceOf? {after : Loaded ManagedImage} {m : ModuleId}
    {before : ManagedImage} {spec : ModuleSpec Body} {done : Interposition.Absorbed ManagedImage}
    (h : Landed r w after m before spec done) (hregistered : Managed.Registered w)
    (hold : w.image.class? d = some old) :
    ∃ n, Versions.sequenceOf? (before.link spec).2 d = some n ∧ n < before.nextModule.number := by
  have hlinked := h.class?_linked hold
  obtain ⟨l, hl⟩ := hregistered d old hold
  obtain ⟨staged, rfl⟩ := h.restaged
  have hmodule : ({ w.image with staged }.link spec).2.module? old.info.module = some l :=
    ManagedImage.module?_of_isPrefix (List.prefix_append _ _) hl
  refine ⟨old.info.module.number, ?_, ?_⟩
  · simp [Versions.sequenceOf?, CodeImage.info?, CodeImage.sequence?, hlinked, hmodule]
  · exact Nat.lt_succ_of_le (ManagedImage.number_of_module? hl).2

namespace Succeeds

variable {after : Loaded ManagedImage} {m : ModuleId} {before : ManagedImage}
  {spec : ModuleSpec Body} {done : Interposition.Absorbed ManagedImage}

theorem linked (hc : Succeeds w.image after.world.image m c d new old)
    (h : Reloader.Landed r w after m before spec done) (hw : Valid w) :
    Succeeds w.image (before.link spec).2 before.nextModule c d new old := by
  have hdeclared := hc.declared
  rw [h.classesIn] at hdeclared
  refine ⟨?_, ?_, hc.plain, ?_, hc.isOld, hc.name, hc.layout, hc.slots⟩
  · rwa [ManagedImage.classesIn_nextModule]
  · rw [← h.class?_own hw hdeclared]
    exact hc.isNew
  · intro e he k hk
    rw [ManagedImage.classesIn_nextModule] at he
    rw [← h.class?_own hw he] at hk
    rw [← h.classesIn] at he
    exact hc.once e he k hk

/-- A slot of the new version holds what a name was bound to. -/
theorem exists_bindName (hc : Succeeds w.image after.world.image m c d new old)
    (h : Reloader.Landed r w after m before spec done) (hw : Valid w) {i : Nat} {a : Address}
    (ha : after.world.image.slotAt? c i = some a) :
    ∃ name, a = before.bindName (before.linked spec) name := by
  have hc' := hc.linked h hw
  rw [ManagedImage.slotAt?_eq hc.isNew, ← ManagedImage.slotAt?_eq hc'.isNew] at ha
  have hdeclared := hc'.declared
  rw [ManagedImage.classesIn_nextModule] at hdeclared
  exact ManagedImage.slotAt?_link hdeclared ha

theorem slotAt?_isSome (hc : Succeeds w.image after.world.image m c d new old) {i : Nat}
    {a : Address} (ha : after.world.image.slotAt? c i = some a) :
    ∃ current, w.image.slotAt? d i = some current := by
  rw [ManagedImage.slotAt?_eq hc.isNew] at ha
  have hlt := (List.getElem?_eq_some_iff.1 ha).1
  rw [List.length_map, ← hc.slots] at hlt
  rw [ManagedImage.slotAt?_eq hc.isOld]
  exact ⟨_, List.getElem?_eq_getElem (by rwa [List.length_map])⟩

theorem slotAt? (hc : Succeeds w.image after.world.image m c d new old)
    (h : Reloader.Landed r w after m before spec done) (hr : Reliable r w)
    (hregistered : Managed.Registered w) {i : Nat} (hi : i ≠ 0) {a : Address} {s : Symbol}
    (ha : after.world.image.slotAt? c i = some a) (hs : (before.link spec).2.symbol? a = some s)
    (hbound : before.Bound spec a s) (hp : s.kind.patchable r.settings.preserveStatics = true) :
    after.world.image.slotAt? d i =
      some (SlotPolicy.newest ⟨r.table, r.settings.preserveStatics⟩ s a before.nextModule) := by
  have hc' := hc.linked h hr.valid
  obtain ⟨current, hcurrent⟩ := hc.slotAt?_isSome ha
  have hold := h.class?_linked hc.isOld
  rw [ManagedImage.slotAt?_eq hc.isNew, ← ManagedImage.slotAt?_eq hc'.isNew] at ha
  rw [ManagedImage.slotAt?_eq hc.isOld, ← ManagedImage.slotAt?_eq hold] at hcurrent
  have hbrought : SlotPolicy.brought ⟨r.table, r.settings.preserveStatics⟩ (before.link spec).2
      before.nextModule (before.link spec).2 d c i = _ :=
    SlotPolicy.brought_of_some hi hcurrent ha (SlotPolicy.target?_of_patchable hs hp)
  obtain ⟨n, hsequence, hlt⟩ := h.exists_sequenceOf? hregistered hc.isOld
  rw [h.slotAt? hold]
  exact PatchPass.slotAt?_patchClasses_of_fixed (p := ⟨_, _, _⟩) (h.names hr) (h.served hr) _
    hc'.declared hc'.isNew hc'.plain hc'.once hold hc.name hsequence hlt
    (if_pos hc.layout) hc.slots hbrought (hbound.inPlace_newest hs (h.names hr) i)

theorem of_single {before after : ManagedImage} {m : ModuleId}
    (hclasses : CodeImage.classesIn after m = [c]) (hnew : after.class? c = some new)
    (hplain : new.info.isGeneric = false ∧ new.info.derivesFromGeneric = false)
    (hold : before.class? d = some old) (hname : old.info.name = new.info.name)
    (hlayout : old.info.size = new.info.size ∧ old.info.addressPoint = new.info.addressPoint)
    (hslots : old.slots.length = new.slots.length) : Succeeds before after m c d new old where
  declared := hclasses ▸ List.mem_cons_self
  isNew := hnew
  plain := hplain
  once _ he _ _ _ := List.mem_singleton.1 (hclasses ▸ he)
  isOld := hold
  name := hname
  layout := hlayout
  slots := hslots

end Succeeds

/-- After a load, an old version of a class holds the newest implementation wherever the new version
holds a patchable symbol. The new version holds the same if its module defines the symbol;
otherwise it holds that of the first module that exports the name. -/
theorem Hosted.slotAt?_load_own (h : Hosted r w) (hr : (r.load loop w path).result = .ok report)
    (hc : Succeeds w.image (r.load loop w path).world.image report.module c d new old) {i : Nat}
    (hi : i ≠ 0) {a : Address} {s : Symbol}
    (ha : (r.load loop w path).world.image.slotAt? c i = some a)
    (hs : SymbolCache.search (r.load loop w path).world.image a (some report.module) = some s)
    (hp : s.kind.patchable r.settings.preserveStatics = true) :
    let after := r.load loop w path
    ∃ b, after.world.image.slotAt? d i = some b ∧
      after.reloader.table.address? s.name = some b ∧
      (s.module = report.module → b = a) ∧
      (s.module ≠ report.module →
        CodeImage.address? after.world.image report.module s.name = none ∧
          w.image.firstExport? s.name = some a) := by
  have hup := UpToDate.of_hosted h
  obtain ⟨before, spec, done, hlanded⟩ := Reloader.exists_landed hr
  obtain ⟨name, hname⟩ := hc.exists_bindName hlanded hup.valid ha
  obtain ⟨hsymbol, hbound⟩ := hlanded.bound_of_search hup.reliable hname hs
  exact ⟨_, hc.slotAt? hlanded hup.reliable h.shared.isStarted.registered hi ha hsymbol hbound hp,
    hlanded.newest_of_bound hup hsymbol hbound hp⟩

end Load

namespace Succeeds

open Hosted (slotAt?_load_own)

def shape : ClassSpec := { name := "Shape", slots := [("area", "Shape.area")] }

def first : Loaded ManagedImage := loadedOnce shape "Shape.area"

def second : Loaded ManagedImage := loadedTwice shape "Shape.area"

def third : Loaded ManagedImage := loadedThrice shape "Shape.area"

theorem hosted_first : Hosted first.reloader first.world :=
  (fresh_hosted false).loadSpec _ (by decide)

theorem hosted_second : Hosted second.reloader second.world := hosted_first.loadSpec _ (by decide)

theorem slotAt?_load_own_twice : ∃ report, second.result = .ok report ∧ ∃ b,
    second.world.image.slotAt? ⟨0⟩ 1 = some b ∧
      second.reloader.table.address? "Shape.area" = some b ∧ b = ⟨0x1020⟩ := by
  obtain ⟨report, hresult, hmodule⟩ : ∃ report, second.result = .ok report ∧
      report.module = ⟨2⟩ := ⟨_, rfl, rfl⟩
  have hclasses : CodeImage.classesIn second.world.image report.module = [⟨1⟩] := by
    rw [hmodule]
    decide
  have hsucceeds : Succeeds (staged first.world (oneClass shape [("Shape.area", 2)])).image
      second.world.image report.module ⟨1⟩ ⟨0⟩ _ _ :=
    .of_single hclasses rfl (by decide) rfl (by decide) (by decide) (by decide)
  obtain ⟨b, hb, htable, hown, _⟩ := slotAt?_load_own (hosted_first.staged _) hresult hsucceeds
    (i := 1) (a := ⟨0x1020⟩) (s := ⟨"Shape.area", ⟨0x1020⟩, ⟨2⟩, .method⟩) (by decide) (by decide)
    (by rw [hmodule]; decide) (by decide)
  exact ⟨report, hresult, b, hb, htable, hown hmodule.symm⟩

/-- Both versions need not agree where the new version inherits its method. -/
theorem not_slotAt?_load_eq :
    ¬∀ (r : Reloader) (w : Process) (loop : MainLoop) (path : Path) (report : LoadReport)
      (c d : ClassId) (new old : LinkedClass) (i : Nat) (a : Address) (s : Symbol), Hosted r w →
      (r.load loop w path).result = .ok report →
      Succeeds w.image (r.load loop w path).world.image report.module c d new old → i ≠ 0 →
      (r.load loop w path).world.image.slotAt? c i = some a →
      SymbolCache.search (r.load loop w path).world.image a (some report.module) = some s →
      s.kind.patchable r.settings.preserveStatics = true →
      (r.load loop w path).world.image.slotAt? d i = some a := by
  intro h
  obtain ⟨report, hresult, hmodule⟩ : ∃ report, third.result = .ok report ∧
      report.module = ⟨3⟩ := ⟨_, rfl, rfl⟩
  have hclasses : CodeImage.classesIn third.world.image report.module = [⟨2⟩] := by
    rw [hmodule]
    decide
  have hsucceeds : Succeeds (staged second.world (oneClass shape [])).image
      third.world.image report.module ⟨2⟩ ⟨0⟩ _ _ :=
    .of_single hclasses rfl (by decide) rfl (by decide) (by decide) (by decide)
  have hsame := h _ _ loop stagePath report ⟨2⟩ ⟨0⟩ _ _ 1 ⟨0x1000⟩
    ⟨"Shape.area", ⟨0x1000⟩, ⟨1⟩, .method⟩ (hosted_second.staged _) hresult hsucceeds (by decide)
    (by decide) (by rw [hmodule]; decide) (by decide)
  have hnewest : third.world.image.slotAt? ⟨0⟩ 1 = some ⟨0x1020⟩ := by decide
  cases hnewest.symm.trans hsame

end Succeeds

end HotReload
