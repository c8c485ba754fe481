import HotReload.Proofs.Sharing

/-! # Layout safety

Old versions of a class are patched only while their layout is that of the new version. Recorded
specializations are patched whatever their layout is: in place, toward the newest implementations
of the symbols that their slots hold.
-/

namespace HotReload

open Managed (Process)

section Load

variable {r : Reloader} {w : Process} {path : Path} {m : ModuleId} {image : ManagedImage}
  {d : ClassId} {k : LinkedClass}

/-- A class redefines the descriptors of its name and, if it is a generic definition, the recorded
specializations of its base. -/
def Redefines (recorded : Specializations) (new : ClassInfo) (d : ClassId) (old : ClassInfo) :
    Prop :=
  new.name = old.name ∨
    new.isGeneric = true ∧ new.base = old.base ∧ d ∈ recorded.under new.base

/-- No class of the module that redefines the descriptor has its layout. -/
def LayoutChanged (image : ManagedImage) (recorded : Specializations) (m : ModuleId) (d : ClassId)
    (old : ClassInfo) : Prop :=
  ∀ c ∈ CodeImage.classesIn image m, ∀ new, CodeImage.info? image c = some new →
    Redefines recorded new d old → layoutChange? old new ≠ none

theorem LayoutChanged.not_isOlderVersion {recorded : Specializations}
    (hk : image.class? d = some k) (h : LayoutChanged image recorded m d k.info) :
    ¬IsOlderVersion image m d := by
  rintro ⟨c, hc, hold⟩
  obtain ⟨⟨k', l, hk', hl, hname, hlayout⟩, _⟩ := IsOlderVersionOf.cases hold
  obtain rfl := Option.some.inj (hk.symm.trans hk')
  have hinfo : CodeImage.info? image c = some l.info := ManagedImage.info?_of_class? hl
  exact h c hc l.info hinfo (.inl hname.symm) hlayout

/-- The table of a reloader that is up to date names symbols of every image that grew out of the
process. -/
theorem UpToDate.names (h : UpToDate r w) {staged : List (Path × ModuleSpec Body)}
    (spec : ModuleSpec Body) :
    SlotPolicy.Names ⟨r.table, r.settings.preserveStatics⟩
      (ManagedImage.link { w.image with staged } spec).2 :=
  h.reliable.names.grow (ManagedImage.symbols_link _ spec)

/-- Redirecting call sites leaves the descriptors as the patch left them. -/
theorem Reloader.class?_of_patchIn {patched : Patched ManagedImage}
    (h : patchIn r w m = .ok patched) (c : ClassId) :
    patched.image.class? c = (r.patchPass w m m.number).image.class? c := by
  obtain ⟨done, hdone, himage, _⟩ := patchIn_cases h
  rw [himage, ManagedImage.class?, (Interposition.absorb_rebound hdone).classes]
  rfl

/-- A load leaves a descriptor alone when no class of the module that redefines it has its layout,
unless it is a recorded specialization of one of the module's generic definitions. Such a one has
its slots refreshed, and its layout is not looked at. -/
theorem Reloader.class?_patchIn (hload : CodeImage.loadModule w.image path = (.ok m, image))
    (hk : w.image.class? d = some k)
    (hlayout : LayoutChanged image (r.rules w).recorded m d k.info) :
    ∃ patched, patchIn { r with cache := r.cache.moduleLoaded } { w with image } m = .ok patched ∧
      (¬IsSpecialization image (r.rules w) m d → patched.image.class? d = some k) ∧
      (IsSpecialization image (r.rules w) m d → Hosted r w →
        ∀ i, patched.image.slotAt? d i = (w.image.slotAt? d i).map
          (SlotPolicy.inPlace ⟨r.table, r.settings.preserveStatics⟩ image m i)) := by
  obtain ⟨k', hk'⟩ := ManagedImage.loadStaged_isLoaded hload
  obtain ⟨patched, hpatched⟩ :=
    patchIn_isOk { r with cache := r.cache.moduleLoaded } { w with image } hk'
  obtain ⟨staged, spec, hspec⟩ := ManagedImage.loadStaged_ok hload
  obtain ⟨_, hi⟩ := ManagedImage.load_eq hspec
  have hclass : image.class? d = some k := by
    rw [hi]
    exact ManagedImage.class?_append hk
  have hold := hlayout.not_isOlderVersion hclass
  have hclasses := class?_of_patchIn hpatched
  refine ⟨patched, hpatched, ?_, ?_⟩
  · intro hspecial
    rw [hclasses, ← hclass]
    apply (patchPass_confined _ _ m m.number).outside
    rintro (h | h)
    · exact hold h
    · exact hspecial h
  · intro hspecial hhosted i
    have hup := UpToDate.of_hosted hhosted
    let p : PatchPass ManagedImage :=
      ⟨image, r.cache.moduleLoaded, { module := m, sequence := m.number }⟩
    have hready : p.Ready p.image := hup.served hi
    have hnames : SlotPolicy.Names ⟨r.table, r.settings.preserveStatics⟩ image := by
      rw [hi]
      exact hup.names spec
    have hsome : (image.class? d).isSome := by simp [hclass]
    have hslot := PatchPass.slotAt?_patchClasses_of_isSpecialization (p := p) hnames hready
      (r.rules w) hsome hold hspecial i
    have hbefore : image.slotAt? d i = w.image.slotAt? d i := by
      rw [ManagedImage.slotAt?_eq hclass, ManagedImage.slotAt?_eq hk]
    rw [ManagedImage.slotAt?, hclasses, ← hbefore]
    exact hslot

end Load

namespace Hosted

open Managed (Command)

def boxModule (size : Nat) (isGeneric : Bool) (area : Int) : ModuleSpec Body :=
  { name := "Boxes"
    functions := [⟨"Box.area", .method, .constant (.int area)⟩]
    classes := [{ name := "Box", size, isGeneric, slots := [("area", "Box.area")] }] }

def boxes : Path := ⟨[0x62]⟩

def observed : Reloader × Process := Reloader.start {} { image := .empty true }

def boxed (isGeneric : Bool) : Loaded ManagedImage :=
  observed.1.load (Reloader.loopFor {} false)
    ((Command.stage boxes (boxModule 16 isGeneric 1)).perform observed.2) boxes

/-- The class is specialized where it can be, and a larger version is staged. -/
def larger (isGeneric : Bool) : Process :=
  (Command.stage boxes (boxModule 32 isGeneric 2)).perform
    ((Command.specialize "Box" ["Int"]).perform (boxed isGeneric).world)

def grown (isGeneric : Bool) : ManagedImage :=
  (CodeImage.loadModule (larger isGeneric).image boxes).2

theorem larger_hosted (isGeneric : Bool) :
    Hosted (boxed isGeneric).reloader (larger isGeneric) := by
  have hstart : Hosted observed.1 observed.2 :=
    .start {} { image := .empty true } rfl fun s hs => absurd hs (Array.not_mem_empty s)
  have hstaged : Hosted observed.1
      ((Command.stage boxes (boxModule 16 isGeneric 1)).perform observed.2) :=
    .act _ hstart (by cases isGeneric <;> decide)
  have hboxed : Hosted (boxed isGeneric).reloader (boxed isGeneric).world :=
    .load _ boxes hstaged (by cases isGeneric <;> decide)
  have hspecial : Hosted (boxed isGeneric).reloader
      ((Command.specialize "Box" ["Int"]).perform (boxed isGeneric).world) :=
    .act _ hboxed (by cases isGeneric <;> decide)
  exact .act _ hspecial (by cases isGeneric <;> decide)

theorem larger_layoutChanged (isGeneric : Bool) (d : ClassId) (old : ClassInfo)
    (hold : old.size = 16) :
    LayoutChanged (grown isGeneric) ((boxed isGeneric).reloader.rules (larger isGeneric)).recorded
      ⟨2⟩ d old := by
  intro c hc new hnew _ hsame
  have hsize : ∀ c ∈ CodeImage.classesIn (grown isGeneric) ⟨2⟩,
      (CodeImage.info? (grown isGeneric) c).all (·.size == 32) = true := by
    cases isGeneric <;> decide
  have h := hsize c hc
  rw [hnew] at h
  have h32 : new.size = 32 := by simpa using h
  simp [layoutChange?, hold, h32] at hsame

theorem class?_patchIn_larger : ∃ patched,
    Reloader.patchIn
        { (boxed false).reloader with cache := (boxed false).reloader.cache.moduleLoaded }
        { larger false with image := grown false } ⟨2⟩ = .ok patched ∧
      patched.image.class? ⟨0⟩ = (larger false).image.class? ⟨0⟩ := by
  obtain ⟨k, hk⟩ : ∃ k, (larger false).image.class? ⟨0⟩ = some k := ⟨_, rfl⟩
  have hold : k.info.size = 16 := by
    have h : ((larger false).image.class? ⟨0⟩).map (·.info.size) = some 16 := by decide
    rw [hk] at h
    exact Option.some.inj h
  have hload : CodeImage.loadModule (larger false).image boxes = (.ok ⟨2⟩, grown false) := rfl
  obtain ⟨patched, hpatched, hclass, _⟩ :=
    Reloader.class?_patchIn hload hk (larger_layoutChanged false ⟨0⟩ k.info hold)
  refine ⟨patched, hpatched, hk ▸ hclass ?_⟩
  rintro ⟨_, c, hc, info, hinfo, hgeneric, _⟩
  have hplain : ∀ c ∈ CodeImage.classesIn (grown false) ⟨2⟩,
      (CodeImage.info? (grown false) c).all (!·.isGeneric) = true := by decide
  have h := hplain c hc
  rw [hinfo] at h
  simp [hgeneric] at h

/-- A specialization is patched although its definition grew. -/
theorem slotAt?_patchIn_larger : ∃ (r : Reloader) (w : Process) (path : Path) (m : ModuleId)
    (image : ManagedImage) (d : ClassId) (k : LinkedClass) (patched : Patched ManagedImage),
    Hosted r w ∧ CodeImage.loadModule w.image path = (.ok m, image) ∧
      w.image.class? d = some k ∧
      LayoutChanged image (r.rules w).recorded m d k.info ∧
      Reloader.patchIn { r with cache := r.cache.moduleLoaded } { w with image } m = .ok patched ∧
      patched.image.slotAt? d 1 ≠ w.image.slotAt? d 1 := by
  exact ⟨(boxed true).reloader, larger true, boxes, ⟨2⟩, _, ⟨1⟩, _, _, larger_hosted true, rfl, rfl,
    larger_layoutChanged true ⟨1⟩ _ rfl, rfl, by decide⟩

end Hosted

end HotReload
