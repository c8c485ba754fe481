import Mathlib.Logic.Relation
import HotReload.Proofs.Registries

/-! # Specializing

A specialization is created once: whoever asks for it again gets the newest descriptor of its name,
and that is the same one until a module registers a descriptor of the very name. Its tables are
copies of those of the newest definition, and no write through another descriptor reaches them.
-/

namespace HotReload

open Relation (ReflTransGen)

open Managed (Command Extends Held Process Step specialize)

section Latest

variable {image after : ManagedImage} {name : String} {c : ClassId}

theorem ManagedImage.latestClass?_eq (image : ManagedImage) (name : String) :
    image.latestClass? name = ((image.named.filter (·.2 == name)).map (·.1)).getLast? := by
  simp only [latestClass?, classIdsWhere, named, List.zipIdx_map, List.map_map, List.filter_map]
  rfl

theorem ManagedImage.mem_named_of_latestClass? (h : image.latestClass? name = some c) :
    (c, name) ∈ image.named := by
  rw [latestClass?_eq] at h
  obtain ⟨⟨_, n⟩, he, rfl⟩ := List.mem_map.1 (List.mem_of_getLast? h)
  obtain ⟨he, hn⟩ := List.mem_filter.1 he
  rwa [← beq_iff_eq.1 hn]

/-- The newest descriptor of a name stays the newest unless there is another of that name. -/
theorem ManagedImage.latestClass?_append {more : List (ClassId × String)}
    (hnamed : after.named = image.named ++ more) (hc : image.latestClass? name = some c) :
    ∃ d, after.latestClass? name = some d ∧ (d = c ↔ ∀ e ∈ more, e.2 ≠ name) := by
  have hafter : after.latestClass? name =
      ((more.filter (·.2 == name)).map (·.1)).getLast?.or (some c) := by
    rw [latestClass?_eq, hnamed, List.filter_append, List.map_append, List.getLast?_append,
      ← latestClass?_eq, hc]
  cases hlast : ((more.filter (·.2 == name)).map (·.1)).getLast? with
  | none =>
    rw [hlast] at hafter
    rw [List.getLast?_eq_none_iff, List.map_eq_nil_iff, List.filter_eq_nil_iff] at hlast
    exact ⟨c, hafter, fun _ e he => by simpa using hlast e he, fun _ => rfl⟩
  | some d =>
    rw [hlast] at hafter
    obtain ⟨e, he, rfl⟩ := List.mem_map.1 (List.mem_of_getLast? hlast)
    obtain ⟨he, hname⟩ := List.mem_filter.1 he
    have hlt : c.index < e.1.index := by
      have hpairwise := after.named_pairwise
      rw [hnamed, List.pairwise_append] at hpairwise
      exact hpairwise.2.2 _ (mem_named_of_latestClass? hc) e he
    refine ⟨e.1, hafter, fun heq => ?_, fun hall => absurd (beq_iff_eq.1 hname) (hall e he)⟩
    rw [heq] at hlt
    exact absurd hlt (Nat.lt_irrefl _)

end Latest

namespace Managed

theorem Extends.classesIn {w w' : Process} (h : Extends w w') {m : ModuleId} {k : LinkedModule}
    (hk : w.image.module? m = some k) :
    CodeImage.classesIn w'.image m = CodeImage.classesIn w.image m := by
  obtain ⟨l, hl, he⟩ := h.module? hk
  have hclasses : l.unbound.classes = k.unbound.classes := congrArg LinkedModule.classes he
  change l.classes = k.classes at hclasses
  simp [CodeImage.classesIn, hk, hl, hclasses]

/-- A module that was loaded between two processes registered a descriptor of the name. -/
def Redeclared (name : String) (w w' : Process) : Prop :=
  ∃ m, w.image.module? m = none ∧
    ∃ c ∈ CodeImage.classesIn w'.image m, ∃ k, w'.image.class? c = some k ∧ k.info.name = name

/-- From one process to another, only modules bring new descriptors of a name. -/
structure NamedByModules (name : String) (w w' : Process) : Prop where
  modules : Extends w w'
  added : ∃ more, w'.image.named = w.image.named ++ more ∧ ∀ e ∈ more, e.2 = name →
    ∃ m, w.image.module? m = none ∧ e.1 ∈ CodeImage.classesIn w'.image m
  fresh : ∀ m, w.image.module? m = none → ∀ c ∈ CodeImage.classesIn w'.image m,
    w.image.classes.length ≤ c.index

namespace NamedByModules

variable {name : String} {u v w w' : Process}

theorem of_same (hnamed : w'.image.named = w.image.named)
    (hmodules : w'.image.modules.map (·.unbound) = w.image.modules.map (·.unbound)) :
    NamedByModules name w w' where
  modules := by
    unfold Extends
    simp [hmodules]
  added := ⟨[], by simp [hnamed], fun e he => absurd he List.not_mem_nil⟩
  fresh m hm c hc := by
    rw [ManagedImage.classesIn_of_unbound hmodules] at hc
    obtain ⟨k, hk, _⟩ := ManagedImage.mem_classesIn.1 hc
    cases hm.symm.trans hk

theorem of_image (h : NamedByModules name w v) (hi : w'.image = v.image) :
    NamedByModules name w w' := by
  refine ⟨?_, ?_, ?_⟩
  · rw [Extends, hi]
    exact h.modules
  · rw [hi]
    exact h.added
  · rw [hi]
    exact h.fresh

theorem trans (h : NamedByModules name u v) (h' : NamedByModules name v w) :
    NamedByModules name u w := by
  obtain ⟨more, hmore, hnew⟩ := h.added
  obtain ⟨more', hmore', hnew'⟩ := h'.added
  have hlength : u.image.classes.length ≤ v.image.classes.length := by
    have hl := congrArg List.length hmore
    simp [ManagedImage.named] at hl
    omega
  have hnone {m : ModuleId} (hm : v.image.module? m = none) : u.image.module? m = none := by
    cases hu : u.image.module? m with
    | none => rfl
    | some k =>
      obtain ⟨l, hl, _⟩ := h.modules.module? hu
      cases hm.symm.trans hl
  refine ⟨h.modules.trans h'.modules, ⟨more ++ more', ?_, ?_⟩, ?_⟩
  · rw [hmore', hmore, List.append_assoc]
  · intro e he hname
    rcases List.mem_append.1 he with he | he
    · obtain ⟨m, hm, hc⟩ := hnew e he hname
      obtain ⟨k, hk, _⟩ := ManagedImage.mem_classesIn.1 hc
      exact ⟨m, hm, (h'.modules.classesIn hk).symm ▸ hc⟩
    · obtain ⟨m, hm, hc⟩ := hnew' e he hname
      exact ⟨m, hnone hm, hc⟩
  · intro m hm c hc
    cases hv : v.image.module? m with
    | none => exact Nat.le_trans hlength (h'.fresh m hv c hc)
    | some k =>
      rw [h'.modules.classesIn hv] at hc
      exact h.fresh m hm c hc

theorem link (w : Process) (m : ModuleSpec Body) :
    NamedByModules name w { w with image := (w.image.link m).2 } where
  modules := (List.prefix_append _ _).map _
  added := by
    refine ⟨_, w.image.named_link m, fun e he _ => ⟨w.image.nextModule, ?_, ?_⟩⟩
    · simp [ManagedImage.nextModule, ManagedImage.module?]
    · rw [ManagedImage.classesIn_nextModule]
      obtain ⟨d, hd, rfl⟩ := List.mem_map.1 he
      exact List.mem_map.2 ⟨d, hd, rfl⟩
  fresh id hid c hc := by
    obtain ⟨k, hk, hc⟩ := ManagedImage.mem_classesIn.1 hc
    obtain hold | ⟨_, rfl⟩ := w.image.module?_link m hk
    · cases hid.symm.trans hold
    · exact w.image.index_of_mem_linked m hc

/-- An allocation under another name. -/
theorem addClass (w : Process) {k : LinkedClass} (hk : k.info.name ≠ name) :
    NamedByModules name w { w with image := w.image.addClass k } where
  modules := List.prefix_refl _
  added := by
    refine ⟨_, w.image.named_addClass k, fun e he hname => ?_⟩
    rw [List.mem_singleton.1 he] at hname
    exact absurd hname hk
  fresh m hm c hc := by
    obtain ⟨k, hk, _⟩ := ManagedImage.mem_classesIn.1 hc
    cases hm.symm.trans hk

theorem latest (h : NamedByModules name w w') {c : ClassId}
    (hc : w.image.latestClass? name = some c) :
    ∃ d, w'.image.latestClass? name = some d ∧ (d = c ↔ ¬Redeclared name w w') := by
  obtain ⟨more, hmore, hadded⟩ := h.added
  obtain ⟨d, hd, hiff⟩ := ManagedImage.latestClass?_append hmore hc
  refine ⟨d, hd, hiff.trans ?_⟩
  constructor
  · rintro hall ⟨m, hm, e, he, k, hk, hname⟩
    have hin : (e, name) ∈ w'.image.named := ManagedImage.mem_named.2 ⟨k, hk, hname⟩
    rw [hmore] at hin
    rcases List.mem_append.1 hin with hin | hin
    · have hlt := ManagedImage.index_lt_of_mem_named hin
      exact absurd (h.fresh m hm e he) (Nat.not_le_of_lt hlt)
    · exact hall _ hin rfl
  · intro hnone e he hname
    obtain ⟨m, hm, hin⟩ := hadded e he hname
    have hnamed : e ∈ w'.image.named := hmore ▸ List.mem_append_right _ he
    obtain ⟨k, hk, hkname⟩ := ManagedImage.mem_named.1 hnamed
    exact hnone ⟨m, hm, e.1, hin, k, hk, hkname.trans hname⟩

end NamedByModules

/-- Once there is a descriptor of a name, nothing but a module brings another. -/
theorem namedByModules_held (name : String) :
    Held fun w w' => w.image.latestClass? name ≠ none → NamedByModules name w w' where
  refl w _ := .of_same rfl rfl
  trans h h' hu := by
    have huv := h hu
    obtain ⟨c, hc⟩ := Option.ne_none_iff_exists'.1 hu
    obtain ⟨d, hd, _⟩ := huv.latest hc
    exact huv.trans (h' (by rw [hd]; exact Option.some_ne_none d))
  setField w o field v _ := by
    unfold World.setField
    split <;> exact .of_same rfl rfl
  write _ _ _ := .of_same rfl rfl
  count _ _ _ := .of_same rfl rfl
  specialize := by
    intro w definition arguments c w' hs hw
    obtain ⟨_, rfl⟩ | ⟨k, hnone, _, rfl, rfl⟩ := specialize_eq_ok_iff.1 hs
    · exact .of_same rfl rfl
    · have hne : TypeName.specialized definition arguments ≠ name := fun he => hw (he ▸ hnone)
      exact .of_image (.addClass w (k := k.specialized _) hne) (noted_image _ _)
  load := by
    intro w m id w' hl _
    rw [load_eq hl]
    exact .link w m
  create := by
    intro w c o w' hc _
    obtain ⟨i, _, rfl⟩ := create_eq hc
    exact .of_same rfl rfl
  staged _ _ _ := .of_same rfl rfl
  observed _ _ _ := .of_same rfl rfl
  named _ _ _ := .of_same rfl rfl
  recorders _ _ := .of_same rfl rfl
  confined := by
    intro w D image hc _
    exact .of_same hc.named (by rw [hc.modules])

theorem namedByModules_of_steps {name : String} {w w' : Process} (h : ReflTransGen Step w w') :
    w.image.latestClass? name ≠ none → NamedByModules name w w' := by
  induction h with
  | refl => exact (namedByModules_held name).refl w
  | tail _ hs ih =>
    refine (namedByModules_held name).trans ih (hs.keeps (namedByModules_held name) ?_)
    intro w image hr _
    exact .of_same (ManagedImage.named_congr (by rw [hr.classes])) hr.unbound

theorem latestClass?_specialize {w w' : Process} {definition : String} {arguments : List String}
    {c : ClassId} (h : specialize w definition arguments = .ok (c, w')) :
    w'.image.latestClass? (TypeName.specialized definition arguments) = some c := by
  obtain ⟨hc, rfl⟩ | ⟨k, _, _, rfl, rfl⟩ := specialize_eq_ok_iff.1 h
  · exact hc
  · rw [noted_image, ManagedImage.latestClass?_eq, ManagedImage.named_addClass]
    simp [List.filter_append, LinkedClass.specialized]

/-- Asking again gives the newest descriptor of the name, and that is the same one unless a module
has registered one of the name. -/
theorem specialize_again {w w₁ w₂ : Process} {definition : String} {arguments : List String}
    {c : ClassId} (h : specialize w definition arguments = .ok (c, w₁))
    (hs : ReflTransGen Step w₁ w₂) :
    let name := TypeName.specialized definition arguments
    ∃ d, specialize w₂ definition arguments = .ok (d, w₂) ∧ w₂.image.latestClass? name = some d ∧
      (d = c ↔ ¬Redeclared name w₁ w₂) := by
  have hc := latestClass?_specialize h
  have hnamed := namedByModules_of_steps hs (by rw [hc]; exact Option.some_ne_none c)
  obtain ⟨d, hd, hiff⟩ := hnamed.latest hc
  exact ⟨d, specialize_of_latest hd, hd, hiff⟩

end Managed

def ManagedImage.Writes (image : ManagedImage) (c : ClassId) (after : ManagedImage) : Prop :=
  (∃ index a, image.writeSlot c index a = .ok after) ∨
    ∃ t selector a, image.replaceSelector c t selector a = .ok after

theorem ManagedImage.Writes.class? {image after : ManagedImage} {c d : ClassId}
    (h : image.Writes c after) (hd : d ≠ c) : after.class? d = image.class? d := by
  obtain ⟨_, _, h⟩ | ⟨_, _, _, h⟩ := h
  · exact (writeSlot_confined h).outside d hd
  · exact (replaceSelector_confined h).outside d hd

namespace Registries

variable {gs : List Registry} {w : Process} {g : Registry}

/-- The only registry that is installed is the one that the image records into. -/
theorem stop_eq_none (h : Registries gs w) (hg : g ∈ gs) (hi : g.tracker.isInstalled = true)
    (hsingle : ∀ g' ∈ gs, g'.tracker.isInstalled = true → g' = g) : g.stop = none := by
  obtain ⟨g', hg', hrecorder⟩ := h.consistent.occupied g hg hi
  cases hi' : g'.tracker.isInstalled with
  | true =>
    rw [hsingle g' hg' hi'] at hrecorder
    exact (h.consistent.records g hg hi).current.2 hrecorder
  | false => exact absurd hrecorder (h.consistent.idle g' hg' hi').current

/-- Where one registry is installed, it has recorded exactly what has been allocated since, in the
order of allocation. A specialization under a new name is one new descriptor, a copy of the newest
definition, and no write through another descriptor reaches it. Asked for again, it is the same
unless a module loaded meanwhile has registered a descriptor of its name. -/
theorem specialize_tracked (h : Registries gs w) (hg : g ∈ gs)
    (hi : g.tracker.state = .installed)
    (hsingle : ∀ g' ∈ gs, g'.tracker.state = .installed → g' = g) :
    (∀ base, (w.recorded g.tracker.recorder).under base =
        w.image.allocatedUnder g.since none base ∧
      (w.image.allocatedUnder g.since none base).Pairwise (·.index < ·.index)) ∧
    (∀ definition arguments k,
      let name := TypeName.specialized definition arguments
      let c : ClassId := ⟨w.image.classes.length⟩
      w.image.latestClass? name = none → w.image.newestDefinition? definition = some k →
        ∃ w₁, specialize w definition arguments = .ok (c, w₁) ∧
          w₁.image.classes = w.image.classes ++ [k.specialized name] ∧
          w₁.image.allocated = w.image.allocated ++ [(c, name)]) ∧
    ∀ definition arguments c w₁ w₂, specialize w definition arguments = .ok (c, w₁) →
      ReflTransGen Step w₁ w₂ →
      (let name := TypeName.specialized definition arguments
        ∃ d, specialize w₂ definition arguments = .ok (d, w₂) ∧
          w₂.image.latestClass? name = some d ∧ (d = c ↔ ¬Managed.Redeclared name w₁ w₂)) ∧
      ∀ d after, w₂.image.Writes d after → ∀ e, e ≠ d → after.class? e = w₂.image.class? e := by
  have hinstalled (g' : Registry) : g'.tracker.isInstalled = true ↔ g'.tracker.state = .installed :=
    beq_iff_eq
  refine ⟨fun base => ⟨?_, ?_⟩, ?_, ?_⟩
  · have hstop := h.stop_eq_none hg ((hinstalled g).2 hi) fun g' hg' hi' =>
      hsingle g' hg' ((hinstalled g').1 hi')
    rw [(h.consistent.records g hg ((hinstalled g).2 hi)).under base, hstop]
  · exact List.pairwise_map.2 (w.image.allocated_pairwise.filter _)
  · intro definition arguments k name c hnone hk
    refine ⟨Managed.noted { w with image := w.image.addClass (k.specialized name) } c name,
      ?_, ?_, ?_⟩
    · exact Managed.specialize_of_newest hnone hk
    · rw [Managed.noted_image]
      rfl
    · rw [Managed.noted_image]
      exact h.consistent.valid.allocated_addClass _
  · intro definition arguments c w₁ w₂ hc hs
    exact ⟨Managed.specialize_again hc hs, fun d after hw e he => hw.class? he⟩

def boxInt : Process := (Command.specialize "Box" ["Int"]).perform boxed

theorem boxInt_registry : Registries [sole] boxInt :=
  sole_registry.step (.act (.specialize "Box" ["Int"]) boxed) rfl

def reloaded : Process := (Command.load box).perform boxInt

theorem specialize_tracked_box : (boxInt.recorded ⟨0⟩).under "Box" = [⟨1⟩] ∧
    (∃ w₁, specialize boxInt "Box" ["String"] = .ok (⟨2⟩, w₁) ∧
      w₁.image.allocated = [(⟨1⟩, "Box<Int>"), (⟨2⟩, "Box<String>")]) ∧
    ∃ d, specialize reloaded "Box" ["Int"] = .ok (d, reloaded) ∧
      reloaded.image.latestClass? "Box<Int>" = some d ∧
      (d = ⟨1⟩ ↔ ¬Managed.Redeclared "Box<Int>" boxInt reloaded) := by
  obtain ⟨htable, hnew, hagain⟩ := specialize_tracked boxInt_registry (g := sole) (by decide) rfl
    (by decide)
  obtain ⟨k, hk⟩ : ∃ k, boxInt.image.newestDefinition? "Box" = some k := ⟨_, rfl⟩
  obtain ⟨w₁, hw₁, _, hallocated⟩ := hnew "Box" ["String"] k (by decide) hk
  have hsteps : ReflTransGen Step boxInt reloaded := .single (.act (.load box) boxInt)
  obtain ⟨hint, _⟩ := hagain "Box" ["Int"] ⟨1⟩ boxInt reloaded rfl hsteps
  exact ⟨(htable "Box").1.trans (by decide), ⟨w₁, hw₁, hallocated.trans (by decide)⟩, hint⟩

def redeclared : Process := (Command.load (oneClass { name := "Box<Int>" } [])).perform boxInt

/-- The descriptor of a specialization need not stay the one that is found. -/
theorem not_specialize_same :
    ¬∀ (gs : List Registry) (w : Process) (g : Registry), Registries gs w → g ∈ gs →
      g.tracker.state = .installed → (∀ g' ∈ gs, g'.tracker.state = .installed → g' = g) →
      ∀ definition arguments c w₁ w₂ d w₃, specialize w definition arguments = .ok (c, w₁) →
        ReflTransGen Step w₁ w₂ → specialize w₂ definition arguments = .ok (d, w₃) → d = c := by
  intro h
  have hsteps : ReflTransGen Step boxInt redeclared := .single (.act (.load _) boxInt)
  have heq := h [sole] boxInt sole boxInt_registry (by decide) rfl (by decide) "Box" ["Int"] ⟨1⟩
    boxInt redeclared ⟨2⟩ redeclared rfl hsteps rfl
  exact absurd heq (by decide)

end Registries

end HotReload
