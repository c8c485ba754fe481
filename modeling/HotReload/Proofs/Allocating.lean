import HotReload.Proofs.Filing

/-! # What is allocated

Every descriptor was either registered by a module or allocated as a specialization. Allocations are
only ever added, at the end. Between two installations of recorders one recorder, or none, gets to
know every new allocation, and no other recorder any.
-/

namespace HotReload

namespace ManagedImage

def isRegistered (image : ManagedImage) (c : ClassId) : Bool :=
  (image.modules.map (·.classes)).any (·.contains c)

/-- The descriptors with their names, in the order in which they came to be. -/
def named (image : ManagedImage) : List (ClassId × String) :=
  (image.classes.map (·.info.name)).zipIdx.map fun e => (⟨e.2⟩, e.1)

/-- The descriptors that no module registered, with their names, in the order in which they were
allocated. -/
def allocated (image : ManagedImage) : List (ClassId × String) :=
  image.named.filter fun e => !image.isRegistered e.1

/-- Those with a base that were allocated when there were so many descriptors, up to when there were
so many. -/
def allocatedUnder (image : ManagedImage) (since : Nat) (stop : Option Nat) (base : String) :
    List ClassId :=
  (image.allocated.filter fun e =>
    decide (since ≤ e.1.index) && stop.all (fun n => decide (e.1.index < n)) &&
      TypeName.base e.2 == base).map (·.1)

variable {image after : ManagedImage}

theorem isRegistered_iff {c : ClassId} :
    image.isRegistered c = true ↔ ∃ m, c ∈ CodeImage.classesIn image m := by
  simp only [isRegistered, List.any_map, List.any_eq_true, Function.comp_apply,
    List.contains_iff_mem]
  constructor
  · rintro ⟨k, hk, hc⟩
    obtain ⟨n, hn⟩ := List.getElem?_of_mem hk
    exact ⟨⟨n + 1⟩, mem_classesIn.2 ⟨k, hn, hc⟩⟩
  · rintro ⟨m, hc⟩
    obtain ⟨k, hk, hc⟩ := mem_classesIn.1 hc
    exact ⟨k, mem_modules hk, hc⟩

theorem mem_named {e : ClassId × String} :
    e ∈ image.named ↔ ∃ k, image.class? e.1 = some k ∧ k.info.name = e.2 := by
  obtain ⟨⟨i⟩, name⟩ := e
  constructor
  · intro h
    obtain ⟨⟨_, _⟩, he, heq⟩ := List.mem_map.1 h
    obtain ⟨⟨rfl⟩, rfl⟩ := Prod.mk.inj heq
    simpa [class?] using List.mem_zipIdx_iff_getElem?.1 he
  · rintro ⟨k, hk, rfl⟩
    refine List.mem_map.2 ⟨(k.info.name, i), List.mem_zipIdx_iff_getElem?.2 ?_, rfl⟩
    change image.classes[i]? = some k at hk
    simp [hk]

theorem index_lt_of_mem_named {e : ClassId × String} (h : e ∈ image.named) :
    e.1.index < image.classes.length := by
  obtain ⟨k, hk, _⟩ := mem_named.1 h
  exact (List.getElem?_eq_some_iff.1 hk).1

theorem index_lt_of_mem_allocated {e : ClassId × String} (h : e ∈ image.allocated) :
    e.1.index < image.classes.length := index_lt_of_mem_named (List.mem_filter.1 h).1

theorem named_pairwise (image : ManagedImage) :
    image.named.Pairwise (·.1.index < ·.1.index) :=
  List.pairwise_map.2 (zipIdx_pairwise _)

theorem allocated_pairwise (image : ManagedImage) :
    image.allocated.Pairwise (·.1.index < ·.1.index) :=
  image.named_pairwise.filter _

theorem named_congr
    (hclasses : after.classes.map (·.info.name) = image.classes.map (·.info.name)) :
    after.named = image.named := by
  simp only [named, hclasses]

theorem allocated_congr (hnamed : after.named = image.named)
    (hmodules : after.modules.map (·.classes) = image.modules.map (·.classes)) :
    after.allocated = image.allocated := by
  simp only [allocated, isRegistered, hnamed, hmodules]

theorem Confined.named {D : ClassId → Prop} (h : image.Confined D after) :
    after.named = image.named := by
  apply named_congr
  have hnames := congrArg (List.map (·.info.name)) h.blank
  rwa [List.map_map, List.map_map] at hnames

theorem Confined.allocated {D : ClassId → Prop} (h : image.Confined D after) :
    after.allocated = image.allocated := by
  apply allocated_congr h.named
  rw [h.modules]

theorem Rebound.allocated (h : image.Rebound after) : after.allocated = image.allocated := by
  apply allocated_congr
  · exact named_congr (by rw [h.classes])
  · have hclasses := congrArg (List.map (·.classes)) h.unbound
    rwa [List.map_map, List.map_map] at hclasses

theorem named_addClass (image : ManagedImage) (k : LinkedClass) :
    (image.addClass k).named = image.named ++ [(⟨image.classes.length⟩, k.info.name)] := by
  simp [named, addClass, List.zipIdx_append]

theorem isRegistered_link (image : ManagedImage) (m : ModuleSpec Body) (c : ClassId) :
    (image.link m).2.isRegistered c =
      (image.isRegistered c || (image.linked m).classes.contains c) := by
  simp [isRegistered, link_modules]

theorem named_link (image : ManagedImage) (m : ModuleSpec Body) :
    (image.link m).2.named = image.named ++
      m.classes.zipIdx.map fun e => (⟨image.classes.length + e.2⟩, e.1.name) := by
  simp only [named, link, List.map_append, List.map_map, List.zipIdx_append, List.length_map]
  congr 1
  rw [List.zipIdx_eq_map_add, List.zipIdx_map]
  simp [linkClass, Function.comp_def, Nat.add_comm]

theorem allocated_link (image : ManagedImage) (m : ModuleSpec Body) :
    (image.link m).2.allocated = image.allocated := by
  rw [allocated, image.named_link m, List.filter_append]
  have hold : image.named.filter (fun e => !(image.link m).2.isRegistered e.1) =
      image.allocated := by
    refine List.filter_congr fun e he => ?_
    have hnot : e.1 ∉ (image.linked m).classes := fun hc =>
      Nat.not_lt_of_le (image.index_of_mem_linked m hc) (index_lt_of_mem_named he)
    simp [isRegistered_link, hnot]
  rw [hold]
  refine List.append_right_eq_self.2 (List.filter_eq_nil_iff.2 fun e he => ?_)
  have hown : e.1 ∈ (image.linked m).classes := by
    obtain ⟨d, hd, rfl⟩ := List.mem_map.1 he
    exact List.mem_map.2 ⟨d, hd, rfl⟩
  simp [isRegistered_link, hown]

end ManagedImage

section Recorders

theorem Specializations.addOnce_of_not_mem {c : ClassId} {cs : List ClassId} (h : c ∉ cs) :
    addOnce c cs = cs ++ [c] := if_neg h

theorem World.recorded_addRecorder (w : Managed.Process) (r : RecorderId) :
    w.addRecorder.2.recorded r = w.recorded r := by
  simp only [recorded, addRecorder, Array.getElem?_push]
  split
  · rename_i h
    rw [h, Array.getElem?_eq_none (Nat.le_refl _)]
    rfl
  · rfl

theorem World.recorded_record_self {w : Managed.Process} {r : RecorderId}
    (h : r.index < w.recorders.size) (c : ClassId) (name : String) :
    (w.record r c name).recorded r = (w.recorded r).record c name := by
  simp [recorded, record, h, Array.getElem_modify]

theorem World.recorded_record_of_ne {w : Managed.Process} {r s : RecorderId} (h : r ≠ s)
    (c : ClassId) (name : String) : (w.record r c name).recorded s = w.recorded s := by
  have hne : r.index ≠ s.index := fun hi => h (congrArg RecorderId.mk hi)
  simp [recorded, record, Array.getElem?_modify, hne]

end Recorders

namespace Managed

/-- A descriptor that is added without a module is an allocation. -/
theorem Valid.allocated_addClass {w : Process} (h : Valid w) (k : LinkedClass) :
    (w.image.addClass k).allocated =
      w.image.allocated ++ [(⟨w.image.classes.length⟩, k.info.name)] := by
  have hregistered (c : ClassId) : (w.image.addClass k).isRegistered c = w.image.isRegistered c :=
    rfl
  have hnew : w.image.isRegistered ⟨w.image.classes.length⟩ = false := by
    rw [Bool.eq_false_iff, Ne, ManagedImage.isRegistered_iff, not_exists]
    exact fun m hc => Nat.lt_irrefl _ (h.mem_classesIn_lt hc)
  simp [ManagedImage.allocated, ManagedImage.named_addClass, List.filter_append, hregistered, hnew]

/-- The identity that the next descriptor gets is not recorded yet. -/
theorem Valid.not_mem_under {w : Process} (h : Valid w) (r : RecorderId) (base : String) :
    ⟨w.image.classes.length⟩ ∉ (w.recorded r).under base := by
  intro hin
  obtain ⟨⟨l, hl⟩, _⟩ := h.class?_of_recorded hin
  exact Nat.lt_irrefl _ (List.getElem?_eq_some_iff.1 hl).1

/-- From one process to another with the image recording in the same place: what was allocated is
recorded there, and nothing anywhere else. -/
structure Allocates (w w' : Process) : Prop where
  recorder : w'.image.recorder = w.image.recorder
  recorders : w.recorders.size ≤ w'.recorders.size
  classes : w.image.classes.length ≤ w'.image.classes.length
  recorded : ∃ more, w'.image.allocated = w.image.allocated ++ more ∧
    (∀ e ∈ more, w.image.classes.length ≤ e.1.index) ∧
    ∀ r, r.index < w.recorders.size → ∀ base, (w'.recorded r).under base =
      (w.recorded r).under base ++
        if w.image.recorder = some r then
          (more.filter fun e => TypeName.base e.2 == base).map (·.1)
        else []

section Noted

variable {w : Process} (c : ClassId) (name : String)

@[simp]
theorem noted_image : (noted w c name).image = w.image := by
  unfold noted
  split <;> rfl

@[simp]
theorem noted_recorders_size : (noted w c name).recorders.size = w.recorders.size := by
  unfold noted
  split <;> simp [World.record]

theorem under_noted {r : RecorderId} (hr : r.index < w.recorders.size) (base : String) :
    ((noted w c name).recorded r).under base =
      if w.image.recorder = some r ∧ base = TypeName.base name then
        Specializations.addOnce c ((w.recorded r).under base)
      else (w.recorded r).under base := by
  unfold noted
  split
  · rename_i s hs
    by_cases hrs : s = r
    · subst hrs
      rw [World.recorded_record_self hr, Specializations.under_record]
      simp [hs]
    · rw [World.recorded_record_of_ne hrs]
      simp [hs, hrs]
  · rename_i hnone
    simp [hnone]

end Noted

/-- A new descriptor is recorded where the image says, at the end of the list of its base. -/
theorem Valid.under_allocated {w : Process} (h : Valid w) {k : LinkedClass} {name : String}
    (hname : k.info.name = name) {r : RecorderId} (hr : r.index < w.recorders.size)
    (base : String) :
    ((noted { w with image := w.image.addClass k } ⟨w.image.classes.length⟩ name).recorded r).under
        base =
      (w.recorded r).under base ++
        if w.image.recorder = some r ∧ base = TypeName.base name then [⟨w.image.classes.length⟩]
        else [] := by
  subst hname
  refine (under_noted (w := { w with image := w.image.addClass k }) _ _ hr base).trans ?_
  change (if w.image.recorder = some r ∧ base = TypeName.base k.info.name then
    Specializations.addOnce _ ((w.recorded r).under base) else (w.recorded r).under base) = _
  rw [Specializations.addOnce_of_not_mem (h.not_mem_under r base)]
  split
  · rfl
  · rw [List.append_nil]

namespace Allocates

variable {u v w w' : Process}

theorem of_same (himage : w'.image.recorder = w.image.recorder)
    (hclasses : w.image.classes.length ≤ w'.image.classes.length)
    (hallocated : w'.image.allocated = w.image.allocated)
    (hsize : w.recorders.size ≤ w'.recorders.size)
    (hrecorded : ∀ r, w'.recorded r = w.recorded r) : Allocates w w' := by
  refine ⟨himage, hsize, hclasses, [], ?_, ?_, ?_⟩
  · rw [hallocated, List.append_nil]
  · exact fun e he => absurd he List.not_mem_nil
  · intro r _ base
    simp [hrecorded r]

theorem of_image (hrecorders : w'.recorders = w.recorders)
    (himage : w'.image.recorder = w.image.recorder)
    (hclasses : w.image.classes.length ≤ w'.image.classes.length)
    (hallocated : w'.image.allocated = w.image.allocated) : Allocates w w' :=
  of_same himage hclasses hallocated (Nat.le_of_eq (by rw [hrecorders])) fun r => by
    rw [World.recorded, hrecorders, World.recorded]

theorem refl (w : Process) : Allocates w w := of_image rfl rfl (Nat.le_refl _) rfl

theorem trans (h : Allocates u v) (h' : Allocates v w) : Allocates u w := by
  obtain ⟨more, hmore, hfresh, hrecorded⟩ := h.recorded
  obtain ⟨more', hmore', hfresh', hrecorded'⟩ := h'.recorded
  refine ⟨h'.recorder.trans h.recorder, Nat.le_trans h.recorders h'.recorders,
    Nat.le_trans h.classes h'.classes, more ++ more', ?_, ?_, ?_⟩
  · rw [hmore', hmore, List.append_assoc]
  · intro e he
    rcases List.mem_append.1 he with he | he
    · exact hfresh e he
    · exact Nat.le_trans h.classes (hfresh' e he)
  · intro r hr base
    rw [hrecorded' r (Nat.lt_of_lt_of_le hr h.recorders) base, hrecorded r hr base, h.recorder]
    split <;> simp

/-- A specialization is allocated, and recorded where the image says. -/
theorem allocate (h : Valid w) (k : LinkedClass) :
    Allocates w (noted { w with image := w.image.addClass k } ⟨w.image.classes.length⟩
      k.info.name) := by
  refine ⟨by simp [ManagedImage.addClass], by simp, by simp [ManagedImage.addClass],
    [(⟨w.image.classes.length⟩, k.info.name)], ?_, ?_, ?_⟩
  · rw [noted_image]
    exact h.allocated_addClass k
  · simp
  · intro r hr base
    rw [h.under_allocated rfl hr base]
    by_cases hrecorder : w.image.recorder = some r
    · by_cases hbase : base = TypeName.base k.info.name
      · simp [hrecorder, hbase]
      · simp [hrecorder, hbase, Ne.symm hbase]
    · simp [hrecorder]

end Allocates

theorem allocates_handled : Handled fun w w' => Valid w → Valid w' ∧ Allocates w w' where
  refl w h := ⟨h, .refl w⟩
  trans h h' hu := by
    obtain ⟨hv, huv⟩ := h hu
    obtain ⟨hw, hvw⟩ := h' hv
    exact ⟨hw, huv.trans hvw⟩
  setField w o name v h := by
    refine ⟨valid_held.setField w o name v h, ?_⟩
    unfold World.setField
    split <;> exact .of_image rfl rfl (Nat.le_refl _) rfl
  write w e h := ⟨valid_held.write w e h, .of_image rfl rfl (Nat.le_refl _) rfl⟩
  count w key h := ⟨valid_held.count w key h, .of_image rfl rfl (Nat.le_refl _) rfl⟩
  specialize := by
    intro w definition arguments c w' hs h
    refine ⟨valid_held.specialize hs h, ?_⟩
    obtain ⟨_, rfl⟩ | ⟨k, _, _, rfl, rfl⟩ := specialize_eq_ok_iff.1 hs
    · exact .refl _
    · exact .allocate h _
  load := by
    intro w m id w' hl h
    refine ⟨valid_held.load hl h, ?_⟩
    rw [load_eq hl]
    exact .of_image rfl rfl (List.prefix_append _ _).length_le (w.image.allocated_link m)
  create := by
    intro w c o w' hc h
    refine ⟨valid_held.create hc h, ?_⟩
    obtain ⟨i, _, rfl⟩ := create_eq hc
    exact .of_image rfl rfl (Nat.le_refl _) rfl
  staged w s h := ⟨valid_held.staged w s h, .of_image rfl rfl (Nat.le_refl _) rfl⟩
  named w names h := ⟨valid_held.named w names h, .of_image rfl rfl (Nat.le_refl _) rfl⟩
  recorders w h := by
    refine ⟨valid_held.recorders w h, .of_same rfl (Nat.le_refl _) rfl ?_ w.recorded_addRecorder⟩
    simp [World.addRecorder]
  confined hc h := by
    have hrecorder := congrArg ManagedImage.recorder hc.rest
    exact ⟨h.confined hc, .of_image rfl hrecorder (Nat.le_of_eq hc.length.symm) hc.allocated⟩
  rebound hr h := by
    have hrecorder := congrArg ManagedImage.recorder hr.rest
    exact ⟨h.rebound hr, .of_image rfl hrecorder (Nat.le_of_eq (by rw [hr.classes])) hr.allocated⟩

end Managed

end HotReload
