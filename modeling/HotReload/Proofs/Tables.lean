import HotReload.Managed.Tables

/-! # Writes into class tables

A write into a table of a descriptor changes one address of that descriptor. All else stays: the
modules, the other descriptors, and of the written one everything but the address.
-/

namespace HotReload

theorem mem_of_lookup {α β : Type} [BEq α] [LawfulBEq α] {entries : List (α × β)} {a : α} {b : β}
    (h : entries.lookup a = some b) : (a, b) ∈ entries := by
  obtain ⟨before, after, hsplit, _⟩ := List.lookup_eq_some_iff.1 h
  rw [hsplit]
  exact List.mem_append_right _ List.mem_cons_self

/-- A class with every address taken out of its tables. -/
def LinkedClass.blank (k : LinkedClass) : LinkedClass :=
  { k with
    slots := k.slots.map fun s => { s with address := .null }
    selectors := k.selectors.map fun e => (e.1, .null)
    classSelectors := k.classSelectors.map fun e => (e.1, .null) }

theorem LinkedClass.table_blank (k : LinkedClass) (t : SelectorTable) :
    (k.blank.table t).map (·.1) = (k.table t).map (·.1) := by
  cases t <;> simp [blank, table]

theorem LinkedClass.length_of_blank {k l : LinkedClass} (h : k.blank = l.blank) :
    k.slots.length = l.slots.length := by
  have hlength := congrArg (·.slots.length) h
  simpa [blank] using hlength

namespace ManagedImage

section Reads

variable {image : ManagedImage} {c : ClassId} {k : LinkedClass} (h : image.class? c = some k)

include h

theorem info?_of_class? : CodeImage.info? image c = some k.info := by
  simp [CodeImage.info?, h]

theorem slots_of_class? : CodeImage.slots image c = .ok (k.slots.map (·.address)) := by
  simp [CodeImage.slots, slotAddresses, classOrFail, h, Except.map]

theorem selectors_of_class? (t : SelectorTable) :
    CodeImage.selectors image c t = .ok (k.table t) := by
  simp [CodeImage.selectors, classOrFail, h, Except.map]

end Reads

/-- The second image differs from the first only in addresses, and only in the tables of the given
descriptors. -/
structure Confined (D : ClassId → Prop) (image after : ManagedImage) : Prop where
  rest : { after with classes := image.classes } = image
  blank : after.classes.map (·.blank) = image.classes.map (·.blank)
  outside : ∀ c, ¬ D c → after.class? c = image.class? c

namespace Confined

variable {D E : ClassId → Prop} {image after last : ManagedImage}

theorem refl (D : ClassId → Prop) (image : ManagedImage) : Confined D image image :=
  ⟨rfl, rfl, fun _ _ => rfl⟩

theorem trans (h : Confined D image after) (h' : Confined D after last) :
    Confined D image last where
  rest := by
    rw [← h.rest]
    exact congrArg (fun i => { i with classes := image.classes }) h'.rest
  blank := h'.blank.trans h.blank
  outside c hc := (h'.outside c hc).trans (h.outside c hc)

theorem symm (h : Confined D image after) : Confined D after image where
  rest := by
    rw [← h.rest]
  blank := h.blank.symm
  outside c hc := (h.outside c hc).symm

theorem mono (h : Confined D image after) (hD : ∀ c, D c → E c) : Confined E image after :=
  ⟨h.rest, h.blank, fun c hc => h.outside c fun hd => hc (hD c hd)⟩

theorem trans_at (h : Confined D image after) {d : ClassId} (hd : D d)
    (h' : Confined (· = d) after last) : Confined D image last :=
  h.trans (h'.mono fun _ he => he ▸ hd)

theorem trans_any (h : Confined D image after) (h' : Confined E after last) :
    Confined (fun c => D c ∨ E c) image last :=
  (h.mono fun _ => .inl).trans (h'.mono fun _ => .inr)

theorem modules (h : Confined D image after) : after.modules = image.modules := by
  have hm := congrArg ManagedImage.modules h.rest
  exact hm

theorem nextAddress (h : Confined D image after) : after.nextAddress = image.nextAddress := by
  have hn := congrArg ManagedImage.nextAddress h.rest
  exact hn

theorem length (h : Confined D image after) : after.classes.length = image.classes.length := by
  simpa using congrArg List.length h.blank

theorem class_blank (h : Confined D image after) (c : ClassId) :
    (after.class? c).map (·.blank) = (image.class? c).map (·.blank) := by
  simp only [class?, ← List.getElem?_map, h.blank]

theorem exists_blank (h : Confined D image after) {c : ClassId} {k : LinkedClass}
    (hk : image.class? c = some k) : ∃ l, after.class? c = some l ∧ l.blank = k.blank := by
  have hblank := h.class_blank c
  rw [hk] at hblank
  exact Option.map_eq_some_iff.1 hblank

theorem class_info (h : Confined D image after) (c : ClassId) :
    (after.class? c).map (·.info) = (image.class? c).map (·.info) := by
  have hb := congrArg (Option.map (·.info)) (h.class_blank c)
  rwa [Option.map_map, Option.map_map] at hb

theorem class?_isSome (h : Confined D image after) (c : ClassId) :
    (after.class? c).isSome = (image.class? c).isSome := by
  simpa using congrArg Option.isSome (h.class_blank c)

/-- A descriptor is missing in both images, or its tables differ in addresses at most. -/
theorem class?_cases (h : Confined D image after) (c : ClassId) :
    after.class? c = none ∧ image.class? c = none ∨
      ∃ l k, after.class? c = some l ∧ image.class? c = some k ∧ l.blank = k.blank := by
  cases hk : image.class? c with
  | none =>
    have hsome := h.class?_isSome c
    rw [hk] at hsome
    exact .inl ⟨by simpa using hsome, rfl⟩
  | some k =>
    obtain ⟨l, hl, hblank⟩ := h.exists_blank hk
    exact .inr ⟨l, k, hl, rfl, hblank⟩

/-- Images that differ in addresses only agree on every question about the classes' infos. -/
theorem classIdsWhere_info (h : Confined D image after) (p : ClassInfo → Bool) :
    after.classIdsWhere (fun k => p k.info) = image.classIdsWhere (fun k => p k.info) := by
  have ids (i : ManagedImage) : i.classIdsWhere (fun k => p k.info) =
      (((i.classes.map (·.blank)).zipIdx).filter fun e => p e.1.info).map fun e => ⟨e.2⟩ := by
    simp only [classIdsWhere, List.zipIdx_map, List.filter_map, List.map_map]
    rfl
  rw [ids, ids, h.blank]

end Confined

theorem class?_modifyClass (image : ManagedImage) (c d : ClassId) (f : LinkedClass → LinkedClass) :
    (image.modifyClass c f).class? d =
      if d = c then (image.class? d).map f else image.class? d := by
  simp only [class?, modifyClass, List.getElem?_modify]
  by_cases h : c.index = d.index
  · have hd : d = c := by
      cases c
      cases d
      simpa using h.symm
    simp [h, hd]
  · have hd : d ≠ c := fun e => h (e ▸ rfl)
    simp [h, hd]

/-- Changing addresses of one descriptor is confined to it. -/
theorem modifyClass_confined (image : ManagedImage) (c : ClassId) (f : LinkedClass → LinkedClass)
    (hf : ∀ k, (f k).blank = k.blank) : Confined (· = c) image (image.modifyClass c f) where
  rest := rfl
  blank := by
    apply List.ext_getElem?
    intro n
    simp only [modifyClass, List.getElem?_map, List.getElem?_modify]
    by_cases h : c.index = n
    · cases image.classes[n]? <;> simp [h, hf]
    · simp [h]
  outside d hd := by rw [class?_modifyClass, if_neg hd]

theorem writeSlot_eq {image after : ManagedImage} {c : ClassId} {index : Nat} {a : Address}
    (h : image.writeSlot c index a = .ok after) :
    after = image.modifyClass c fun k =>
      { k with slots := k.slots.modify index fun s => { s with address := a } } := by
  unfold writeSlot at h
  split at h
  · cases h
  · split at h
    · exact (Except.ok.inj h).symm
    · cases h

theorem writeSlot_confined {image after : ManagedImage} {c : ClassId} {index : Nat} {a : Address}
    (h : image.writeSlot c index a = .ok after) : Confined (· = c) image after := by
  rw [writeSlot_eq h]
  apply modifyClass_confined
  intro k
  simp only [LinkedClass.blank, LinkedClass.mk.injEq, true_and, and_true]
  apply List.ext_getElem?
  intro n
  simp only [List.getElem?_map, List.getElem?_modify]
  by_cases hn : index = n
  · cases k.slots[n]? <;> simp [hn]
  · simp [hn]

theorem replaceFirst_names (selector : String) (a : Address) (table : Selectors) :
    (replaceFirst selector a table).map (fun e => (e.1, Address.null)) =
      table.map fun e => (e.1, Address.null) := by
  induction table with
  | nil => rfl
  | cons e es ih =>
    rw [replaceFirst]
    split
    · rfl
    · simp only [List.map_cons, ih]

def withSelector (t : SelectorTable) (selector : String) (a : Address) (k : LinkedClass) :
    LinkedClass :=
  match t with
  | .onInstances => { k with selectors := replaceFirst selector a k.selectors }
  | .onClass => { k with classSelectors := replaceFirst selector a k.classSelectors }

theorem replaceSelector_eq {image after : ManagedImage} {c : ClassId} {t : SelectorTable}
    {selector : String} {a : Address} (h : image.replaceSelector c t selector a = .ok after) :
    after = image.modifyClass c (withSelector t selector a) := by
  unfold replaceSelector at h
  split at h
  · cases h
  · split at h
    · exact (Except.ok.inj h).symm
    · cases h

theorem replaceSelector_confined {image after : ManagedImage} {c : ClassId} {t : SelectorTable}
    {selector : String} {a : Address} (h : image.replaceSelector c t selector a = .ok after) :
    Confined (· = c) image after := by
  rw [replaceSelector_eq h]
  apply modifyClass_confined
  intro k
  cases t <;> simp [withSelector, LinkedClass.blank, replaceFirst_names]

end ManagedImage

end HotReload
