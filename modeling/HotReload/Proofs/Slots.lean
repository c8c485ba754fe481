import HotReload.Proofs.Confinement
import HotReload.Proofs.Resolution

/-! # What a slot patch writes

A pass over the slots of a descriptor sets each slot that has a target to it and leaves the others
alone. With a sound cache the targets are decided by the image and the table of newest
implementations.
-/

namespace HotReload

namespace ManagedImage

def slotAt? (image : ManagedImage) (c : ClassId) (i : Nat) : Option Address :=
  (image.class? c).bind fun k => k.slots[i]?.map (·.address)

variable {image after : ManagedImage} {c : ClassId}

theorem slotAt?_eq {k : LinkedClass} (h : image.class? c = some k) (i : Nat) :
    image.slotAt? c i = (k.slots.map (·.address))[i]? := by
  simp [slotAt?, h]

theorem Confined.slotAt? {D : ClassId → Prop} (h : Confined D image after) (hc : ¬D c) (i : Nat) :
    after.slotAt? c i = image.slotAt? c i := by
  rw [ManagedImage.slotAt?, h.outside c hc, ManagedImage.slotAt?]

theorem slotAt?_writeSlot {index : Nat} {a : Address} (h : image.writeSlot c index a = .ok after)
    (j : Nat) : after.slotAt? c j =
      if j = index then (image.slotAt? c j).map fun _ => a else image.slotAt? c j := by
  rw [writeSlot_eq h]
  simp only [slotAt?, class?_modifyClass, if_true]
  cases image.class? c with
  | none => simp
  | some k =>
    simp only [Option.map_some, Option.bind_some, List.getElem?_modify]
    by_cases hj : index = j
    · cases k.slots[j]? <;> simp [hj]
    · simp [hj, Ne.symm hj]

theorem writeSlot_isOk {index : Nat} {current : Address} (h : image.slotAt? c index = some current)
    (a : Address) : ∃ after, image.writeSlot c index a = .ok after := by
  obtain ⟨k, hk, hs⟩ := Option.bind_eq_some_iff.1 h
  obtain ⟨s, hs, _⟩ := Option.map_eq_some_iff.1 hs
  have hindex : index < k.slots.length := (List.getElem?_eq_some_iff.1 hs).1
  simp [writeSlot, hk, hindex]

end ManagedImage

open ManagedImage (Confined)

/-- A patch leaves an image the modules of the base, and its cache right. -/
theorem Served.invariant (base : ManagedImage) (c : ClassId) :
    PatchPass.Invariant c (Served base) where
  slots :=
    { resolve := fun a scope h => (h.resolve a scope).2
      write := fun h hw => h.confined (ManagedImage.writeSlot_confined hw) }
  selectors _ := { replace := fun h hr => h.confined (ManagedImage.replaceSelector_confined hr) }

theorem Answering.invariant (base : ManagedImage) (f : Address → Option Symbol) (c : ClassId) :
    SlotPass.Invariant c (Answering base f) where
  resolve a scope h := (h.resolve a scope).2
  write h hw := h.confined (ManagedImage.writeSlot_confined hw)

namespace SlotPass

variable {c : ClassId}

theorem slotAt?_settle {p : SlotPass ManagedImage} {index : Nat} {current : Address}
    (h : p.image.slotAt? c index = some current) (target : Option Address) (j : Nat) :
    (p.settle c index current target).image.slotAt? c j =
      if j = index then some (target.getD current) else p.image.slotAt? c j := by
  have hsame : p.image.slotAt? c j = if j = index then some current else p.image.slotAt? c j := by
    by_cases hj : j = index
    · rw [if_pos hj, hj, h]
    · rw [if_neg hj]
  cases target with
  | none => exact hsame
  | some a =>
    simp only [settle, apply, Option.getD_some]
    by_cases ha : current = a
    · rw [if_pos ha, ← ha]
      exact hsame
    · rw [if_neg ha]
      obtain ⟨after, hw⟩ := ManagedImage.writeSlot_isOk h a
      have hwrite : CodeImage.writeSlot p.image c index a = .ok after := hw
      simp only [hwrite, ManagedImage.slotAt?_writeSlot hw]
      by_cases hj : j = index
      · simp [hj, h]
      · simp [hj]

/-- How a slot is settled does not depend on the cache. -/
theorem settle_cache (p : SlotPass ManagedImage) (cache : SymbolCache) (c : ClassId) (index : Nat)
    (current : Address) (target : Option Address) :
    settle { p with cache } c index current target =
      { p.settle c index current target with cache } := by
  unfold settle apply
  split
  · split
    · rfl
    · simp only
      split <;> rfl
  · rfl

variable {α : Type} (step : SlotPass ManagedImage → α → SlotPass ManagedImage)
  (index : α → Nat) (current : α → Address) (target : α → Option Address)

/-- Each step of a pass settles one slot, whatever becomes of the cache. -/
def Settles (c : ClassId) (Q : SlotPass ManagedImage → Prop) : Prop :=
  ∀ p a, Q p → Q (step p a) ∧ ∃ cache,
    step p a = { p.settle c (index a) (current a) (target a) with cache }

variable {step index current target} {Q : SlotPass ManagedImage → Prop}
  {p : SlotPass ManagedImage} {slots : List α}

/-- A pass over slots at distinct positions settles each of them, and nothing else of the
descriptor. -/
theorem Settles.foldl_slotAt? (h : Settles step index current target c Q)
    (hindex : slots.Pairwise fun a b => index a ≠ index b) (hq : Q p)
    (hcurrent : ∀ a ∈ slots, p.image.slotAt? c (index a) = some (current a)) :
    (∀ a ∈ slots, (slots.foldl step p).image.slotAt? c (index a) =
      some ((target a).getD (current a))) ∧
      ∀ j, (∀ a ∈ slots, index a ≠ j) →
        (slots.foldl step p).image.slotAt? c j = p.image.slotAt? c j := by
  induction slots generalizing p with
  | nil => exact ⟨fun a ha => absurd ha List.not_mem_nil, fun _ _ => rfl⟩
  | cons a slots ih =>
    obtain ⟨hne, hindex⟩ := List.pairwise_cons.1 hindex
    obtain ⟨hq', cache, hstep⟩ := h p a hq
    have hslot (j : Nat) : (step p a).image.slotAt? c j =
        if j = index a then some ((target a).getD (current a)) else p.image.slotAt? c j := by
      rw [hstep, slotAt?_settle (hcurrent a List.mem_cons_self)]
    have hrest : ∀ b ∈ slots, (step p a).image.slotAt? c (index b) = some (current b) := by
      intro b hb
      rw [hslot, if_neg (Ne.symm (hne b hb))]
      exact hcurrent b (List.mem_cons_of_mem a hb)
    obtain ⟨hwritten, hkept⟩ := ih hindex hq' hrest
    constructor
    · intro b hb
      rcases List.mem_cons.1 hb with rfl | hb
      · rw [List.foldl_cons, hkept _ fun d hd => Ne.symm (hne d hd), hslot, if_pos rfl]
      · exact hwritten b hb
    · intro j hj
      rw [List.foldl_cons, hkept j fun b hb => hj b (List.mem_cons_of_mem a hb), hslot,
        if_neg (Ne.symm (hj a List.mem_cons_self))]

/-- A pass over all slots but the destructor. -/
theorem Settles.foldl_slotAt?_eq (h : Settles step index current target c Q)
    (hindex : slots.Pairwise fun a b => index a ≠ index b) (hq : Q p)
    (hslots : ∀ i b, i ≠ 0 ∧ p.image.slotAt? c i = some b ↔
      ∃ a ∈ slots, index a = i ∧ current a = b)
    (goal : Nat → Address → Option Address)
    (hgoal : ∀ a ∈ slots, target a = goal (index a) (current a)) (i : Nat) :
    (slots.foldl step p).image.slotAt? c i =
      if i = 0 then p.image.slotAt? c i
      else (p.image.slotAt? c i).map fun b => (goal i b).getD b := by
  have hcurrent : ∀ a ∈ slots, index a ≠ 0 ∧ p.image.slotAt? c (index a) = some (current a) :=
    fun a ha => (hslots _ _).2 ⟨a, ha, rfl, rfl⟩
  obtain ⟨hwritten, hkept⟩ := h.foldl_slotAt? hindex hq fun a ha => (hcurrent a ha).2
  by_cases hi : i = 0
  · rw [if_pos hi]
    exact hkept i fun a ha => hi ▸ (hcurrent a ha).1
  · rw [if_neg hi]
    cases hb : p.image.slotAt? c i with
    | none =>
      have hfree : ∀ a ∈ slots, index a ≠ i := by
        rintro a ha rfl
        rw [(hcurrent a ha).2] at hb
        cases hb
      rw [hkept i hfree, hb]
      rfl
    | some b =>
      obtain ⟨a, ha, rfl, rfl⟩ := (hslots i b).1 ⟨hi, hb⟩
      rw [hwritten a ha, hgoal a ha]
      rfl

end SlotPass

namespace SlotPolicy

variable (policy : SlotPolicy) (image : ManagedImage) (m : ModuleId)

/-- What a slot of an old version becomes when the slot of the new version holds the address. -/
def target? (wanted : Address) : Option Address :=
  ((image.symbol? wanted).filter (·.kind.patchable policy.preserve)).map fun s =>
    policy.newest s wanted m

/-- What a slot becomes when its descriptor is patched in place and it holds the address. -/
def refreshed? (current : Address) : Option Address :=
  ((image.symbol? current).filter (·.kind.patchable policy.preserve)).bind fun s =>
    (CodeImage.address? image m s.name).or (policy.table.address? s.name)

/-- What it becomes when addresses are resolved by the function. -/
def refreshedBy (f : Address → Option Symbol) (current : Address) : Option Address :=
  ((f current).filter (·.kind.patchable policy.preserve)).bind fun s =>
    (CodeImage.address? image m s.name).or (policy.table.address? s.name)

def inPlace (i : Nat) (current : Address) : Address :=
  if i = 0 then current else (policy.refreshed? image m current).getD current

/-- What a slot of an old version is after it was patched towards a new version. -/
def brought (base : ManagedImage) (old new : ClassId) (i : Nat) : Option Address :=
  if i = 0 then image.slotAt? old i
  else (image.slotAt? old i).map fun current =>
    ((image.slotAt? new i).bind (policy.target? base m)).getD current

variable {policy image m}

theorem settles_patchSlot (policy : SlotPolicy) (base : ManagedImage) (m : ModuleId)
    (old : ClassId) :
    SlotPass.Settles (policy.patchSlot old m) (·.2) (·.1.1)
      (fun slot => policy.target? base m slot.1.2) old fun p => Served base p.image p.cache := by
  intro p slot hp
  refine ⟨(Served.invariant base old).slots.patchSlot hp slot, ?_⟩
  obtain ⟨⟨current, wanted⟩, index⟩ := slot
  have htarget : ((policy.patchable? p.cache p.image wanted (some m)).1.map
      fun s => policy.newest s wanted m) = policy.target? base m wanted := by
    simp only [patchable?, (hp.resolve wanted (some m)).1, target?]
  refine ⟨(policy.patchable? p.cache p.image wanted (some m)).2, ?_⟩
  simp only [← htarget]
  exact SlotPass.settle_cache p _ old index current _

theorem settles_refreshSlot (policy : SlotPolicy) (base : ManagedImage) (m : ModuleId)
    (f : Address → Option Symbol) (c : ClassId) :
    SlotPass.Settles (policy.refreshSlot c m) (·.2) (·.1)
      (fun slot => policy.refreshedBy base m f slot.1) c
      fun p => Answering base f p.image p.cache := by
  intro p slot hp
  refine ⟨(Answering.invariant base f c).refreshSlot hp slot, ?_⟩
  obtain ⟨current, index⟩ := slot
  have htarget : ((policy.patchable? p.cache p.image current none).1.bind
      fun s => (CodeImage.address? p.image m s.name).or (policy.table.address? s.name)) =
        policy.refreshedBy base m f current := by
    simp only [patchable?, (hp.resolve current none).1, hp.address?, refreshedBy]
  refine ⟨(policy.patchable? p.cache p.image current none).2, ?_⟩
  simp only [← htarget]
  exact SlotPass.settle_cache p _ c index current _

theorem target?_of_patchable {a : Address} {s : Symbol} (hs : image.symbol? a = some s)
    (hp : s.kind.patchable policy.preserve = true) :
    policy.target? image m a = some (policy.newest s a m) := by
  simp [target?, hs, Option.filter, hp]

theorem target?_eq_some {a b : Address} : policy.target? image m a = some b ↔
    ∃ s, image.symbol? a = some s ∧ s.kind.patchable policy.preserve = true ∧
      policy.newest s a m = b := by
  simp [target?, Option.filter_eq_some_iff, and_assoc]

theorem refreshedBy_eq_some {f : Address → Option Symbol} {a b : Address} :
    policy.refreshedBy image m f a = some b ↔
      ∃ s, f a = some s ∧ s.kind.patchable policy.preserve = true ∧
        (CodeImage.address? image m s.name).or (policy.table.address? s.name) = some b := by
  simp only [refreshedBy, Option.bind_eq_some_iff, Option.filter_eq_some_iff, and_assoc]

theorem refreshed?_eq_some {a b : Address} : policy.refreshed? image m a = some b ↔
    ∃ s, image.symbol? a = some s ∧ s.kind.patchable policy.preserve = true ∧
      (CodeImage.address? image m s.name).or (policy.table.address? s.name) = some b :=
  refreshedBy_eq_some

theorem target?_eq_none {a : Address}
    (h : ∀ s, image.symbol? a = some s → s.kind.patchable policy.preserve ≠ true) :
    policy.target? image m a = none := by
  cases hs : image.symbol? a with
  | none => simp [target?, hs]
  | some s => simp [target?, hs, Option.filter, h s hs]

theorem brought_of_some {base : ManagedImage} {old new : ClassId} {i : Nat}
    {current wanted a : Address} (hi : i ≠ 0) (hold : image.slotAt? old i = some current)
    (hnew : image.slotAt? new i = some wanted) (ha : policy.target? base m wanted = some a) :
    policy.brought image m base old new i = some a := by
  rw [brought, if_neg hi, hold, hnew, Option.bind_some, ha]
  rfl

theorem brought_of_none {base : ManagedImage} {old new : ClassId} {i : Nat}
    (h : i = 0 ∨ (image.slotAt? new i).bind (policy.target? base m) = none) :
    policy.brought image m base old new i = image.slotAt? old i := by
  rw [brought]
  rcases h with hi | hnone
  · rw [if_pos hi]
  · rw [hnone]
    cases image.slotAt? old i <;> simp

theorem brought_congr {base after : ManagedImage} {old new : ClassId}
    (hold : ∀ i, after.slotAt? old i = image.slotAt? old i)
    (hnew : ∀ i, after.slotAt? new i = image.slotAt? new i) (i : Nat) :
    policy.brought after m base old new i = policy.brought image m base old new i := by
  rw [brought, brought, hold, hnew]

/-- The positions that a pass goes through, without the destructor. -/
theorem mem_drop_zipIdx {α : Type} {l : List α} {x : α} {i : Nat} :
    (x, i) ∈ l.zipIdx.drop 1 ↔ i ≠ 0 ∧ l[i]? = some x := by
  cases l with
  | nil => simp
  | cons a l =>
    rw [List.zipIdx_cons, List.drop_one, List.tail_cons, List.mem_zipIdx_iff_le_and_getElem?_sub]
    cases i with
    | zero => simp
    | succ i => simp

theorem drop_zipIdx_pairwise {α : Type} (l : List α) :
    (l.zipIdx.drop 1).Pairwise fun a b => a.2 ≠ b.2 :=
  ((ManagedImage.zipIdx_pairwise l).sublist (List.drop_sublist 1 _)).imp Nat.ne_of_lt

variable {cache : SymbolCache} {c old new : ClassId} {pass : SlotPass ManagedImage}
  {base : ManagedImage}

theorem mem_pairs {k l : LinkedClass} (hk : image.class? old = some k)
    (hl : image.class? new = some l) {current wanted : Address} {i : Nat} :
    ((current, wanted), i) ∈ pairs k l ↔
      i ≠ 0 ∧ image.slotAt? old i = some current ∧ image.slotAt? new i = some wanted := by
  rw [pairs, mem_drop_zipIdx, List.getElem?_zip_eq_some, ManagedImage.slotAt?_eq hk,
    ManagedImage.slotAt?_eq hl]

theorem mem_slots {k : LinkedClass} (hk : image.class? c = some k) {current : Address} {i : Nat} :
    (current, i) ∈ (k.slots.map (·.address)).zipIdx.drop 1 ↔
      i ≠ 0 ∧ image.slotAt? c i = some current := by
  rw [mem_drop_zipIdx, ManagedImage.slotAt?_eq hk]

theorem pairs_pairwise (k l : LinkedClass) : (pairs k l).Pairwise fun a b => a.2 ≠ b.2 :=
  drop_zipIdx_pairwise _

theorem patch_served (hs : Served base image cache)
    (h : policy.patch cache image old new m = .ok pass) : Served base pass.image pass.cache :=
  (Served.invariant base old).slots.patch h hs

theorem patchInPlace_served (hs : Served base image cache)
    (h : policy.patchInPlace cache image c m = .ok pass) : Served base pass.image pass.cache :=
  (Served.invariant base c).slots.patchInPlace h hs

/-- What a slot patch makes of each slot of the old version. -/
theorem slotAt?_patch {k l : LinkedClass} (hs : Served base image cache)
    (hk : image.class? old = some k) (hl : image.class? new = some l)
    (hlayout : layoutChange? k.info l.info = none) (hlength : k.slots.length = l.slots.length)
    (h : policy.patch cache image old new m = .ok pass) (i : Nat) :
    pass.image.slotAt? old i = policy.brought image m base old new i := by
  obtain ⟨k', l', hk', hl', ⟨_, hbad⟩ | ⟨_, _, rfl⟩⟩ := patch_cases h
  · rw [hk] at hk'
    rw [hl] at hl'
    cases hk'
    cases hl'
    exact absurd ⟨hlayout, hlength⟩ hbad
  · rw [hk] at hk'
    rw [hl] at hl'
    cases hk'
    cases hl'
    have hnew {i : Nat} {current : Address} (hc : image.slotAt? old i = some current) :
        ∃ wanted, image.slotAt? new i = some wanted := by
      rw [ManagedImage.slotAt?_eq hk] at hc
      rw [ManagedImage.slotAt?_eq hl]
      have hlt := (List.getElem?_eq_some_iff.1 hc).1
      rw [List.length_map, hlength] at hlt
      exact ⟨_, List.getElem?_eq_getElem (by rwa [List.length_map])⟩
    refine (settles_patchSlot policy base m old).foldl_slotAt?_eq (p := ⟨image, cache, {}⟩)
      (pairs_pairwise k l) hs ?_
      (fun i _ => (image.slotAt? new i).bind (policy.target? base m)) ?_ i
    · intro i current
      constructor
      · rintro ⟨hi, hc⟩
        obtain ⟨wanted, hw⟩ := hnew hc
        exact ⟨((current, wanted), i), (mem_pairs hk hl).2 ⟨hi, hc, hw⟩, rfl, rfl⟩
      · rintro ⟨⟨⟨current, wanted⟩, i⟩, hslot, rfl, rfl⟩
        obtain ⟨hi, hc, _⟩ := (mem_pairs hk hl).1 hslot
        exact ⟨hi, hc⟩
    · rintro ⟨⟨current, wanted⟩, i⟩ hslot
      obtain ⟨_, _, hw⟩ := (mem_pairs hk hl).1 hslot
      simp only [hw, Option.bind_some]

/-- What patching in place makes of each slot, whatever the cache answers. -/
theorem slotAt?_patchInPlace_of_answering {f : Address → Option Symbol}
    (hs : Answering base f image cache) (h : policy.patchInPlace cache image c m = .ok pass)
    (i : Nat) : pass.image.slotAt? c i =
      if i = 0 then image.slotAt? c i
      else (image.slotAt? c i).map fun a => (policy.refreshedBy base m f a).getD a := by
  obtain ⟨k, hk, rfl⟩ := patchInPlace_cases h
  refine (settles_refreshSlot policy base m f c).foldl_slotAt?_eq (p := ⟨image, cache, {}⟩)
    (drop_zipIdx_pairwise _) hs ?_ (fun _ a => policy.refreshedBy base m f a) (fun _ _ => rfl) i
  intro i current
  rw [← mem_slots hk]
  constructor
  · intro hslot
    exact ⟨(current, i), hslot, rfl, rfl⟩
  · rintro ⟨slot, hslot, rfl, rfl⟩
    exact hslot

/-- What patching in place makes of each slot. -/
theorem slotAt?_patchInPlace (hs : Served base image cache)
    (h : policy.patchInPlace cache image c m = .ok pass) (i : Nat) :
    pass.image.slotAt? c i = (image.slotAt? c i).map (policy.inPlace base m i) := by
  rw [slotAt?_patchInPlace_of_answering hs.answering h]
  cases hslot : image.slotAt? c i with
  | none => simp
  | some current => by_cases hi : i = 0 <;> simp [hi, inPlace, refreshed?, refreshedBy]

end SlotPolicy

end HotReload
