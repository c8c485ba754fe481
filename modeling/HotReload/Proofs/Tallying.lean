import HotReload.Proofs.Memoizing

/-! # What a slot patch counts

A pass over the slots of a descriptor counts each slot once: as written where its content changes,
as unchanged where it holds its target, as skipped where it has none. A pass that finds every target
in place writes nothing, so a patch that is repeated at once changes nothing.
-/

namespace HotReload

open Managed (Process)
open ManagedImage (Confined)

/-- The positions of a table at which it does not hold what it held before. -/
def changedPositions {α : Type} [DecidableEq α] (size : Nat) (before after : Nat → α) : List Nat :=
  (List.range size).filter fun i => after i ≠ before i

namespace SlotOutcome

theorem merge_assoc (a b c : SlotOutcome) : (a.merge b).merge c = a.merge (b.merge c) := by
  simp [merge, Nat.add_assoc, Bool.or_assoc]

variable {α : Type} (current : α → Address) (target : α → Option Address)

/-- What is counted when each slot is brought to its target. -/
def tally (slots : List α) : SlotOutcome where
  written := slots.countP fun a => (target a).any (· != current a)
  unchanged := slots.countP fun a => target a == some (current a)
  skipped := slots.countP fun a => (target a).isNone

theorem tally_cons (a : α) (slots : List α) :
    tally current target (a :: slots) =
      (tally current target [a]).merge (tally current target slots) := by
  simp [tally, merge, List.countP_cons, Nat.add_comm]

theorem tally_total (slots : List α) :
    let outcome := tally current target slots
    outcome.written + outcome.unchanged + outcome.skipped = slots.length := by
  induction slots with
  | nil => rfl
  | cons a slots ih =>
    simp only [tally, List.countP_cons, List.length_cons] at ih ⊢
    cases h : target a with
    | none =>
      simp
      omega
    | some b =>
      by_cases hb : b = current a <;> simp [hb] <;> omega

end SlotOutcome

namespace SlotPass

open SlotOutcome (tally)

theorem settle_outcome {p : SlotPass ManagedImage} {c : ClassId} {index : Nat} {current : Address}
    (h : p.image.slotAt? c index = some current) (target : Option Address) :
    (p.settle c index current target).outcome =
      p.outcome.merge (tally (fun _ : Unit => current) (fun _ => target) [()]) := by
  cases target with
  | none => simp [settle, skip, tally, SlotOutcome.merge]
  | some a =>
    simp only [settle, apply]
    by_cases ha : current = a
    · simp [ha, tally, SlotOutcome.merge]
    · obtain ⟨after, hw⟩ := ManagedImage.writeSlot_isOk h a
      have hwrite : CodeImage.writeSlot p.image c index a = .ok after := hw
      simp [ha, Ne.symm ha, hwrite, tally, SlotOutcome.merge]

variable {α : Type} {step : SlotPass ManagedImage → α → SlotPass ManagedImage}
  {index : α → Nat} {current : α → Address} {target : α → Option Address} {c : ClassId}
  {Q : SlotPass ManagedImage → Prop} {p : SlotPass ManagedImage} {slots : List α}

/-- What a pass over slots at distinct positions counts. -/
theorem Settles.outcome (h : Settles step index current target c Q)
    (hindex : slots.Pairwise fun a b => index a ≠ index b) (hq : Q p)
    (hcurrent : ∀ a ∈ slots, p.image.slotAt? c (index a) = some (current a)) :
    (slots.foldl step p).outcome = p.outcome.merge (tally current target slots) := by
  induction slots generalizing p with
  | nil => simp [tally, SlotOutcome.merge]
  | cons a slots ih =>
    obtain ⟨hne, hindex⟩ := List.pairwise_cons.1 hindex
    obtain ⟨hq', cache, hstep⟩ := h p a hq
    have ha := hcurrent a List.mem_cons_self
    have hrest : ∀ b ∈ slots, (step p a).image.slotAt? c (index b) = some (current b) := by
      intro b hb
      rw [hstep, slotAt?_settle ha, if_neg (Ne.symm (hne b hb))]
      exact hcurrent b (List.mem_cons_of_mem a hb)
    have hcounted : (step p a).outcome = p.outcome.merge (tally current target [a]) := by
      rw [hstep]
      exact settle_outcome ha (target a)
    rw [List.foldl_cons, ih hindex hq' hrest, hcounted, SlotOutcome.merge_assoc,
      ← SlotOutcome.tally_cons]

theorem Settles.image_of_settled (h : Settles step index current target c Q) (hq : Q p)
    (hsettled : ∀ a ∈ slots, ∀ b, target a = some b → b = current a) :
    (slots.foldl step p).image = p.image := by
  induction slots generalizing p with
  | nil => rfl
  | cons a slots ih =>
    obtain ⟨hq', cache, hstep⟩ := h p a hq
    rw [List.foldl_cons, ih hq' fun b hb => hsettled b (List.mem_cons_of_mem a hb), hstep]
    cases hb : target a with
    | none => rfl
    | some b =>
      obtain rfl := hsettled a List.mem_cons_self b hb
      simp [settle, apply]

/-- A pass whose slots all hold their targets writes nothing. -/
theorem Settles.of_settled (h : Settles step index current target c Q)
    (hindex : slots.Pairwise fun a b => index a ≠ index b) (hq : Q p)
    (hcurrent : ∀ a ∈ slots, p.image.slotAt? c (index a) = some (current a))
    (hsettled : ∀ a ∈ slots, ∀ b, target a = some b → b = current a) :
    (slots.foldl step p).outcome.written = p.outcome.written ∧
      (slots.foldl step p).image = p.image := by
  refine ⟨?_, h.image_of_settled hq hsettled⟩
  have hzero : (tally current target slots).written = 0 := by
    refine List.countP_eq_zero.2 fun a ha => ?_
    cases hb : target a with
    | none => simp
    | some b => simp [hsettled a ha b hb]
  rw [h.outcome hindex hq hcurrent]
  simp [SlotOutcome.merge, hzero]

/-- As many slots are written as have another content afterwards. -/
theorem Settles.written (h : Settles step index current target c Q) {size : Nat}
    (hpositions : slots.map index = (List.range size).drop 1)
    (hindex : slots.Pairwise fun a b => index a ≠ index b) (hq : Q p)
    (hcurrent : ∀ a ∈ slots, p.image.slotAt? c (index a) = some (current a)) :
    (tally current target slots).written =
      (changedPositions size (p.image.slotAt? c)
        ((slots.foldl step p).image.slotAt? c)).length := by
  obtain ⟨hwritten, hkept⟩ := h.foldl_slotAt? hindex hq hcurrent
  have hzero : ∀ a ∈ slots, index a ≠ 0 := by
    intro a ha
    have hmem : index a ∈ (List.range size).drop 1 := hpositions ▸ List.mem_map_of_mem ha
    rw [List.range_eq_range', List.drop_range', List.mem_range'_1] at hmem
    omega
  rw [changedPositions, ← List.countP_eq_length_filter,
    ← List.take_append_drop 1 (List.range size), List.countP_append, ← hpositions, List.countP_map]
  have hfirst : ((List.range size).take 1).countP (fun i =>
      (slots.foldl step p).image.slotAt? c i ≠ p.image.slotAt? c i) = 0 := by
    refine List.countP_eq_zero.2 fun i hi => ?_
    obtain rfl : i = 0 := by
      rw [List.take_range, List.mem_range] at hi
      omega
    simp [hkept 0 hzero]
  rw [hfirst, Nat.zero_add]
  refine List.countP_congr fun a ha => ?_
  simp only [Function.comp_apply, hwritten a ha, hcurrent a ha]
  cases target a <;> simp

end SlotPass

/-- The two versions have the same size, the same address point and as many slots. -/
def LinkedClass.SameShape (k l : LinkedClass) : Prop :=
  k.info.size = l.info.size ∧ k.info.addressPoint = l.info.addressPoint ∧
    k.slots.length = l.slots.length

theorem LinkedClass.sameShape_iff {k l : LinkedClass} :
    k.SameShape l ↔ layoutChange? k.info l.info = none ∧ k.slots.length = l.slots.length := by
  rw [SameShape, layoutChange?, ← and_assoc]
  split <;> simp [*]

/-- In a linked image the plain search finds the symbol at the address. -/
theorem SymbolCache.plain_eq {image : ManagedImage} (h : image.Linked) (a : Address)
    (scope : Option ModuleId) : plain image a scope = image.symbol? a := by
  rw [← resolve_empty, ((sound_empty image).resolve h a scope).1]

namespace SlotPolicy

/-- What a patch makes of an old version that has the shape of the new one. -/
structure Brings (policy : SlotPolicy) (image : ManagedImage) (m : ModuleId) (old new : ClassId)
    (size : Nat) (pass : SlotPass ManagedImage) : Prop where
  destructor : pass.image.slotAt? old 0 = image.slotAt? old 0
  /-- Where the new version holds patchable code, its newest implementation comes in. -/
  redirected : ∀ i a s, i ≠ 0 → image.slotAt? new i = some a →
    SymbolCache.plain image a (some m) = some s → s.kind.patchable policy.preserve = true →
    pass.image.slotAt? old i =
      some (if s.module = m then a else (policy.table.address? s.name).getD a)
  kept : ∀ i a, image.slotAt? new i = some a →
    (∀ s, SymbolCache.plain image a (some m) = some s →
      s.kind.patchable policy.preserve = false) →
    pass.image.slotAt? old i = image.slotAt? old i
  confined : Confined (· = old) image pass.image
  accepted : pass.outcome.layoutMismatch = false ∧ pass.outcome.failed = 0
  total : pass.outcome.written + pass.outcome.unchanged + pass.outcome.skipped = size - 1
  written : pass.outcome.written =
    (changedPositions size (image.slotAt? old) (pass.image.slotAt? old)).length

variable {policy : SlotPolicy} {image base : ManagedImage} {cache : SymbolCache} {m : ModuleId}
  {old new : ClassId} {k l : LinkedClass} {pass : SlotPass ManagedImage}

theorem positions_pairs (h : k.slots.length = l.slots.length) :
    (pairs k l).map (·.2) = (List.range k.slots.length).drop 1 := by
  rw [pairs, List.map_drop, List.zipIdx_map_snd, List.range_eq_range']
  simp [h]

/-- A patch between versions of one shape. -/
theorem brings_patch (hs : Served image image cache) (hk : image.class? old = some k)
    (hl : image.class? new = some l) (hshape : k.SameShape l)
    (h : policy.patch cache image old new m = .ok pass) :
    policy.Brings image m old new k.slots.length pass := by
  obtain ⟨hlayout, hlength⟩ := LinkedClass.sameShape_iff.1 hshape
  have hslot := slotAt?_patch hs hk hl hlayout hlength h
  obtain ⟨k', l', hk', hl', ⟨_, hbad⟩ | ⟨_, _, hpass⟩⟩ := patch_cases h
  · cases hk.symm.trans hk'
    cases hl.symm.trans hl'
    exact absurd ⟨hlayout, hlength⟩ hbad
  cases hk.symm.trans hk'
  cases hl.symm.trans hl'
  have hcurrent : ∀ slot ∈ pairs k l, image.slotAt? old slot.2 = some slot.1.1 :=
    fun slot hslot => ((mem_pairs hk hl).1 hslot).2.1
  have houtcome := (settles_patchSlot policy image m old).outcome (p := ⟨image, cache, {}⟩)
    (pairs_pairwise k l) hs hcurrent
  have hwritten := (settles_patchSlot policy image m old).written (p := ⟨image, cache, {}⟩)
    (positions_pairs hlength) (pairs_pairwise k l) hs hcurrent
  rw [← hpass] at houtcome hwritten
  have hplain (a : Address) := SymbolCache.plain_eq hs.linked a (some m)
  refine ⟨?_, ?_, ?_, patch_keeps (SlotPass.confined_kept old) h, ?_, ?_, ?_⟩
  · rw [hslot, brought_of_none (.inl rfl)]
  · intro i a s hi ha hsymbol hp
    obtain ⟨current, hc⟩ : ∃ current, image.slotAt? old i = some current := by
      rw [ManagedImage.slotAt?_eq hl] at ha
      rw [ManagedImage.slotAt?_eq hk]
      have hlt := (List.getElem?_eq_some_iff.1 ha).1
      rw [List.length_map, ← hlength] at hlt
      exact ⟨_, List.getElem?_eq_getElem (by rwa [List.length_map])⟩
    rw [hplain] at hsymbol
    rw [hslot]
    exact brought_of_some hi hc ha (target?_of_patchable hsymbol hp)
  · intro i a ha hnone
    rw [hslot]
    refine brought_of_none (.inr ?_)
    rw [ha, Option.bind_some]
    exact target?_eq_none fun s hsymbol => by simp [hnone s ((hplain a).trans hsymbol)]
  · simp [houtcome, SlotOutcome.merge, SlotOutcome.tally]
  · have htotal := SlotOutcome.tally_total (fun slot => slot.1.1)
      (fun slot => policy.target? image m slot.1.2) (pairs k l)
    rw [← List.length_map (·.2), positions_pairs hlength, List.length_drop,
      List.length_range] at htotal
    simpa [houtcome, SlotOutcome.merge] using htotal
  · rw [← hwritten, houtcome]
    simp [SlotOutcome.merge]

/-- A patch that is repeated at once writes nothing. -/
theorem patch_again (hs : Served image image cache) (hne : old ≠ new)
    (h : policy.patch cache image old new m = .ok pass) :
    ∃ again, policy.patch pass.cache pass.image old new m = .ok again ∧
      again.outcome.written = 0 ∧ again.image = pass.image := by
  obtain ⟨k, l, hk, hl, ⟨rfl, _⟩ | ⟨hlayout, hlength, _⟩⟩ := patch_cases h
  · exact ⟨_, h, rfl, rfl⟩
  have hconfined := patch_keeps (SlotPass.confined_kept old) h
  have hserved := patch_served hs h
  have hslot := slotAt?_patch hs hk hl hlayout hlength h
  obtain ⟨k', hk', hblank⟩ := hconfined.exists_blank hk
  have hl' : pass.image.class? new = some l := (hconfined.outside new (Ne.symm hne)).trans hl
  obtain ⟨again, hagain⟩ := policy.patch_isOk pass.cache m hk' hl'
  refine ⟨again, hagain, ?_⟩
  obtain ⟨k'', l'', hk'', hl'', ⟨rfl, _⟩ | ⟨_, _, rfl⟩⟩ := patch_cases hagain
  · exact ⟨rfl, rfl⟩
  have hcurrent : ∀ slot ∈ pairs k'' l'', pass.image.slotAt? old slot.2 = some slot.1.1 :=
    fun slot hslot => ((mem_pairs hk'' hl'').1 hslot).2.1
  have hsettled : ∀ slot ∈ pairs k'' l'', ∀ b,
      policy.target? image m slot.1.2 = some b → b = slot.1.1 := by
    rintro ⟨⟨current, wanted⟩, i⟩ hmem b hb
    obtain ⟨hi, hc, hw⟩ := (mem_pairs hk'' hl'').1 hmem
    rw [ManagedImage.slotAt?, hl', ← hl, ← ManagedImage.slotAt?] at hw
    rw [hslot, brought, if_neg hi, hw, Option.bind_some, hb] at hc
    obtain ⟨_, _, he⟩ := Option.map_eq_some_iff.1 hc
    exact he
  exact (settles_patchSlot policy image m old).of_settled (p := ⟨pass.image, pass.cache, {}⟩)
    (pairs_pairwise k'' l'') hserved hcurrent hsettled

/-- A patch of two versions with a cache that is told of every load: it is refused and changes
nothing, or it brings each slot of the old version to its target and counts what it did. Repeated at
once, it writes nothing. -/
theorem patch_exact {w₀ w : Process} (hw : Managed.Started w₀)
    (h : SymbolCache.Run World.image Managed.Step SymbolCache.KeepsModules w₀ {} w cache)
    (policy : SlotPolicy) (m : ModuleId) (hne : old ≠ new) (hk : w.image.class? old = some k)
    (hl : w.image.class? new = some l) :
    ∃ pass, policy.patch cache w.image old new m = .ok pass ∧
      (¬k.SameShape l → pass.outcome = { layoutMismatch := true } ∧ pass.image = w.image) ∧
      (k.SameShape l → policy.Brings w.image m old new k.slots.length pass) ∧
      ∃ again, policy.patch pass.cache pass.image old new m = .ok again ∧
        again.outcome.written = 0 ∧ again.image = pass.image := by
  obtain ⟨hstarted, hsound⟩ := h.sound hw
  have hs : Served w.image w.image cache := ⟨hstarted.valid.linked, hsound, rfl⟩
  obtain ⟨pass, hpass⟩ := policy.patch_isOk cache m hk hl
  refine ⟨pass, hpass, fun hshape => ?_, fun hshape => brings_patch hs hk hl hshape hpass,
    patch_again hs hne hpass⟩
  obtain ⟨k', l', hk', hl', ⟨rfl, _⟩ | ⟨hlayout, hlength, _⟩⟩ := patch_cases hpass
  · exact ⟨rfl, rfl⟩
  · cases hk.symm.trans hk'
    cases hl.symm.trans hl'
    exact absurd (LinkedClass.sameShape_iff.2 ⟨hlayout, hlength⟩) hshape

def loadedShape (w : Process) (body : Int) : Process :=
  (Managed.Command.load (oneClass { name := "Shape", slots := [("area", "Shape.area")] }
    [("Shape.area", body)])).perform w

theorem step_loadedShape (w : Process) (body : Int) : Managed.Step w (loadedShape w body) :=
  .act _ w

def twoShapes : Process := loadedShape (loadedShape SymbolCache.unloaded 1) 2

/-- The method of the earlier version gives way to that of the later one. -/
theorem patch_exact_twoShapes : ∃ pass again,
    patch ⟨{}, true⟩ {} twoShapes.image ⟨0⟩ ⟨1⟩ ⟨2⟩ = .ok pass ∧
      twoShapes.image.slotAt? ⟨0⟩ 1 = some ⟨0x1000⟩ ∧ pass.image.slotAt? ⟨0⟩ 1 = some ⟨0x1020⟩ ∧
      pass.outcome.written = 1 ∧
      patch ⟨{}, true⟩ pass.cache pass.image ⟨0⟩ ⟨1⟩ ⟨2⟩ = .ok again ∧
      again.outcome.written = 0 := by
  have hrun : SymbolCache.Run World.image Managed.Step SymbolCache.KeepsModules
      SymbolCache.unloaded {} twoShapes {} :=
    (SymbolCache.Run.start.load (step_loadedShape _ 1)).load (step_loadedShape _ 2)
  obtain ⟨pass, hpass, _, hbrings, again, hagain, hzero, _⟩ :=
    patch_exact SymbolCache.started_unloaded hrun ⟨{}, true⟩ ⟨2⟩ (by decide)
      (Option.some_get (by decide : (twoShapes.image.class? ⟨0⟩).isSome = true)).symm
      (Option.some_get (by decide : (twoShapes.image.class? ⟨1⟩).isSome = true)).symm
  have hdone := hbrings ⟨by decide, by decide, by decide⟩
  have hbefore : twoShapes.image.slotAt? ⟨0⟩ 1 = some ⟨0x1000⟩ := by decide
  have hafter : pass.image.slotAt? ⟨0⟩ 1 = some ⟨0x1020⟩ :=
    hdone.redirected 1 ⟨0x1020⟩ ⟨"Shape.area", ⟨0x1020⟩, ⟨2⟩, .method⟩ (by decide) (by decide)
      (by decide) (by decide)
  refine ⟨pass, again, hpass, hbefore, hafter, ?_, hagain, hzero⟩
  have hsize : ((twoShapes.image.class? ⟨0⟩).get (by decide)).slots.length = 2 := by decide
  rw [hdone.written, hsize]
  simp [changedPositions, List.range_succ, hdone.destructor, hbefore, hafter]

end SlotPolicy

end HotReload
