import Mathlib.Logic.Relation
import HotReload.Proofs.Registries
import HotReload.Proofs.Trimming

/-! # Base names

The base of a name is what stands before its first bracket, without the white space around it. What
follows a bracket does not count, so a specialization is filed under the base of its definition's
name, and a reload of a definition of that name looks it up there.
-/

namespace HotReload

open Relation (ReflTransGen)

open Managed (Allocates Command Held Process Step Valid specialize)

namespace TypeName

/-- The name is the base, with white space around it and, it may be, more from a bracket on. -/
structure IsBase (b name : String) : Prop where
  unbracketed : '<' ∉ b.toList
  trimmed : Text.Trimmed b.toList
  split : ∃ lead trail rest, Text.Blank lead ∧ Text.Blank trail ∧
    name.toList = lead ++ b.toList ++ trail ++ rest ∧ ∀ c ∈ rest.head?, c = '<'

theorem bracket_not_mem_of_blank {cs : List Char} (h : Text.Blank cs) : '<' ∉ cs := by
  intro hc
  have hblank := h '<' hc
  exact absurd hblank (by decide)

theorem head_of_unbracketed {name : String} {cs rest : List Char} (hcs : '<' ∉ cs)
    (hrest : ∀ c ∈ rest.head?, c = '<') (h : name.toList = cs ++ rest) : head name = cs := by
  have hall : ∀ c ∈ cs, (c != '<') = true := by
    intro c hc
    exact bne_iff_ne.2 fun he => hcs (he ▸ hc)
  rw [head, h, List.takeWhile_append_of_pos hall]
  cases rest with
  | nil => simp
  | cons c rest =>
    obtain rfl := hrest c rfl
    simp

theorem isBase_base (name : String) : IsBase (base name) name where
  unbracketed := by
    obtain ⟨lead, trail, _, _, hsplit⟩ := Text.exists_trimChars (head name)
    intro hc
    have hin : '<' ∈ head name := by
      rw [base, String.toList_ofList] at hc
      rw [hsplit]
      simp [hc]
    exact absurd (List.mem_takeWhile_imp hin) (by decide)
  trimmed := by
    rw [base, String.toList_ofList]
    exact Text.trimmed_trimChars _
  split := by
    obtain ⟨lead, trail, hlead, htrail, hsplit⟩ := Text.exists_trimChars (head name)
    refine ⟨lead, trail, name.toList.dropWhile (· != '<'), hlead, htrail, ?_, fun c hc => ?_⟩
    · rw [base, String.toList_ofList, ← hsplit, head, List.takeWhile_append_dropWhile]
    · have hstart := List.head?_dropWhile_not (· != '<') name.toList
      rw [Option.mem_def.1 hc] at hstart
      simpa using hstart

/-- The base is the only such part of a name. -/
theorem IsBase.eq {b name : String} (h : IsBase b name) : base name = b := by
  obtain ⟨lead, trail, rest, hlead, htrail, hsplit, hrest⟩ := h.split
  have hbefore : '<' ∉ lead ++ b.toList ++ trail := by
    simp only [List.mem_append, not_or]
    exact ⟨⟨bracket_not_mem_of_blank hlead, h.unbracketed⟩, bracket_not_mem_of_blank htrail⟩
  rw [base, head_of_unbracketed hbefore hrest hsplit,
    Text.trimChars_surrounded h.trimmed hlead htrail, String.ofList_toList]

theorem base_bracket (b rest : String) : base (b ++ "<" ++ rest) = base b := by
  obtain ⟨hbracket, htrimmed, lead, trail, more, hlead, htrail, hsplit, hmore⟩ := isBase_base b
  apply IsBase.eq
  refine ⟨hbracket, htrimmed, lead, trail, more ++ '<' :: rest.toList, hlead, htrail, ?_, ?_⟩
  · simp [String.toList_append, hsplit]
  · cases more with
    | nil => simp
    | cons c more => exact hmore

theorem base_base (name : String) : base (base name) = base name := by
  obtain ⟨hbracket, htrimmed, _⟩ := isBase_base name
  exact IsBase.eq ⟨hbracket, htrimmed, [], [], [], by simp [Text.Blank]⟩

theorem base_specialized (definition : String) (arguments : List String) :
    base (specialized definition arguments) = base definition := by
  rw [specialized, String.append_assoc, base_bracket]

end TypeName

namespace Managed

/-- From one process to another nothing that was there is filed anew or taken out of the records. -/
structure Recalls (w w' : Process) : Prop where
  recorders : w.recorders.size ≤ w'.recorders.size
  classes : w.image.classes.length ≤ w'.image.classes.length
  filed : ∀ r, r.index < w.recorders.size → ∀ c, c.index < w.image.classes.length → ∀ key,
    c ∈ (w'.recorded r).under key ↔ c ∈ (w.recorded r).under key

namespace Recalls

variable {u v w w' : Process}

theorem refl (w : Process) : Recalls w w :=
  ⟨Nat.le_refl _, Nat.le_refl _, fun _ _ _ _ _ => Iff.rfl⟩

theorem trans (h : Recalls u v) (h' : Recalls v w) : Recalls u w where
  recorders := Nat.le_trans h.recorders h'.recorders
  classes := Nat.le_trans h.classes h'.classes
  filed r hr c hc key :=
    (h'.filed r (Nat.lt_of_lt_of_le hr h.recorders) c (Nat.lt_of_lt_of_le hc h.classes) key).trans
      (h.filed r hr c hc key)

end Recalls

theorem Allocates.recalls {w w' : Process} (h : Allocates w w') : Recalls w w' := by
  obtain ⟨more, _, hfresh, hrecorded⟩ := h.recorded
  refine ⟨h.recorders, h.classes, fun r hr c hc key => ?_⟩
  rw [hrecorded r hr key, List.mem_append, or_iff_left]
  split
  · intro hin
    obtain ⟨e, he, rfl⟩ := List.mem_map.1 hin
    exact Nat.not_le_of_lt hc (hfresh e (List.mem_filter.1 he).1)
  · exact List.not_mem_nil

theorem recalls_held : Held fun w w' => Valid w → Valid w' ∧ Recalls w w' where
  refl w h := ⟨h, .refl w⟩
  trans h h' hu := by
    obtain ⟨hv, huv⟩ := h hu
    obtain ⟨hw, hvw⟩ := h' hv
    exact ⟨hw, huv.trans hvw⟩
  setField w o name v h := (allocates_handled.setField w o name v h).imp_right Allocates.recalls
  write w e h := (allocates_handled.write w e h).imp_right Allocates.recalls
  count w key h := (allocates_handled.count w key h).imp_right Allocates.recalls
  specialize hs h := (allocates_handled.specialize hs h).imp_right Allocates.recalls
  load hl h := (allocates_handled.load hl h).imp_right Allocates.recalls
  create hc h := (allocates_handled.create hc h).imp_right Allocates.recalls
  staged w s h := (allocates_handled.staged w s h).imp_right Allocates.recalls
  observed w r h :=
    ⟨valid_held.observed w r h, Nat.le_refl _, Nat.le_refl _, fun _ _ _ _ _ => Iff.rfl⟩
  named w names h := (allocates_handled.named w names h).imp_right Allocates.recalls
  recorders w h := (allocates_handled.recorders w h).imp_right Allocates.recalls
  confined hc h := (allocates_handled.confined hc h).imp_right Allocates.recalls

theorem recalls_of_steps {w w' : Process} (h : ReflTransGen Step w w') :
    Valid w → Valid w' ∧ Recalls w w' := by
  induction h with
  | refl => exact recalls_held.refl w
  | tail _ hs ih =>
    refine recalls_held.trans ih (hs.keeps recalls_held ?_)
    intro w image hr hw
    exact (allocates_handled.rebound hr hw).imp_right Allocates.recalls

/-- A new specialization is filed under the base of its definition's name and under no other key. -/
theorem under_specialize {w : Process} (hw : Valid w) {r : RecorderId}
    (hr : w.image.recorder = some r) (hlt : r.index < w.recorders.size) {definition : String}
    {arguments : List String} {c : ClassId} {w' : Process}
    (hnew : w.image.latestClass? (TypeName.specialized definition arguments) = none)
    (h : specialize w definition arguments = .ok (c, w')) (key : String) :
    c ∈ (w'.recorded r).under key ↔ key = TypeName.base definition := by
  obtain ⟨hold, _⟩ | ⟨k, _, _, rfl, rfl⟩ := specialize_eq_ok_iff.1 h
  · cases hnew.symm.trans hold
  · have hname : (k.specialized (TypeName.specialized definition arguments)).info.name =
        TypeName.specialized definition arguments := rfl
    rw [hw.under_allocated hname hlt key, List.mem_append, or_iff_right (hw.not_mem_under r key)]
    simp [hr, TypeName.base_specialized]

end Managed

theorem ManagedImage.exists_newestDefinition? {image : ManagedImage} {definition : String}
    (h : ∃ k ∈ image.classes, k.info.isGeneric = true ∧ k.info.name = definition) :
    ∃ k, image.newestDefinition? definition = some k := by
  obtain ⟨k, hk, hgeneric, hname⟩ := h
  refine Option.isSome_iff_exists.1 (List.getLast?_isSome.2 (List.ne_nil_of_mem (a := k) ?_))
  exact List.mem_filter.2 ⟨hk, by simp [hgeneric, hname]⟩

theorem GenericPass.patch_of_info {ι : Type} [CodeImage ι] {image : ι} {d : ClassId}
    {info : ClassInfo} (h : CodeImage.info? image d = some info) (policy : SlotPolicy)
    (recorded : Specializations) (cache : SymbolCache) (m : ModuleId) (hook : String) :
    patch policy true recorded cache image d m hook =
      .ok ((recorded.under info.base).foldl (patchOne policy d m hook) ⟨image, cache, {}⟩) := by
  simp [patch, h]

namespace Registries

/-- The base of a name is what stands before its first bracket, without the white space around it;
what follows a bracket does not change it. Whatever the name of a definition is, a specialization of
it that is created while a registry looks on is filed under one key, the base of the definition's
name. A definition of that name, also one that is loaded later, is patched under that very key, and
so the specialization is among those that are patched. -/
theorem specialize_filed :
    (∀ b rest, TypeName.base (b ++ "<" ++ rest) = TypeName.base b) ∧
    (∀ name, TypeName.base (TypeName.base name) = TypeName.base name ∧
      TypeName.IsBase (TypeName.base name) name) ∧
    ∀ gs (w : Process) (g : Registry), Registries gs w → g ∈ gs →
      w.image.recorder = some g.tracker.recorder → ∀ definition arguments,
      (∃ k ∈ w.image.classes, k.info.isGeneric = true ∧ k.info.name = definition) →
      w.image.latestClass? (TypeName.specialized definition arguments) = none →
      ∃ c w₁, specialize w definition arguments = .ok (c, w₁) ∧
        ∀ w₂, ReflTransGen Step w₁ w₂ → ∀ d info, CodeImage.info? w₂.image d = some info →
          info.name = definition →
          (∀ key, c ∈ (w₂.recorded g.tracker.recorder).under key ↔ key = info.base) ∧
          ∀ policy cache m hook, ∃ before after,
            GenericPass.patch policy true (w₂.recorded g.tracker.recorder) cache w₂.image d m hook =
              .ok ((before ++ c :: after).foldl (GenericPass.patchOne policy d m hook)
                ⟨w₂.image, cache, {}⟩) := by
  refine ⟨TypeName.base_bracket, fun name => ⟨TypeName.base_base name, TypeName.isBase_base name⟩,
    ?_⟩
  intro gs w g h hg hr definition arguments hgeneric hnew
  have hw := h.consistent.valid
  have hlt := h.consistent.exists_recorder g hg
  obtain ⟨k, hk⟩ := ManagedImage.exists_newestDefinition? hgeneric
  have hspecialize := Managed.specialize_of_newest hnew hk
  refine ⟨_, _, hspecialize, fun w₂ hsteps d info hinfo hname => ?_⟩
  have hvalid := (Managed.allocates_handled.specialize hspecialize hw).1
  obtain ⟨_, hrecalls⟩ := Managed.recalls_of_steps hsteps hvalid
  have hfiled (key : String) : ⟨w.image.classes.length⟩ ∈
      (w₂.recorded g.tracker.recorder).under key ↔ key = info.base := by
    rw [hrecalls.filed _ (by simpa using hlt) _ (by simp [ManagedImage.addClass]) key,
      Managed.under_specialize hw hr hlt hnew hspecialize key, ClassInfo.base, hname]
  refine ⟨hfiled, fun policy cache m hook => ?_⟩
  obtain ⟨before, after, hsplit⟩ := List.append_of_mem ((hfiled info.base).2 rfl)
  refine ⟨before, after, ?_⟩
  rw [GenericPass.patch_of_info hinfo, hsplit]

/-- A generic class whose name has white space and a bracket of its own. -/
def spacedBox : ModuleSpec Body := oneClass { name := " Box <A>", isGeneric := true } []

def spaced : Process := (Command.load spacedBox).perform (fresh true).2

def spacedInt : Process := (Command.specialize " Box <A>" ["Int"]).perform spaced

def spacedAgain : Process := (Command.load spacedBox).perform spacedInt

theorem specialize_filed_spaced : specialize spaced " Box <A>" ["Int"] = .ok (⟨1⟩, spacedInt) ∧
    (∀ key, ⟨1⟩ ∈ (spacedAgain.recorded ⟨0⟩).under key ↔ key = "Box") ∧
    ∃ before after, GenericPass.patch ⟨{}, false⟩ true (spacedAgain.recorded ⟨0⟩) {}
        spacedAgain.image ⟨2⟩ ⟨2⟩ "injected" =
      .ok ((before ++ ⟨1⟩ :: after).foldl
        (GenericPass.patchOne ⟨{}, false⟩ ⟨2⟩ ⟨2⟩ "injected") ⟨spacedAgain.image, {}, {}⟩) := by
  have hload : Step (fresh true).2 spaced := .act (.load spacedBox) _
  have hregistry : Registries [sole] spaced := sole_started.step hload rfl
  have hspecialize : specialize spaced " Box <A>" ["Int"] = .ok (⟨1⟩, spacedInt) := rfl
  obtain ⟨c, w₁, hc, hfiled⟩ := specialize_filed.2.2 [sole] spaced sole hregistry (by decide) rfl
    " Box <A>" ["Int"] ⟨_, List.mem_singleton_self _, rfl, rfl⟩ (by decide)
  obtain ⟨rfl, rfl⟩ := Prod.mk.inj (Except.ok.inj (hc.symm.trans hspecialize))
  have hagain : Step spacedInt spacedAgain := .act (.load spacedBox) _
  obtain ⟨info, hinfo, hname, hbase⟩ : ∃ info,
      CodeImage.info? spacedAgain.image ⟨2⟩ = some info ∧ info.name = " Box <A>" ∧
        info.base = "Box" := ⟨_, rfl, rfl, by decide⟩
  obtain ⟨hkey, hpatch⟩ := hfiled spacedAgain (.single hagain) ⟨2⟩ info hinfo hname
  exact ⟨hspecialize, fun key => hbase ▸ hkey key, hpatch _ _ _ _⟩

end Registries

end HotReload
