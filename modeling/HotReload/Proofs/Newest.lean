import HotReload.Proofs.Absorption
import HotReload.Proofs.Resolution

/-! # The newest implementation of a name

The newest implementation of a name is the last patchable export of the last module that has one.
A table into which every module was taken in turn holds exactly these implementations.
-/

namespace HotReload

namespace LinkedModule

def patchable? (k : LinkedModule) (preserve : Bool) (name : String) : Option Symbol :=
  k.exports.reverse.find? fun s => s.kind.patchable preserve && s.name == name

variable {k : LinkedModule} {name : String} {a : Address}

theorem exists_of_address? (preserve : Bool) (h : k.address? name = some a) :
    ∃ s ∈ k.exports, s.name = name ∧ s.address = a ∧
      (s.kind.patchable preserve = true → k.patchable? preserve name = some s) := by
  obtain ⟨s, hs, ha⟩ := Option.map_eq_some_iff.1 h
  have hname : s.name = name := by simpa using List.find?_some hs
  refine ⟨s, List.mem_reverse.1 (List.mem_of_find?_eq_some hs), hname, ha, fun hp => ?_⟩
  obtain ⟨_, before, after, hsplit, hbefore⟩ := List.find?_eq_some_iff_append.1 hs
  refine List.find?_eq_some_iff_append.2 ⟨by simp [hp, hname], before, after, hsplit, ?_⟩
  intro r hr
  have hne := hbefore r hr
  simp_all

theorem patchable?_eq_none {preserve : Bool} (h : k.address? name = none) :
    k.patchable? preserve name = none := by
  have hnone : k.symbol? name = none := Option.map_eq_none_iff.1 h
  refine List.find?_eq_none.2 fun s hs => ?_
  have hne := List.find?_eq_none.1 hnone s hs
  simp_all

/-- It is the last of the name among the patchable exports. -/
theorem find?_patchable (k : LinkedModule) (preserve : Bool) (name : String) :
    (k.exports.filter (·.kind.patchable preserve)).reverse.find? (·.name == name) =
      k.patchable? preserve name := by
  rw [← List.filter_reverse, List.find?_filter, patchable?]
  congr 1
  funext s
  rw [Bool.decide_and, Bool.decide_eq_true, Bool.decide_eq_true]

end LinkedModule

/-- The patchable export of a name in the last module that has one. -/
def ManagedImage.newest? (image : ManagedImage) (preserve : Bool) (name : String) :
    Option Symbol :=
  image.modules.reverse.findSome? (·.patchable? preserve name)

def Symbol.implementation (s : Symbol) : Implementation := ⟨s.address, s.module, s.module.number⟩

namespace ManagedImage

variable {image after : ManagedImage} {preserve : Bool} {name : String} {s : Symbol}

theorem Linked.symbol?_of_address? (h : image.Linked) (preserve : Bool) {k : LinkedModule}
    (hk : k ∈ image.modules) {a : Address} (ha : k.address? name = some a) :
    ∃ s ∈ k.exports, image.symbol? a = some s ∧ s.name = name ∧
      (s.kind.patchable preserve = true → k.patchable? preserve name = some s) := by
  obtain ⟨s, hs, hname, rfl, hpatchable⟩ := LinkedModule.exists_of_address? preserve ha
  exact ⟨s, hs, h.symbol?_of_mem (List.mem_flatMap.2 ⟨k, hk, hs⟩), hname, hpatchable⟩

theorem newest?_of_modules (h : after.modules.map (·.unbound) = image.modules.map (·.unbound)) :
    after.newest? preserve name = image.newest? preserve name := by
  have he (modules : List LinkedModule) :
      modules.reverse.findSome? (·.patchable? preserve name) =
        (modules.map (·.unbound)).reverse.findSome? (·.patchable? preserve name) := by
    rw [← List.map_reverse, List.findSome?_map]
    rfl
  rw [newest?, newest?, he, h, ← he]

theorem newest?_link (image : ManagedImage) (m : ModuleSpec Body) (preserve : Bool)
    (name : String) : (image.link m).2.newest? preserve name =
      ((image.linked m).patchable? preserve name).or (image.newest? preserve name) := by
  rw [newest?, link_modules, List.reverse_append, List.reverse_singleton, List.singleton_append,
    List.findSome?_cons]
  cases (image.linked m).patchable? preserve name <;> rfl

theorem name_of_newest? (h : image.newest? preserve name = some s) : s.name = name := by
  obtain ⟨_, k, _, _, hk, _⟩ := List.findSome?_eq_some_iff.1 h
  have hs := List.find?_some hk
  rw [Bool.and_eq_true] at hs
  exact eq_of_beq hs.2

theorem mem_of_newest? (h : image.newest? preserve name = some s) : s ∈ image.symbols := by
  obtain ⟨_, k, _, hsplit, hk, _⟩ := List.findSome?_eq_some_iff.1 h
  have hmem : k ∈ image.modules := by
    rw [← List.mem_reverse, hsplit]
    simp
  exact List.mem_flatMap.2 ⟨k, hmem, List.mem_reverse.1 (List.mem_of_find?_eq_some hk)⟩

theorem patchable_of_newest? (h : image.newest? preserve name = some s) :
    s.kind.patchable preserve = true := by
  obtain ⟨_, k, _, _, hk, _⟩ := List.findSome?_eq_some_iff.1 h
  have hs := List.find?_some hk
  rw [Bool.and_eq_true] at hs
  exact hs.1

theorem newest?_isSome_of_mem (hs : s ∈ image.symbols) (hp : s.kind.patchable preserve = true) :
    (image.newest? preserve s.name).isSome := by
  obtain ⟨k, hk, hin⟩ := List.mem_flatMap.1 hs
  rw [newest?, List.findSome?_isSome_iff]
  refine ⟨k, List.mem_reverse.2 hk, ?_⟩
  rw [LinkedModule.patchable?, List.find?_isSome]
  exact ⟨s, List.mem_reverse.2 hin, by simp [hp]⟩

/-- There is a newest implementation of each name that some module provides. -/
theorem newest?_isSome : (image.newest? preserve name).isSome ↔
    ∃ m, Interposition.Provides preserve image m name := by
  constructor
  · intro h
    obtain ⟨s, hs⟩ := Option.isSome_iff_exists.1 h
    obtain ⟨m, k, hk, hin⟩ := mem_symbols.1 (mem_of_newest? hs)
    have hexports : s ∈ CodeImage.exports image m := by simpa [CodeImage.exports, hk] using hin
    exact ⟨m, s, hexports, patchable_of_newest? hs, name_of_newest? hs⟩
  · rintro ⟨m, s, hs, hp, rfl⟩
    exact newest?_isSome_of_mem (mem_symbols_of_exports hs) hp

end ManagedImage

namespace Interposition

/-- The table holds the newest implementation of each name, and nothing else. -/
def IsNewest (t : Interposition) (preserve : Bool) (image : ManagedImage) : Prop :=
  ∀ name, t.entry? name = (image.newest? preserve name).map (·.implementation)

theorem isNewest_empty (preserve hasHook : Bool) :
    IsNewest {} preserve (ManagedImage.empty hasHook) := fun _ => rfl

/-- Recording symbols of the highest place in load order makes the last of a name its entry. -/
theorem entry?_recordEach (m : ModuleId) (sequence : Nat) (name : String) (ss : List Symbol)
    (acc : List Rebinding × Interposition)
    (h : ∀ i, entry? acc.2 name = some i → i.sequence ≤ sequence) :
    entry? (ss.foldl (recordOne m sequence) acc).2 name =
      ((ss.reverse.find? (·.name == name)).map fun s => ⟨s.address, m, sequence⟩).or
        ( entry? acc.2 name) := by
  induction ss generalizing acc with
  | nil => rfl
  | cons s ss ih =>
    have hstep : entry? (recordOne m sequence acc s).2 name =
        if s.name = name then some ⟨s.address, m, sequence⟩ else entry? acc.2 name := by
      rw [recordOne_snd]
      by_cases hs : s.name = name
      · subst hs
        rw [if_pos rfl, entry?_record_self]
        cases hold : entry? acc.2 s.name with
        | none => rfl
        | some old =>
          have hle := h old hold
          simp [Option.filter, Nat.not_lt.2 hle]
      · rw [if_neg hs, entry?_record_of_ne _ hs]
    have hle : ∀ i, entry? (recordOne m sequence acc s).2 name = some i →
        i.sequence ≤ sequence := by
      intro i hi
      rw [hstep] at hi
      split at hi
      · cases hi
        exact Nat.le_refl _
      · exact h i hi
    rw [List.foldl_cons, ih _ hle, hstep, List.reverse_cons, List.find?_append]
    by_cases hs : s.name = name
    · cases ss.reverse.find? (·.name == name) <;> simp [hs]
    · simp [hs]

variable {t : Interposition} {preserve : Bool} {image : ManagedImage}

theorem IsNewest.of_modules (h : t.IsNewest preserve image) {after : ManagedImage}
    (hmodules : after.modules.map (·.unbound) = image.modules.map (·.unbound)) :
    t.IsNewest preserve after := by
  intro name
  rw [ManagedImage.newest?_of_modules hmodules]
  exact h name

/-- What the table holds is a patchable symbol of the name. -/
theorem IsNewest.exists_symbol? (h : t.IsNewest preserve image) (hlinked : image.Linked)
    {name : String} {b : Address} (hb : t.address? name = some b) :
    ∃ s, image.symbol? b = some s ∧ s.name = name ∧ s.kind.patchable preserve = true := by
  rw [address?, h name] at hb
  obtain ⟨_, hi, rfl⟩ := Option.map_eq_some_iff.1 hb
  obtain ⟨s, hs, rfl⟩ := Option.map_eq_some_iff.1 hi
  exact ⟨s, hlinked.symbol?_of_mem (ManagedImage.mem_of_newest? hs),
    ManagedImage.name_of_newest? hs, ManagedImage.patchable_of_newest? hs⟩

/-- Taking in the module that was linked last keeps a table up to date. -/
theorem IsNewest.absorb (h : t.IsNewest preserve image) (hlinked : image.Linked)
    (m : ModuleSpec Body) {after : ManagedImage}
    (hmodules : after.modules = (image.link m).2.modules) {done}
    (hdone : t.absorb preserve after image.nextModule = .ok done) :
    done.table.IsNewest preserve done.image := by
  apply IsNewest.of_modules _ (absorb_rebound hdone).unbound
  intro name
  have hunbound : after.modules.map (·.unbound) = (image.link m).2.modules.map (·.unbound) := by
    rw [hmodules]
  rw [ManagedImage.newest?_of_modules hunbound, ManagedImage.newest?_link]
  obtain ⟨sequence, batch, hs, hr, _⟩ := absorb_cases hdone
  have ht : done.table = (recordExports preserve image.nextModule sequence
    (CodeImage.exports after image.nextModule) t).2 := congrArg Prod.snd hr
  have hmodule : after.module? image.nextModule = some (image.linked m) := by
    rw [ManagedImage.nextModule, ManagedImage.module?_eq, hmodules, ManagedImage.link_modules,
      List.getElem?_concat_length]
  have hsequence : sequence = image.nextModule.number := by
    simpa [CodeImage.sequence?, hmodule] using hs.symm
  have hexports : CodeImage.exports after image.nextModule = (image.linked m).exports := by
    simp [CodeImage.exports, hmodule]
  rw [ht, recordExports_eq, hexports, entry?_recordEach]
  · rw [LinkedModule.find?_patchable, h name, hsequence]
    cases hs : (image.linked m).patchable? preserve name with
    | none => rfl
    | some s =>
      have hmem := List.mem_reverse.1 (List.mem_of_find?_eq_some hs)
      obtain ⟨hmodule, _⟩ := image.mem_exports_linked m hmem
      simp [Symbol.implementation, hmodule]
  · intro i hi
    rw [h name] at hi
    obtain ⟨s, hs, rfl⟩ := Option.map_eq_some_iff.1 hi
    have hle := hlinked.module_le (ManagedImage.mem_of_newest? hs)
    rw [hsequence]
    exact Nat.le_succ_of_le hle

end Interposition

end HotReload
